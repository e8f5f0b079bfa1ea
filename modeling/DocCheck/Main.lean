import DocCheck.Command

/-!
The program: it reads the ruleset, prints what the arguments come to, and ends with the exit code. It says
where the service listens; taking connections is left to the host.
-/

set_option autoImplicit false

namespace DocCheck.Command

/-- The bytes of a file. A fault that no message about rulesets names is passed on. -/
def readFile (path : String) : IO (Except ReadFault ByteArray) := do
  try
    return .ok (← IO.FS.readBinFile path)
  catch
    | .noFileOrDirectory .. => return .error .notFound
    | .inappropriateType _ code _ =>
      return .error (if code = 21 then .isADirectory else .notADirectory)
    | fault => throw fault

/-- Prints an outcome; gives the exit code. -/
def Outcome.print : Outcome → IO UInt32
  | .exit code out err => do
    IO.print out
    IO.eprint err
    return code.toUInt32
  | .listening line _ _ => do
    IO.print line
    return 0

end DocCheck.Command

def main (arguments : List String) : IO UInt32 := do
  (← DocCheck.Command.run DocCheck.Command.readFile arguments).print
