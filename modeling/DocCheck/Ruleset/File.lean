import DocCheck.Ruleset.Json
import DocCheck.Ruleset.Standard
import DocCheck.Ruleset.Yaml
import DocCheck.Text.Blank

set_option autoImplicit false

namespace DocCheck

open Text

def Path.parts (path : List Char) : List (List Char) :=
  path.splitOn '/'

/-- The last part that names something. A trailing slash and a trailing `.` do not count, and `..`
names nothing. -/
def Path.fileName? (path : List Char) : Option (List Char) :=
  match (Path.parts path).reverse.dropWhile fun part => part = [] ∨ part = ['.'] with
  | [] => none
  | name :: _ => if name = ['.', '.'] then none else some name

/-- What stands after the last dot of the name, unless that dot is its first character. -/
def Path.extension? (path : List Char) : Option (List Char) :=
  (Path.fileName? path).bind fun name =>
    let ext := (name.reverse.takeWhile (· ≠ '.')).reverse
    if ext.length + 1 < name.length then some ext else none

inductive RulesetFormat where
  | json
  | yaml
  deriving DecidableEq, Repr

def RulesetFormat.name : RulesetFormat → String
  | .json => "json"
  | .yaml => "yaml"

/-- The format that the extension of a path stands for, whatever the case of its ASCII letters. -/
def RulesetFormat.ofPath? (path : String) : Option RulesetFormat :=
  (Path.extension? path.toList).bind fun ext =>
    if eqIgnoringCase ext ['j', 's', 'o', 'n'] then some .json
    else if eqIgnoringCase ext ['y', 'a', 'm', 'l'] ∨ eqIgnoringCase ext ['y', 'm', 'l'] then
      some .yaml
    else none

inductive ReadFault where
  | notFound
  | notADirectory
  | isADirectory
  | invalidUtf8
  deriving DecidableEq, Repr

def ReadFault.message : ReadFault → String
  | notFound => "No such file or directory (os error 2)"
  | notADirectory => "Not a directory (os error 20)"
  | isADirectory => "Is a directory (os error 21)"
  | invalidUtf8 => "stream did not contain valid UTF-8"

inductive LoadFault where
  | unreadable (path : String) (cause : ReadFault)
  | unsupportedFormat (path : String)
  | json (cause : Json.Fault)
  | yaml
  | ruleset (cause : RulesetFault)
  deriving Repr

def LoadFault.message : LoadFault → String
  | unreadable path cause => "Failed to read lint config " ++ path ++ ": " ++ cause.message
  | unsupportedFormat path =>
    "Unsupported lint config format: " ++ path ++ " (expected .json, .yaml or .yml)"
  | json cause => "Invalid JSON lint config: " ++ cause.message
  | yaml => "Invalid YAML lint config"
  | ruleset cause => cause.message

/-- The text of the fault beneath, where there is one. -/
def LoadFault.source? : LoadFault → Option String
  | unreadable _ cause => some cause.message
  | json cause => some cause.message
  | ruleset (.invalidOptions _ cause) => some cause.message
  | _ => none

def Ruleset.parse (format : RulesetFormat) (text : String) : Except LoadFault Ruleset :=
  let raw : Except LoadFault RawRuleset :=
    match format with
    | .json => (RawRuleset.ofJson text).mapError .json
    | .yaml => (RawRuleset.ofYaml? text).elim (.error .yaml) .ok
  raw.bind fun raw => raw.toRuleset.mapError .ruleset

/-- The text of a file; its bytes must be UTF-8. -/
def decodeFile (bytes : ByteArray) : Except ReadFault String :=
  match String.fromUTF8? bytes with
  | some text => .ok text
  | none => .error .invalidUtf8

/-- Loads the ruleset at `path`. The extension is looked at before the file. -/
def Ruleset.load {m : Type → Type} [Monad m] (read : String → m (Except ReadFault ByteArray))
    (path : String) : m (Except LoadFault Ruleset) :=
  match RulesetFormat.ofPath? path with
  | none => return .error (.unsupportedFormat path)
  | some format => do
    let content := (← read path).bind decodeFile
    return (content.mapError (.unreadable path)).bind (Ruleset.parse format)

end DocCheck
