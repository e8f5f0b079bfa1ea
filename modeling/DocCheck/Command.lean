import DocCheck.Ruleset.File
import DocCheck.Word

/-!
The command line of the service: its options, what is refused, and what is printed before it listens.
Arguments are read from left to right. The value of an option is checked when the next option is met
or the arguments end.
-/

set_option autoImplicit false

namespace DocCheck.Command

inductive Flag where
  | host
  | port
  | config
  | maxBodyBytes
  | timeoutSecs
  | verbose
  | help
  | version
  deriving DecidableEq, Repr

namespace Flag

def all : List Flag :=
  [.host, .port, .config, .maxBodyBytes, .timeoutSecs, .verbose, .help, .version]

def long : Flag → String
  | host => "host"
  | port => "port"
  | config => "config"
  | maxBodyBytes => "max-body-bytes"
  | timeoutSecs => "timeout-secs"
  | verbose => "verbose"
  | help => "help"
  | version => "version"

def ofLong? (name : List Char) : Option Flag :=
  all.find? (·.long.toList == name)

def ofShort? : Char → Option Flag
  | 'v' => some .verbose
  | 'h' => some .help
  | 'V' => some .version
  | _ => none

def takesValue : Flag → Bool
  | host | port | config | maxBodyBytes | timeoutSecs => true
  | verbose | help | version => false

/-- The flag as messages show it. -/
def usage : Flag → String
  | host => "--host <HOST>"
  | port => "--port <PORT>"
  | config => "--config <CONFIG>"
  | maxBodyBytes => "--max-body-bytes <MAX_BODY_BYTES>"
  | timeoutSecs => "--timeout-secs <TIMEOUT_SECS>"
  | verbose => "--verbose..."
  | help => "--help"
  | version => "--version"

end Flag

structure Settings where
  host : String := "127.0.0.1"
  port : Nat := 6161
  /-- The path of the ruleset; the embedded one if there is none. -/
  config : Option String := none
  maxBodyBytes : Nat := 10485760
  timeoutSecs : Nat := 30
  deriving DecidableEq, Repr

/-- A number from 0 to 65535. It is read as a signed word before its range is checked. -/
def readPort (text : List Char) : Except NumberFault Nat :=
  match text with
  | [] => .error .empty
  | c :: rest =>
    match digitsValue? (if c = '+' ∨ c = '-' then rest else c :: rest) with
    | none => .error .invalidDigit
    | some n =>
      if c = '-' then
        if signedWordLimit < n then .error .tooSmall
        else if n = 0 then .ok 0
        else .error (.outOfRange (-Int.ofNat n) 65535)
      else if signedWordLimit ≤ n then .error .tooLarge
      else if n ≤ 65535 then .ok n
      else .error (.outOfRange n 65535)

/-- Why the arguments are refused. `used` holds the flags that were met before. -/
inductive Fault where
  | unexpectedArgument (argument : String) (similar : Option Flag) (used : List Flag)
  | unneededValue (flag : Flag) (value : String) (used : List Flag)
  | repeated (flag : Flag)
  | missingValue (flag : Flag)
  | invalidNumber (flag : Flag) (value : String) (cause : NumberFault)
  deriving DecidableEq, Repr

namespace Fault

def summary : Fault → String
  | unexpectedArgument argument none _ => "unexpected argument '" ++ argument ++ "' found"
  | unexpectedArgument argument (some flag) _ =>
    "unexpected argument '" ++ argument ++ "' found\n\n  tip: a similar argument exists: '--" ++
      flag.long ++ "'"
  | unneededValue flag value _ =>
    "unexpected value '" ++ value ++ "' for '" ++ flag.usage ++ "' found; no more were expected"
  | repeated flag => "the argument '" ++ flag.usage ++ "' cannot be used multiple times"
  | missingValue flag =>
    "a value is required for '" ++ flag.usage ++ "' but none was supplied"
  | invalidNumber flag value cause =>
    "invalid value '" ++ value ++ "' for '" ++ flag.usage ++ "': " ++ cause.message

/-- The flags of the usage line; without any, it says only that there are options. -/
def usageOf (flags : List Flag) : String :=
  "Usage: docgate-server " ++
    (if flags = [] then "[OPTIONS]" else " ".intercalate (flags.map Flag.usage)) ++ "\n\n"

/-- The usage line, for faults that are not about one value. -/
def usage : Fault → String
  | unexpectedArgument _ none used => usageOf used
  | unexpectedArgument _ (some flag) used => usageOf (if flag ∈ used then used else used ++ [flag])
  | unneededValue flag _ used => usageOf (if flag ∈ used then used else used ++ [flag])
  | repeated _ => usageOf []
  | missingValue _ | invalidNumber _ _ _ => ""

def message (fault : Fault) : String :=
  "error: " ++ fault.summary ++ "\n\n" ++ fault.usage ++ "For more information, try '--help'.\n"

end Fault

inductive Request where
  | help
  | version
  | refuse (fault : Fault)
  | serve (settings : Settings)
  deriving DecidableEq, Repr

structure Progress where
  settings : Settings := {}
  /-- The flags met, in the order of their first use. -/
  used : List Flag := []
  /-- The option met last, while its value can still follow or has not been checked. -/
  pending : Option (Flag × Option String) := none
  deriving DecidableEq, Repr

namespace Progress

def assign (settings : Settings) (flag : Flag) (value : String) : Except Fault Settings :=
  let invalid := Fault.invalidNumber flag value
  match flag with
  | .host => .ok { settings with host := value }
  | .config =>
    if value = "" then .error (.missingValue flag) else .ok { settings with config := some value }
  | .port =>
    ((readPort value.toList).mapError invalid).map fun n => { settings with port := n }
  | .maxBodyBytes =>
    ((readSize value.toList).mapError invalid).map fun n => { settings with maxBodyBytes := n }
  | .timeoutSecs =>
    ((readSize value.toList).mapError invalid).map fun n => { settings with timeoutSecs := n }
  | .verbose | .help | .version => .ok settings

/-- Checks one use of an option: it has a value, it is the first use, and the value fits. -/
def use (state : Progress) (flag : Flag) (value : Option String) : Except Fault Progress :=
  match value with
  | none => .error (.missingValue flag)
  | some value =>
    if flag ∈ state.used then
      .error (.repeated flag)
    else
      (assign state.settings flag value).map fun settings =>
        { settings, used := state.used ++ [flag], pending := none }

/-- Checks the option that is pending. -/
def settle (state : Progress) : Except Fault Progress :=
  match state.pending with
  | none => .ok state
  | some (flag, value) => { state with pending := none }.use flag value

/-- The flags used so far; a pending option that does not check out is left aside. -/
def usedFlags (state : Progress) : List Flag :=
  match state.settle with
  | .ok state => state.used
  | .error _ => state.used

def mark (state : Progress) (flag : Flag) : Progress :=
  { state with used := if flag ∈ state.used then state.used else state.used ++ [flag] }

/-- Reads letters after a single hyphen. -/
def shorts (state : Progress) : List Char → Except Request Progress
  | [] => .ok state
  | c :: rest =>
    match Flag.ofShort? c with
    | none => .error (.refuse (.unexpectedArgument (String.ofList ['-', c]) none []))
    | some flag =>
      match state.settle with
      | .error fault => .error (.refuse fault)
      | .ok state =>
        match flag with
        | .help => .error .help
        | .version => .error .version
        | _ => shorts (state.mark flag) rest

end Progress

/-- How many characters of `a` have an equal partner in `b` no further away than `window`; gives the
matched characters of both in their orders. -/
def matched (window index : Nat) (taken : List Nat) (b : List Char) :
    List Char → List Char × List Nat
  | [] => ([], taken)
  | c :: rest =>
    let partner := (List.range b.length).find? fun j =>
      b[j]? = some c ∧ j ∉ taken ∧ index ≤ j + window ∧ j ≤ index + window
    match partner with
    | none => matched window (index + 1) taken b rest
    | some j =>
      let (more, taken) := matched window (index + 1) (j :: taken) b rest
      (c :: more, taken)

/-- Likeness of two words, as a fraction: a third of the shares of matched characters in both and of
those matched in order. -/
def likeness (a b : List Char) : Nat × Nat :=
  let window := max a.length b.length / 2 - 1
  let (inA, taken) := matched window 0 [] b a
  let inB := (taken.mergeSort (· ≤ ·)).filterMap (b[·]?)
  let m := inA.length
  let moved := ((inA.zip inB).filter fun (x, y) => x ≠ y).length / 2
  if m = 0 then (0, 1)
  else
    (m * m * b.length + m * m * a.length + (m - moved) * a.length * b.length,
      3 * m * a.length * b.length)

/-- The flag most like `name`, if it is more than seven tenths like it. -/
def similar? (name : List Char) : Option Flag :=
  let close := Flag.all.filter fun flag =>
    let (n, d) := likeness name flag.long.toList
    7 * d < 10 * n
  close.foldl (fun best flag =>
    match best with
    | none => some flag
    | some other =>
      let (n, d) := likeness name flag.long.toList
      let (n', d') := likeness name other.long.toList
      if n' * d < n * d' then some flag else some other) none

/-- Reads an argument that starts with two hyphens; `name` and `value` stand around the first `=`. -/
def Progress.long (state : Progress) (name : List Char) (value : Option String) :
    Except Request Progress :=
  match Flag.ofLong? name with
  | none =>
    .error (.refuse
      (.unexpectedArgument ("--" ++ String.ofList name) (similar? name) state.usedFlags))
  | some flag =>
    if flag.takesValue then
      match state.settle with
      | .error fault => .error (.refuse fault)
      | .ok state =>
        match value with
        | none => .ok { state with pending := some (flag, none) }
        | some value => (state.use flag (some value)).mapError .refuse
    else
      match value with
      | some value => .error (.refuse (.unneededValue flag value state.used))
      | none =>
        match state.settle with
        | .error fault => .error (.refuse fault)
        | .ok state =>
          match flag with
          | .help => .error .help
          | .version => .error .version
          | _ => .ok (state.mark flag)

/-- Reads one argument that is not `--`. -/
def Progress.read (state : Progress) (argument : String) : Except Request Progress :=
  match argument.toList, state.pending with
  | '-' :: '-' :: body, _ =>
    let attached := body.dropWhile (· ≠ '=')
    state.long (body.takeWhile (· ≠ '='))
      (if attached = [] then none else some (String.ofList (attached.drop 1)))
  | '-' :: c :: rest, _ => state.shorts (c :: rest)
  | _, some (flag, none) => .ok { state with pending := some (flag, some argument) }
  | _, _ => .error (.refuse (.unexpectedArgument argument none []))

/-- Reads arguments. Nothing may follow `--`. -/
def readFrom (state : Progress) : List String → Request
  | [] =>
    match state.settle with
    | .ok state => .serve state.settings
    | .error fault => .refuse fault
  | argument :: rest =>
    if argument = "--" then
      match rest with
      | [] => readFrom state []
      | next :: _ => .refuse (.unexpectedArgument next none [])
    else
      match state.read argument with
      | .ok state => readFrom state rest
      | .error request => request

def Request.ofArguments (arguments : List String) : Request :=
  readFrom {} arguments

def helpLines : List String :=
  ["Local MDX syntax and markdown style validation service", "",
    "Usage: docgate-server [OPTIONS]", "",
    "Options:",
    "      --host <HOST>",
    "          Address to bind [default: 127.0.0.1]",
    "      --port <PORT>",
    "          Port to listen on [default: 6161]",
    "      --config <CONFIG>",
    "          Lint ruleset (.json, .yaml or .yml); the embedded ruleset if omitted",
    "      --max-body-bytes <MAX_BODY_BYTES>",
    "          Maximum request body size in bytes [default: 10485760]",
    "      --timeout-secs <TIMEOUT_SECS>",
    "          Per-request processing timeout in seconds [default: 30]",
    "  -v, --verbose...",
    "          Log requests (-v) and response bodies (-vv)",
    "  -h, --help",
    "          Print help",
    "  -V, --version",
    "          Print version", "",
    "Examples:",
    "  docgate-server",
    "  docgate-server --port 7000 --config .markdownlint.yaml -v", ""]

def helpText : String :=
  "\n".intercalate helpLines

def versionText : String :=
  "docgate-server 0.1.0\n"

inductive Outcome where
  | exit (code : Nat) (out err : String)
  /-- The service listens; `settings` and `ruleset` are what it answers by. -/
  | listening (line : String) (settings : Settings) (ruleset : Ruleset)

/-- The one line that tells of a ruleset that cannot be loaded: the fault and the one beneath it. -/
def loadFailure (fault : LoadFault) : String :=
  "Error: Failed to load lint ruleset: " ++ fault.message ++
    (match fault.source? with
      | none => ""
      | some source => ": " ++ source) ++ "\n"

def run {m : Type → Type} [Monad m] (read : String → m (Except ReadFault ByteArray))
    (arguments : List String) : m Outcome := do
  match Request.ofArguments arguments with
  | .help => return .exit 0 helpText ""
  | .version => return .exit 0 versionText ""
  | .refuse fault => return .exit 2 "" fault.message
  | .serve settings =>
    let loaded ←
      match settings.config with
      | none => pure (.ok .embedded)
      | some path => Ruleset.load read path
    match loaded with
    | .error fault => return .exit 1 "" (loadFailure fault)
    | .ok ruleset =>
      return .listening
        ("docgate server listening on http://" ++ settings.host ++ ":" ++ toString settings.port ++
          "\n")
        settings ruleset

end DocCheck.Command
