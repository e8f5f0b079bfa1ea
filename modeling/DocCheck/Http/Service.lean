import DocCheck.Http.Query
import DocCheck.Json.Escape
import DocCheck.Mdx.Check
import DocCheck.Session

/-!
The HTTP service: a POST to `/markdownlint` lints its body, a POST to any other path checks it as MDX,
and every other method is refused before the body is looked at.
-/

set_option autoImplicit false

namespace DocCheck.Http

structure Request where
  method : String
  uri : String
  body : ByteArray

structure Reply where
  status : Nat
  contentType : Option String
  body : List Char
  deriving DecidableEq, Repr

/-- What a request is about: the path as it is written, and the query. -/
structure Target where
  path : List UInt8
  query : List UInt8
  deriving DecidableEq, Repr

namespace Target

def ofPathAndQuery (text : List UInt8) : Target :=
  let text := text.takeWhile (· ≠ 35)
  ⟨text.takeWhile (· ≠ 63), (text.dropWhile (· ≠ 63)).drop 1⟩

/-- What stands after `://`, if a scheme does. -/
def afterScheme? (uri : List UInt8) : Option (List UInt8) :=
  match uri.dropWhile (· ≠ 58) with
  | 58 :: 47 :: 47 :: rest =>
    if (uri.takeWhile (· ≠ 58)).any (fun byte => byte = 47 || byte = 63 || byte = 35) then none
    else some rest
  | _ => none

/-- The target of a URI. After a scheme and a host an empty path is `/`. -/
def ofUri (uri : String) : Target :=
  let bytes := uri.toUTF8.toList
  match afterScheme? bytes with
  | none => ofPathAndQuery bytes
  | some rest =>
    let located := rest.dropWhile fun byte => byte ≠ 47 && byte ≠ 63 && byte ≠ 35
    ofPathAndQuery (if located.head? = some 47 then located else 47 :: located)

def lintPath : List UInt8 :=
  "/markdownlint".toUTF8.toList

/-- Whether anything answers for the path: it starts with a slash. -/
def isRouted (target : Target) : Bool :=
  target.path.head? = some 47

end Target

inductive Refusal where
  | notFound
  | methodNotAllowed
  | bodyTooLarge
  | invalidUtf8
  | notMdx (message : List Char)
  | timedOut
  /-- The work panics. The number of its task is left out of the message. -/
  | crashed
  deriving DecidableEq, Repr

namespace Refusal

def status : Refusal → Nat
  | notFound => 404
  | methodNotAllowed => 405
  | bodyTooLarge => 413
  | invalidUtf8 => 400
  | notMdx _ | crashed => 500
  | timedOut => 504

def message : Refusal → List Char
  | notFound => []
  | methodNotAllowed => "Only POST is supported".toList
  | bodyTooLarge => "Failed to buffer the request body: length limit exceeded".toList
  | invalidUtf8 => "Request body is not valid UTF-8".toList
  | notMdx message => Mdx.outcomeMessage (some message)
  | timedOut => "Request timed out".toList
  | crashed => "Internal error: task ".toList

/-- A path that nothing answers for has an answer without content. -/
def contentType? : Refusal → Option String
  | notFound => none
  | _ => some "text/plain; charset=utf-8"

def reply (refusal : Refusal) : Reply :=
  ⟨refusal.status, refusal.contentType?, refusal.message⟩

end Refusal

inductive Verdict where
  | accepted
  | rejected (message : List Char)
  | timedOut
  | crashed
  deriving DecidableEq, Repr

def Verdict.ofText (text : List Char) : Verdict :=
  match Mdx.check text with
  | .ok () => .accepted
  | .error .crossedLabel => .crashed
  | .error refusal => .rejected refusal.message.toList

inductive Job where
  | lint (options : LintOptions) (text : List Char)
  | check (text : List Char)
  deriving DecidableEq, Repr

/-- What a POST request asks for: its target says what is done with its text. -/
def Job.ofTarget (target : Target) (text : List Char) : Job :=
  if target.path = Target.lintPath then
    .lint (LintOptions.ofPairs (Query.pairs target.query)) text
  else
    .check text

/-- What is fixed when the service starts. -/
structure Service where
  ruleset : Ruleset
  /-- Longer bodies are refused. -/
  maxBodyBytes : Nat
  checkMdx : List Char → Verdict

namespace Service

def reportJson (report : Report) : List Char :=
  "\x7b\"validations\":".toList ++ Json.encodeString report.validations ++
    ",\"fixedText\":".toList ++
    (match report.fixedText with
      | none => "null".toList
      | some text => Json.encodeString text) ++
    ",\"errorNum\":".toList ++ Nat.toDigits 10 report.errorCount ++ ['\x7d']

/-- Whether a lint request cannot be carried out: a repair overflows, in the text or, when it is to be
fixed, in the fixed text. -/
def overflows (service : Service) (text : List Char) (fix : Bool) : Bool :=
  service.ruleset.overflows text ||
    (fix && service.ruleset.overflows (repair text (service.ruleset.lint text)))

def lint (service : Service) (options : LintOptions) (text : List Char) : Reply :=
  if service.overflows text options.fix then
    Refusal.crashed.reply
  else
    let engine : Engine Id := .standard
    let outcome :=
      (engine.answer service.ruleset ⟨String.ofList options.filename, text⟩ options.fix).run
    ⟨200, some "application/json", reportJson outcome.report⟩

def mdx (service : Service) (text : List Char) : Reply :=
  match service.checkMdx text with
  | .accepted => ⟨200, some "text/plain; charset=utf-8", Mdx.outcomeMessage none⟩
  | .rejected message => (Refusal.notMdx message).reply
  | .timedOut => Refusal.timedOut.reply
  | .crashed => Refusal.crashed.reply

/-- The text of a body: its length is checked first, then its encoding. -/
def readBody (service : Service) (body : ByteArray) : Except Refusal (List Char) :=
  if service.maxBodyBytes < body.size then
    .error .bodyTooLarge
  else
    match String.fromUTF8? body with
    | none => .error .invalidUtf8
    | some text => .ok text.toList

/-- Takes on a request, or refuses it before any work starts. A path that does not start with a slash is
not found, and the body of a request that is not POST is not looked at. -/
def accept (service : Service) (request : Request) : Except Refusal Job :=
  let target := Target.ofUri request.uri
  if !target.isRouted then .error .notFound
  else if request.method ≠ "POST" then .error .methodNotAllowed
  else (service.readBody request.body).map (Job.ofTarget target)

def perform (service : Service) : Job → Reply
  | .lint options text => service.lint options text
  | .check text => service.mdx text

/-- Replies to a request; `inTime` says whether the work on it ends before the time is up. -/
def reply (service : Service) (request : Request) (inTime : Bool) : Reply :=
  match service.accept request with
  | .error refusal => refusal.reply
  | .ok job => if inTime then service.perform job else Refusal.timedOut.reply

/-- Answers a request whose work ends in time. The answer to HEAD has no body. -/
def answer (service : Service) (request : Request) : Reply :=
  let reply := service.reply request true
  if request.method = "HEAD" then { reply with body := [] } else reply

end Service

end DocCheck.Http
