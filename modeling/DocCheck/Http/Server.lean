import DocCheck.Http.Service
import DocCheck.Word

/-!
The service behind its access log. The log stands between a client and the service: it writes down
requests and answers, and where it shows the body of an answer it takes the body apart and sends it
anew.
-/

set_option autoImplicit false

namespace DocCheck.Http

structure Arrival where
  request : Request
  /-- Names and values. -/
  headers : List (String × List UInt8)
  /-- Whether the work on it ends before the time is up. -/
  inTime : Bool

namespace Arrival

def target (arrival : Arrival) : Target :=
  Target.ofUri arrival.request.uri

/-- The length that the first header `content-length` states, if that is a word. -/
def contentLength? (arrival : Arrival) : Option Nat :=
  (arrival.headers.find? fun header =>
    Text.eqIgnoringCase header.1.toList "content-length".toList).bind fun header =>
      (readSize (header.2.map fun byte => Char.ofNat byte.toNat)).toOption

end Arrival

structure Response where
  status : Nat
  contentType : Option String
  /-- The body, piece by piece; `none` is where it breaks off. -/
  pieces : List (Option (List UInt8))
  deriving DecidableEq, Repr

namespace Response

/-- The body of a reply goes out in one piece. -/
def ofReply (reply : Reply) : Response :=
  ⟨reply.status, reply.contentType, [some (String.ofList reply.body).toUTF8.data.toList]⟩

/-- The bytes of all pieces, unless the body breaks off. -/
def gather? : List (Option (List UInt8)) → Option (List UInt8)
  | [] => some []
  | none :: _ => none
  | some bytes :: rest => (gather? rest).map (bytes ++ ·)

def withoutBody (response : Response) : Response :=
  { response with pieces := [] }

end Response

namespace AccessLog

/-- What is written down, without time and colors. -/
inductive Entry where
  | request (method : String) (target : Target) (length : Option Nat)
  | answer (method : String) (path : List UInt8) (status : Nat)
  | body (bytes : List UInt8)
  deriving DecidableEq, Repr

def maxShownBytes : Nat :=
  65536

/-- Shows the body of an answer. It goes out in one piece then, and without content if it broke off. -/
def relay (response : Response) : Response × List Entry :=
  match Response.gather? response.pieces with
  | none => (response.withoutBody, [])
  | some bytes =>
    ({ response with pieces := [some bytes] },
      if bytes ≠ [] ∧ bytes.length ≤ maxShownBytes then [.body bytes] else [])

/-- Passes a request on and the answer back. Nothing is written at verbosity zero, a line for each answer
at one, and requests and bodies too from two on. -/
def handle (verbosity : Nat) (next : Arrival → Response) (arrival : Arrival) :
    Response × List Entry :=
  let response := next arrival
  let request := .request arrival.request.method arrival.target arrival.contentLength?
  let answer := .answer arrival.request.method arrival.target.path response.status
  match verbosity with
  | 0 => (response, [])
  | 1 => (response, [answer])
  | _ => ((relay response).1, request :: answer :: (relay response).2)

end AccessLog

/-- Serves a request, at some verbosity of the log. The answer to HEAD has no body. -/
def Service.serve (service : Service) (verbosity : Nat) (arrival : Arrival) :
    Response × List AccessLog.Entry :=
  let next (arrival : Arrival) := Response.ofReply (service.reply arrival.request arrival.inTime)
  let logged := AccessLog.handle verbosity next arrival
  (if arrival.request.method = "HEAD" then logged.1.withoutBody else logged.1, logged.2)

end DocCheck.Http
