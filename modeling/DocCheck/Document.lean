import DocCheck.Fence
import DocCheck.Heading
import DocCheck.InlineComment
import DocCheck.Text.Lines

set_option autoImplicit false

namespace DocCheck

open Text

/-- How a line stands to fenced blocks. -/
inductive LineKind where
  | prose
  /-- The line that opens a block, with its info string. -/
  | fenceOpen (info : List Char)
  | code
  | fenceClose
  deriving DecidableEq, Repr

/-- The line belongs to a fenced block, its fences included. -/
def LineKind.isCode : LineKind → Bool
  | .prose => false
  | _ => true

structure Line where
  /-- Counted from one. -/
  number : Nat
  text : List Char
  kind : LineKind
  deriving DecidableEq, Repr

namespace Line

/-- The kinds of `texts`, where `opener` is the fence of the block that is open before them. -/
def kindsFrom (opener : Option Fence) : List (List Char) → List LineKind
  | [] => []
  | text :: rest =>
    match opener, Fence.parse? text with
    | none, none => .prose :: kindsFrom none rest
    | none, some fence => .fenceOpen fence.info :: kindsFrom (some fence) rest
    | some opener, some fence =>
      if opener.closes fence then
        .fenceClose :: kindsFrom none rest
      else
        .code :: kindsFrom (some opener) rest
    | some opener, none => .code :: kindsFrom (some opener) rest

@[simp] theorem length_kindsFrom (opener : Option Fence) (texts : List (List Char)) :
    (kindsFrom opener texts).length = texts.length := by
  fun_induction kindsFrom opener texts <;> simp_all

def numberFrom (first : Nat) : List (List Char) → List LineKind → List Line
  | text :: texts, kind :: kinds => ⟨first, text, kind⟩ :: numberFrom (first + 1) texts kinds
  | _, _ => []

def ofText (text : List Char) : List Line :=
  numberFrom 1 (lines text) (kindsFrom none (lines text))

/-- The heading on a prose line. -/
def heading? (line : Line) : Option Heading :=
  if line.kind.isCode then none else Heading.parse? line.text

/-- The inline comments of a prose line. -/
def comments (line : Line) : List InlineComment :=
  if line.kind.isCode then [] else InlineComment.ofLine line.text

end Line

/-- The rules that are off: until further notice, on this line, and on the next line. -/
structure Suppression where
  standing : List RuleId
  here : List RuleId
  next : List RuleId
  deriving DecidableEq, Repr

namespace Suppression

def none : Suppression :=
  ⟨[], [], []⟩

/-- What holds after one more comment on the line. -/
def comment (state : Suppression) (comment : InlineComment) : Suppression :=
  match comment.action with
  | .disable => { state with standing := RuleId.union state.standing comment.rules }
  | .enable => { state with standing := RuleId.without state.standing comment.rules }
  | .disableLine => { state with here := RuleId.union state.here comment.rules }
  | .disableNextLine => { state with next := RuleId.union state.next comment.rules }

/-- What holds after all comments of a line, given what held after the line before it. -/
def line (state : Suppression) (line : Line) : Suppression :=
  line.comments.foldl comment { state with here := state.next, next := [] }

/-- The rules that are off on each line. -/
def perLine (state : Suppression) : List Line → List (List RuleId)
  | [] => []
  | l :: rest =>
    let state := state.line l
    RuleId.union state.here state.standing :: perLine state rest

end Suppression

structure Document where
  lines : List Line
  /-- For each line, the rules that inline comments switch off on it. -/
  suppressed : Array (List RuleId)
  deriving DecidableEq, Repr

namespace Document

def ofText (text : List Char) : Document :=
  let lines := Line.ofText text
  { lines, suppressed := (Suppression.none.perLine lines).toArray }

/-- The lines outside fenced blocks. -/
def prose (doc : Document) : List Line :=
  doc.lines.filter fun line => !line.kind.isCode

def headings (doc : Document) : List (Line × Heading) :=
  doc.lines.filterMap fun line => line.heading?.map fun heading => (line, heading)

/-- Whether inline comments switch rule `id` off on line `number`. -/
def suppresses (doc : Document) (number : Nat) (id : RuleId) : Bool :=
  match number with
  | 0 => false
  | index + 1 => doc.suppressed[index]?.any (id ∈ ·)

end Document

end DocCheck
