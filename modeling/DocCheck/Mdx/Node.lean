import DocCheck.Text.Alphabetic
import DocCheck.Text.Slice

set_option autoImplicit false

namespace DocCheck.Mdx

structure Span where
  start : Nat
  stop : Nat
  deriving DecidableEq, Repr

/-- Text may know where it stands in its document; all else only holds further nodes. -/
inductive Node where
  | text (span : Option Span)
  | element (children : List Node)
  deriving Repr, Inhabited

/-- A character that, after a bracket, begins the name of a tag, a closing tag or the end of one without
a name. -/
def beginsTag (c : Char) : Bool :=
  Text.isAlphabetic c || c = '_' || c = '$' || c = '/' || c = '>'

/-- The number of bytes before the first bracket that begins a tag, in a text that follows the character
`previous`. -/
def openerAfter? (previous : Option Char) : List Char → Option Nat
  | [] => none
  | c :: rest =>
    if c = '<' ∧ previous ≠ some '\\' ∧ rest.head?.any beginsTag then some 0
    else (openerAfter? (some c) rest).map (c.utf8Size + ·)

/-- The number of bytes before the first bracket that begins a tag. -/
def opener? (text : List Char) : Option Nat :=
  openerAfter? none text

/-- The place of the first bracket in a range of the document that begins a tag. -/
def Span.opener? (source : List Char) (span : Span) : Option Nat :=
  ((Text.slice? span.start span.stop source).bind Mdx.opener?).map (span.start + ·)

def Node.count : List Node → Nat
  | [] => 0
  | .text _ :: rest => count rest + 1
  | .element children :: rest => count children + count rest + 1

theorem Node.count_append (a b : List Node) : count (a ++ b) = count a + count b := by
  fun_induction count a <;> simp_all [count] <;> omega

/-- The place of the first bracket that begins a tag in the text of nodes, with the children of each right
after it. -/
def Node.firstOpener? (source : List Char) : List Node → Option Nat
  | [] => none
  | .text span :: rest =>
    match span.bind (Span.opener? source) with
    | some place => some place
    | none => firstOpener? source rest
  | .element children :: rest => firstOpener? source (children ++ rest)
termination_by nodes => Node.count nodes
decreasing_by
  · rw [Node.count]; omega
  · rw [Node.count, Node.count_append]; omega

/-- Line and column of a place, counted in characters from one. A place that is not between characters
counts as the end. -/
def lineColumn (source : List Char) (place : Nat) : Nat × Nat :=
  let before := (Text.takeBytes? place source).getD source
  (before.count '\n' + 1, (before.reverse.takeWhile (· ≠ '\n')).length + 1)

end DocCheck.Mdx
