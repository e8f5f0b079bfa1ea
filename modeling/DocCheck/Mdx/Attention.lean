import DocCheck.Mdx.Fault
import DocCheck.Text.Punctuation

/-!
Emphasis. A run of asterisks or underscores may open it in front of text and close it after text; a pair
of two or more marks each is strong. Runs pair up from the inside out.
-/

set_option autoImplicit false

namespace DocCheck.Mdx.Attention

inductive Surrounding where
  | blank
  | punctuation
  | other
  deriving DecidableEq, Repr

/-- The kind of a neighbour; where there is none it counts as blank. -/
def surrounding (c : Option Char) : Surrounding :=
  match c with
  | none => .blank
  | some c =>
    if Text.isBlank c then .blank
    else if Text.isPunctuation c then .punctuation
    else .other

/-- What is left of a run: some marks at its front have closed, some at its end have opened. -/
structure Run where
  id : Nat
  mark : Char
  place : Place
  size : Nat
  opens : Bool
  closes : Bool
  deriving Repr

def isMark (c : Char) : Bool :=
  c = '*' || c = '_'

/-- The run of `size` marks between two characters. An underscore inside of a word does nothing. -/
def Run.between (id : Nat) (mark : Char) (place : Place) (size : Nat) (before after : Option Char) :
    Run :=
  let left := surrounding before
  let right := surrounding after
  let opens := right = .other || right = .punctuation && left != .other || after.any isMark
  let closes := left = .other || left = .punctuation && right != .other || before.any isMark
  { id, mark, place, size
    opens := opens && (mark != '_' || left != .other || !closes)
    closes := closes && (mark != '_' || right != .other || !opens) }

/-- An end of emphasis at a run. -/
structure Edge where
  run : Nat
  construct : Construct
  place : Place
  deriving Repr

/-- The edges of the pairs that have been made, in the order of making. -/
structure Pairs where
  opened : List Edge
  closed : List Edge
  deriving Repr

/-- Whether the run `close` may end what `opener` begins. If one could do both, their lengths must not
add up to a multiple of three, unless both are one. -/
def matches? (opener close : Run) : Bool :=
  opener.mark = close.mark &&
    !((opener.closes || close.opens) && close.size % 3 != 0 && (opener.size + close.size) % 3 == 0)

/-- The marks that a construct takes. -/
def width : Construct → Nat
  | .strong => 2
  | _ => 1

def moveBy (place : Place) (n : Nat) : Place :=
  { place with offset := place.offset + n, column := place.column + n }

/-- Pairs the run `close` with openers, nearest first, as long as any matches. The openers inside of a
pair are lost. -/
def pairUp (steps : Nat) (close : Run) (openers : List Run) (pairs : Pairs) :
    Run × List Run × Pairs :=
  match steps with
  | 0 => (close, openers, pairs)
  | steps + 1 =>
    if ¬ close.closes ∨ close.size = 0 then (close, openers, pairs)
    else
      match openers.dropWhile fun opener => !matches? opener close with
      | [] => (close, openers, pairs)
      | opener :: outer =>
        let construct : Construct := if 1 < opener.size ∧ 1 < close.size then .strong else .emphasis
        let taken := width construct
        let left := opener.size - taken
        let rest := { close with size := close.size - taken, place := moveBy close.place taken }
        pairUp steps rest (if left = 0 then outer else { opener with size := left } :: outer)
          ⟨pairs.opened ++ [⟨opener.id, construct, moveBy opener.place left⟩],
            pairs.closed ++ [⟨close.id, construct, rest.place⟩]⟩

def pair (openers : List Run) (pairs : Pairs) : List Run → Pairs
  | [] => pairs
  | run :: rest =>
    let (left, openers, pairs) := pairUp run.size run openers pairs
    pair (if left.opens ∧ 0 < left.size then left :: openers else openers) pairs rest

/-- The edges at which the run closes, in their order. -/
def Pairs.closedAt (pairs : Pairs) (run : Nat) : List Edge :=
  pairs.closed.filter (·.run = run)

/-- The edges at which the run opens, in their order: what was paired last is outermost. -/
def Pairs.openedAt (pairs : Pairs) (run : Nat) : List Edge :=
  (pairs.opened.filter (·.run = run)).reverse

end DocCheck.Mdx.Attention
