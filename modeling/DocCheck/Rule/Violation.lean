import DocCheck.Edit

set_option autoImplicit false

namespace DocCheck

/-- The particulars of a violation. -/
inductive Detail where
  /-- A heading of level `actual` where at most `allowed` may stand. -/
  | level (allowed actual : Nat)
  /-- `actual` trailing spaces where none may stand, or else exactly `hardBreak`. -/
  | trailing (hardBreak : Option Nat) (actual : Nat)
  /-- `actual` characters or lines where `limit` may stand. -/
  | excess (limit actual : Nat)
  /-- The column, counted from one. -/
  | column (position : Nat)
  | punctuation (mark : Char)
  deriving DecidableEq, Repr

def Detail.message : Detail → String
  | .level allowed actual => "Expected: h" ++ toString allowed ++ "; Actual: h" ++ toString actual
  | .trailing none actual => "Expected: 0; Actual: " ++ toString actual
  | .trailing (some hardBreak) actual =>
    "Expected: 0 or " ++ toString hardBreak ++ "; Actual: " ++ toString actual
  | .excess limit actual => "Expected: " ++ toString limit ++ "; Actual: " ++ toString actual
  | .column position => "Column: " ++ toString position
  | .punctuation mark => "Punctuation: '" ++ String.singleton mark ++ "'"

structure Span where
  /-- Counted from one. -/
  column : Nat
  length : Nat
  deriving DecidableEq, Repr

structure Violation where
  line : Nat
  detail : Option Detail := none
  /-- The offending text. -/
  context : Option (List Char) := none
  range : Option Span := none
  edit : Option Edit := none
  deriving DecidableEq, Repr

end DocCheck
