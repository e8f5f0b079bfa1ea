set_option autoImplicit false

namespace DocCheck

/-- One more than the greatest word: the 64th power of two. -/
def wordLimit : Nat :=
  0x10000000000000000

/-- One more than the greatest signed word: the 63rd power of two. -/
def signedWordLimit : Nat :=
  0x8000000000000000

theorem two_mul_signedWordLimit : 2 * signedWordLimit = wordLimit := rfl

/-- Why a text is no number of the range asked for. -/
inductive NumberFault where
  | empty
  | invalidDigit
  | tooLarge
  | tooSmall
  | outOfRange (value : Int) (last : Nat)
  deriving DecidableEq, Repr

def NumberFault.message : NumberFault → String
  | empty => "cannot parse integer from empty string"
  | invalidDigit => "invalid digit found in string"
  | tooLarge => "number too large to fit in target type"
  | tooSmall => "number too small to fit in target type"
  | outOfRange value last => toString value ++ " is not in 0..=" ++ toString last

def digitsValue? (text : List Char) : Option Nat :=
  if text ≠ [] ∧ text.all Char.isDigit then
    some (text.foldl (fun n c => n * 10 + (c.toNat - 48)) 0)
  else
    none

/-- A word, perhaps with a `+` in front. -/
def readSize (text : List Char) : Except NumberFault Nat :=
  match text with
  | [] => .error .empty
  | c :: rest =>
    match digitsValue? (if c = '+' then rest else c :: rest) with
    | none => .error .invalidDigit
    | some n => if n < wordLimit then .ok n else .error .tooLarge

end DocCheck
