import DocCheck.Text.Blank

set_option autoImplicit false

namespace DocCheck

open Text

/-- The two characters that draw a fence. -/
inductive FenceMark where
  | backquote
  | tilde
  deriving DecidableEq, Repr

def FenceMark.toChar : FenceMark → Char
  | .backquote => '\x60'
  | .tilde => '~'

def FenceMark.ofHead? : List Char → Option FenceMark
  | '\x60' :: _ => some .backquote
  | '~' :: _ => some .tilde
  | _ => none

/-- A line that draws a fence: up to three spaces, then three or more backquotes or tildes and an info
string. -/
structure Fence where
  mark : FenceMark
  /-- Length of the run of marks. -/
  length : Nat
  /-- The text after the run, without blanks around it. -/
  info : List Char
  deriving DecidableEq, Repr

/-- Reads a line as a fence. The info string after backquotes holds no backquote. -/
def Fence.parse? (line : List Char) : Option Fence :=
  let indent := (line.takeWhile (· == ' ')).length
  let drawn := line.dropWhile (· == ' ')
  (FenceMark.ofHead? drawn).bind fun mark =>
    let length := (drawn.takeWhile (· == mark.toChar)).length
    let info := trim (drawn.dropWhile (· == mark.toChar))
    if indent ≤ 3 ∧ 3 ≤ length ∧ ¬ (mark = .backquote ∧ '\x60' ∈ info) then
      some { mark, length, info }
    else
      none

/-- Whether `fence` ends a block that `opener` began: the same mark, at least as long, no info. -/
def Fence.closes (opener fence : Fence) : Bool :=
  fence.mark = opener.mark && opener.length ≤ fence.length && fence.info.isEmpty

end DocCheck
