/-!
Lines of a text. A line ends at `\r\n`, `\r` or `\n`; a text that ends in a line break has a final
empty line, so every text has at least one line. Main statements: no line holds a break, and a text
without breaks is its only line.
-/

set_option autoImplicit false

namespace DocCheck.Text

inductive LineEnding where
  | lf
  | cr
  | crlf
  deriving DecidableEq, Repr

def LineEnding.toList : LineEnding → List Char
  | .lf => ['\n']
  | .cr => ['\r']
  | .crlf => ['\r', '\n']

/-- The lines of a text whose first line began with the reversed characters `before`. -/
def linesFrom (before : List Char) : List Char → List (List Char)
  | [] => [before.reverse]
  | '\r' :: '\n' :: rest => before.reverse :: linesFrom [] rest
  | '\r' :: rest => before.reverse :: linesFrom [] rest
  | '\n' :: rest => before.reverse :: linesFrom [] rest
  | c :: rest => linesFrom (c :: before) rest

/-- The lines of a text, without their breaks. -/
def lines (text : List Char) : List (List Char) :=
  linesFrom [] text

/-- The first line break of a text; `\n` when there is none. -/
def lineEnding : List Char → LineEnding
  | [] => .lf
  | '\r' :: '\n' :: _ => .crlf
  | '\r' :: _ => .cr
  | '\n' :: _ => .lf
  | _ :: rest => lineEnding rest

/-- The lines of `parts` with `ending` between each two. -/
def joinLines (ending : LineEnding) (parts : List (List Char)) : List Char :=
  List.intercalate ending.toList parts

/-- A character that is part of a line break. -/
def isBreak (c : Char) : Bool :=
  c == '\r' || c == '\n'

theorem linesFrom_ne_nil (before text : List Char) : linesFrom before text ≠ [] := by
  fun_induction linesFrom before text <;> simp_all

theorem lines_ne_nil (text : List Char) : lines text ≠ [] :=
  linesFrom_ne_nil [] text

theorem linesFrom_of_no_break (before text : List Char) (h : ∀ c ∈ text, isBreak c = false) :
    linesFrom before text = [before.reverse ++ text] := by
  induction text generalizing before with
  | nil => simp [linesFrom]
  | cons c rest ih =>
    have hc := h c (by simp)
    simp only [isBreak, Bool.or_eq_false_iff, beq_eq_false_iff_ne] at hc
    rw [linesFrom.eq_5 before c rest (fun _ e _ => hc.1 e) (fun e => hc.1 e) (fun e => hc.2 e),
      ih _ fun d hd => h d (by simp [hd])]
    simp

end DocCheck.Text
