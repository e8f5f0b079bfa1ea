import DocCheck.Yaml.Cursor

/-!
Quoted scalars. Between single quotes only the quote is special, and it is written twice; between double
quotes a backslash escapes. Lines are folded as in plain scalars, and an escaped line break vanishes.
-/

set_option autoImplicit false

namespace DocCheck.Yaml.Quoted

def hexNumber? (digits : List Char) (n : Nat) : Option Nat :=
  if digits.length < n then none
  else (digits.take n).foldl (fun (value : Option Nat) c =>
    value.bind fun value => (hexValue? c).map (value * 16 + ·)) (some 0)

/-- The character that a number stands for; no surrogate is one. -/
def charOf? (code : Nat) : Option Char :=
  if h : code.isValidChar then some (Char.ofNatAux code h) else none

/-- The character after a backslash, and how many characters the escape has with the backslash. -/
def unescape (rest : List Char) : Option (Char × Nat) :=
  let hex (n : Nat) : Option (Char × Nat) :=
    ((hexNumber? (rest.drop 2) n).bind charOf?).map (·, n + 2)
  match rest[1]? with
  | some '0' => some ('\x00', 2)
  | some 'a' => some ('\x07', 2)
  | some 'b' => some ('\x08', 2)
  | some 't' => some ('\t', 2)
  | some '\t' => some ('\t', 2)
  | some 'n' => some ('\n', 2)
  | some 'v' => some ('\x0b', 2)
  | some 'f' => some ('\x0c', 2)
  | some 'r' => some ('\r', 2)
  | some 'e' => some ('\x1b', 2)
  | some ' ' => some (' ', 2)
  | some '"' => some ('"', 2)
  | some '/' => some ('/', 2)
  | some '\\' => some ('\\', 2)
  | some 'N' => some ('\u0085', 2)
  | some '_' => some ('\u00a0', 2)
  | some 'L' => some ('\u2028', 2)
  | some 'P' => some ('\u2029', 2)
  | some 'x' => hex 2
  | some 'u' => hex 4
  | some 'U' => hex 8
  | _ => none

/-- Reads up to a blank, a line break or the closing quote, putting the characters in reverse before
`text`. Also tells whether an escaped line break was passed at the end. -/
def readWord (steps : Nat) (quote : Char) (text : List Char) (cursor : Cursor) :
    Option (List Char × Cursor × Bool) :=
  match steps with
  | 0 => some (text, cursor, false)
  | steps + 1 =>
    let c := cursor.peek
    if isSpacing c then
      some (text, cursor, false)
    else if c = quote then
      if quote = '\'' ∧ cursor.peekAt 1 = '\'' then readWord steps quote (c :: text) (cursor.skip 2)
      else some (text, cursor, false)
    else if quote = '"' ∧ c = '\\' then
      if isBreak (cursor.peekAt 1) then
        some (text, (cursor.skip 1).skipBreak, true)
      else do
        let (escaped, length) ← unescape cursor.rest
        readWord steps quote (escaped :: text) (cursor.skip length)
    else
      readWord steps quote (c :: text) (cursor.skip 1)

structure Gap where
  /-- A line break was passed, escaped or not. -/
  broken : Bool
  /-- The first of them was not escaped. -/
  folds : Bool
  blanks : List Char
  breaks : Nat

/-- What a gap becomes, in reverse. -/
def Gap.text (gap : Gap) : List Char :=
  if ¬ gap.broken then gap.blanks
  else if gap.folds ∧ gap.breaks = 0 then [' ']
  else List.replicate gap.breaks '\n'

/-- Passes blanks and line breaks. A tab does not indent. -/
def readGap (steps : Nat) (indent : Int) (gap : Gap) (cursor : Cursor) : Option (Gap × Cursor) :=
  match steps with
  | 0 => some (gap, cursor)
  | steps + 1 =>
    let c := cursor.peek
    if isBreak c then
      let gap := if gap.broken then { gap with breaks := gap.breaks + 1 } else ⟨true, true, [], 0⟩
      readGap steps indent gap cursor.skipBreak
    else if ¬ isBlank c then
      some (gap, cursor)
    else if ¬ gap.broken then
      readGap steps indent { gap with blanks := c :: gap.blanks } (cursor.skipBlanks 1)
    else if c = '\t' ∧ cursor.column < indent then
      none
    else
      readGap steps indent gap (cursor.skipBlanks 1)

/-- Reads up to the closing quote, which is not passed. -/
def readWords (steps : Nat) (indent : Int) (quote : Char) (text : List Char) (cursor : Cursor) :
    Option (List Char × Cursor) :=
  match steps with
  | 0 => none
  | steps + 1 =>
    if cursor.atDocumentMarker ∨ isEnd cursor.peek ∨ cursor.column < indent then
      none
    else do
      let (text, cursor, escaped) ← readWord cursor.rest.length quote text cursor
      if cursor.peek = quote then
        some (text.reverse, cursor)
      else
        let (gap, cursor) ← readGap cursor.rest.length indent ⟨escaped, false, [], 0⟩ cursor
        readWords steps indent quote (gap.text ++ text) cursor

/-- Reads a quoted scalar and the blanks after it. What follows must be able to: in a flow collection
its punctuation or a colon, else a colon on the line where the scalar began, or the end of the line. -/
def read (indent : Int) (inFlow : Bool) (cursor : Cursor) : Option (List Char × Cursor) := do
  let (text, close) ←
    readWords (cursor.rest.length + 1) indent cursor.peek [] (cursor.skip 1)
  let (next, _) ← (close.skip 1).skipToLineEnd true
  let c := next.peek
  if isBreakOrEnd c then some (text, next)
  else if inFlow ∧ (c = ',' ∨ c = ']' ∨ c = '\x7d' ∨ c = ':') then some (text, next)
  else if ¬ inFlow ∧ c = ':' ∧ cursor.line = next.line then some (text, next)
  else none

end DocCheck.Yaml.Quoted
