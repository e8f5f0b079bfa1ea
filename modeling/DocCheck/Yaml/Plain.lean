import DocCheck.Yaml.Cursor

/-!
Plain scalars: text without quotes. Its lines are folded: one line break between words becomes a space, and
of several the first is dropped.
-/

set_option autoImplicit false

namespace DocCheck.Yaml.Plain

/-- Text that has been read, in reverse, and the blanks and line breaks since. -/
structure Folded where
  text : List Char
  blanks : List Char
  breaks : Nat

/-- What blanks and line breaks become in front of a further word, in reverse. -/
def Folded.gap (folded : Folded) : List Char :=
  match folded.breaks with
  | 0 => folded.blanks
  | 1 => [' ']
  | breaks + 2 => List.replicate (breaks + 1) '\n'

def Folded.append (folded : Folded) (word : List Char) : Folded :=
  if word = [] then folded else ⟨word.reverse ++ folded.gap ++ folded.text, [], 0⟩

/-- How many characters the word has that begins here. A colon ends it in front of a blank, and inside a
flow collection so do the indicators. -/
def wordLength (inFlow : Bool) : List Char → Nat
  | [] => 0
  | c :: rest =>
    let next := rest.headD '\x00'
    if isSpacing c then 0
    else if c = ':' ∧ (isSpacing next ∨ inFlow ∧ isFlowIndicator next) then 0
    else if inFlow ∧ isFlowIndicator c then 0
    else wordLength inFlow rest + 1

/-- Passes blanks and line breaks. A tab does not indent a line unless the line is empty. -/
def passGap (steps : Nat) (indent : Int) (folded : Folded) (cursor : Cursor) :
    Option (Folded × Cursor) :=
  match steps with
  | 0 => some (folded, cursor)
  | steps + 1 =>
    let c := cursor.peek
    if isBreak c then
      passGap steps indent ⟨folded.text, [], folded.breaks + 1⟩ cursor.skipBreak
    else if ¬ isBlank c then
      some (folded, cursor)
    else if ¬ cursor.fresh then
      passGap steps indent { folded with blanks := c :: folded.blanks } (cursor.skipBlanks 1)
    else if c = '\t' ∧ cursor.column < indent then do
      let (next, _) ← cursor.skipToLineEnd true
      if isBreakOrEnd next.peek then passGap steps indent folded next else none
    else
      passGap steps indent folded (cursor.skipBlanks 1)

/-- Reads words until the scalar ends; its lines are indented by `indent` at least. -/
def readWords (steps : Nat) (indent : Int) (inFlow : Bool) (folded : Folded) (cursor : Cursor) :
    Option (List Char × Cursor) :=
  match steps with
  | 0 => none
  | steps + 1 =>
    if cursor.atDocumentMarker ∨ cursor.peek = '#' then
      some (folded.text.reverse, cursor)
    else if inFlow ∧ cursor.peek = '-' ∧ isFlowIndicator (cursor.peekAt 1) then
      none
    else
      let length := wordLength inFlow cursor.rest
      let folded := folded.append (cursor.rest.take length)
      let cursor := if length = 0 then cursor else cursor.skip length
      if isBlank cursor.peek ∨ isBreak cursor.peek then do
        let (folded, cursor) ← passGap cursor.rest.length indent folded cursor
        if ¬ inFlow ∧ cursor.column < indent then some (folded.text.reverse, cursor)
        else readWords steps indent inFlow folded cursor
      else
        some (folded.text.reverse, cursor)

/-- Reads a plain scalar below the indentation `indent`. -/
def read (indent : Int) (inFlow : Bool) (cursor : Cursor) : Option (List Char × Cursor) := do
  if inFlow ∧ cursor.column < indent + 1 then
    none
  let (text, next) ←
    readWords (cursor.rest.length + 1) (indent + 1) inFlow ⟨[], [], 0⟩ cursor
  if text = [] then none else some (text, next)

end DocCheck.Yaml.Plain
