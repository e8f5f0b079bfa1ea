import DocCheck.Mdx.Flow
import DocCheck.Text.Blank

set_option autoImplicit false

namespace DocCheck.Mdx.Reference

def isSpacing (cell : Cell) : Bool :=
  cell.isBlank || cell.char = '\n'

def skipSpacing (cells : List Cell) : List Cell :=
  cells.dropWhile isSpacing

/-- A backslash and a character that it escapes begin the text. -/
def startsEscape (escapable : List Char) : List Cell → Bool
  | slash :: cell :: _ => slash.char = '\\' && escapable.contains cell.char
  | _ => false

/-- What a label is compared by: blanks count as one, and the case of ASCII letters does not. -/
def key (label : List Cell) : List Char :=
  let words := (label.map fun cell => if isSpacing cell then ' ' else Text.lowerAscii cell.char).splitOn ' '
  List.intercalate [' '] (words.filter fun word => !word.isEmpty)

/-- The number of characters up to the bracket that ends a label. -/
def labelLength? (steps length : Nat) (cells : List Cell) : Option Nat :=
  match steps, cells with
  | steps + 1, cell :: rest =>
    if cell.char = ']' then some length
    else if cell.char = '[' then none
    else if startsEscape ['[', '\\', ']'] cells then
      labelLength? steps (length + 2) rest.tail
    else labelLength? steps (length + 1) rest
  | _, _ => none

/-- Splits off a label of up to 999 characters, not all blank, and the bracket after it. -/
def label? (cells : List Cell) : Option (List Cell × List Cell) :=
  (labelLength? cells.length 0 cells).bind fun length =>
    let label := cells.take length
    if 999 < length ∨ label.all isSpacing then none else some (label, cells.drop (length + 1))

def isControl (c : Char) : Bool :=
  0 < c.toNat && c.toNat < 0x20 || c.toNat = 0x7F

/-- What follows the bracket that ends a destination. -/
def afterEnclosed? (steps : Nat) (cells : List Cell) : Option (List Cell) :=
  match steps, cells with
  | steps + 1, cell :: rest =>
    if cell.char = '>' then some rest
    else if cell.char = '\n' ∨ cell.char = '<' then none
    else if startsEscape ['<', '>', '\\'] cells then afterEnclosed? steps rest.tail
    else afterEnclosed? steps rest
  | _, _ => none

/-- What follows a bare destination: it ends at a blank or at a closing parenthesis without an opening
one, of which `limit` may be open. -/
def afterBare? (limit steps depth : Nat) (cells : List Cell) : Option (List Cell) :=
  match steps, cells with
  | _, [] => if depth = 0 then some [] else none
  | 0, _ => none
  | steps + 1, cell :: rest =>
    let c := cell.char
    if depth = 0 ∧ (isSpacing cell ∨ c = ')') then some cells
    else if c = '(' then
      if depth < limit then afterBare? limit steps (depth + 1) rest else none
    else if isControl c ∨ c = ' ' then none
    else if c = ')' then afterBare? limit steps (depth - 1) rest
    else if startsEscape ['(', ')', '\\'] cells then afterBare? limit steps depth rest.tail
    else afterBare? limit steps depth rest

def afterDestination? (limit : Nat) (cells : List Cell) : Option (List Cell) :=
  match cells with
  | [] => none
  | cell :: rest =>
    if cell.char = '<' then afterEnclosed? cells.length rest
    else if isControl cell.char ∨ cell.char = ' ' ∨ cell.char = ')' then none
    else afterBare? limit (cells.length + 1) 0 cells

/-- What follows the mark that ends a title. -/
def afterTitleText? (steps : Nat) (mark : Char) (cells : List Cell) : Option (List Cell) :=
  match steps, cells with
  | steps + 1, cell :: rest =>
    if cell.char = mark then some rest
    else if startsEscape [mark, '\\'] cells then afterTitleText? steps mark rest.tail
    else afterTitleText? steps mark rest
  | _, _ => none

/-- The mark that ends a title which begins with this one. -/
def titleMark? (c : Char) : Option Char :=
  if c = '"' ∨ c = '\'' then some c else if c = '(' then some ')' else none

def afterTitle? (cells : List Cell) : Option (List Cell) :=
  match cells with
  | [] => none
  | cell :: rest => (titleMark? cell.char).bind fun mark => afterTitleText? cells.length mark rest

def afterResourceEnd? : List Cell → Option (List Cell)
  | cell :: rest => if cell.char = ')' then some rest else none
  | [] => none

/-- What follows a destination in parentheses, which may have a title; the opening one has been read. -/
def afterResource? (cells : List Cell) : Option (List Cell) :=
  let start := skipSpacing cells
  if start.head?.any (·.char = ')') then some start.tail
  else
    (afterDestination? 32 start).bind fun next =>
      let between := skipSpacing next
      let titled := next.head?.any isSpacing && between.head?.any fun cell =>
        (titleMark? cell.char).isSome
      if titled then
        (afterTitle? between).bind fun next => afterResourceEnd? (skipSpacing next)
      else afterResourceEnd? between

/-- Blanks, and then a line break or the end. -/
def afterLine? (cells : List Cell) : Option (List Cell) :=
  match skipBlanks cells with
  | [] => some []
  | cell :: rest => if cell.char = '\n' then some rest else none

/-- A definition that begins here: its label, and what follows its last line. -/
def definition? (cells : List Cell) : Option (List Char × List Cell) :=
  match skipBlanks cells with
  | [] => none
  | bracket :: inner =>
    if bracket.char ≠ '[' then none
    else do
      let (label, next) ← label? inner
      let [colon] := next.take 1 | none
      if colon.char ≠ ':' then
        none
      let next ← afterDestination? cells.length (skipSpacing (next.drop 1))
      let titled :=
        if next.head?.any isSpacing then (afterTitle? (skipSpacing next)).bind afterLine? else none
      return (key label, ← titled.or (afterLine? next))

/-- The labels that are defined at the front, and what follows. -/
def definitions (steps : Nat) (cells : List Cell) : List (List Char) × List Cell :=
  match steps with
  | 0 => ([], cells)
  | steps + 1 =>
    match definition? cells with
    | none => ([], cells)
    | some (label, rest) =>
      let (labels, rest) := definitions steps rest
      (label :: labels, rest)

end DocCheck.Mdx.Reference
