import DocCheck.Text.Blank
import DocCheck.Text.Lines
import DocCheck.Word

/-!
Edits and their application. The edits of a text are applied in one pass, from the last line to the
first and on a line from right to left, so that the columns of those still to come stay valid.
-/

set_option autoImplicit false

namespace DocCheck

open Text

/-- What an edit removes before it inserts. -/
inductive Deletion where
  /-- This many characters from the edit's column on. -/
  | chars (count : Nat)
  /-- The line with its break. -/
  | wholeLine
  deriving DecidableEq, Repr

/-- A repair of one line. Lines and columns are counted from one, columns in characters. -/
structure Edit where
  line : Nat
  column : Nat
  deletion : Deletion
  /-- A `\n` in it stands for the line break of the text. -/
  insert : List Char
  deriving DecidableEq, Repr

namespace Edit

def inserting (line column : Nat) (text : List Char) : Edit :=
  ⟨line, column, .chars 0, text⟩

def deleting (line column count : Nat) : Edit :=
  ⟨line, column, .chars count, []⟩

def replacing (line column count : Nat) (text : List Char) : Edit :=
  ⟨line, column, .chars count, text⟩

def deletingLine (line : Nat) : Edit :=
  ⟨line, 1, .wholeLine, []⟩

/-- Characters before the edit. Column zero counts as column one. -/
def start (edit : Edit) : Nat :=
  edit.column - 1

/-- Where `count` characters from the edit's start on end; the sum is a word. -/
def stop (edit : Edit) (count : Nat) : Nat :=
  (edit.start + count) % wordLimit

def deletesLine (edit : Edit) : Bool :=
  edit.deletion = .wholeLine

/-- The order of application: later lines first; on a line the deletion of the line last, higher
columns first, and at one column the longer insertion first. -/
def precedes (a b : Edit) : Bool :=
  if a.line ≠ b.line then b.line < a.line
  else if a.deletesLine ≠ b.deletesLine then b.deletesLine
  else if a.column ≠ b.column then b.column < a.column
  else byteLength b.insert ≤ byteLength a.insert

/-- Of equal neighbours, one stays. -/
def dropRepeats : List Edit → List Edit
  | a :: b :: rest => if a = b then dropRepeats (b :: rest) else a :: dropRepeats (b :: rest)
  | edits => edits

def schedule (edits : List Edit) : List Edit :=
  dropRepeats (edits.mergeSort precedes)

/-- A `\n` becomes the given line break. -/
def insertion (edit : Edit) (ending : LineEnding) : List Char :=
  edit.insert.flatMap fun c => if c = '\n' then ending.toList else [c]

/-- The line after the edit; nothing when the edit deletes it. -/
def applyTo (edit : Edit) (ending : LineEnding) (line : List Char) : Option (List Char) :=
  match edit.deletion with
  | .wholeLine => none
  | .chars count =>
    some (line.take edit.start ++ edit.insertion ending ++ line.drop (edit.stop count))

/-- The line, counted from zero, and the start of the edit that was considered last. -/
structure Mark where
  line : Nat
  start : Nat
  deriving DecidableEq, Repr

/-- Whether an edit of line `line` keeps clear of the one considered before it. -/
def clears (edit : Edit) (line : Nat) : Option Mark → Bool
  | none => true
  | some mark =>
    match edit.deletion with
    | .wholeLine => true
    | .chars count =>
      mark.line ≠ line ||
        if 0 < count then edit.stop count ≤ mark.start
        else 0 < mark.start && edit.stop 0 ≤ mark.start - 1

/-- A text under repair: its lines, without those deleted, and the last edit considered. -/
structure Progress where
  lines : Array (Option (List Char))
  last : Option Mark
  deriving DecidableEq, Repr

/-- Considers one edit. One that names no line changes nothing; one that is not clear of the edit
before it is dropped. -/
def Progress.step (ending : LineEnding) (state : Progress) (edit : Edit) : Progress :=
  match edit.line with
  | 0 => state
  | line + 1 =>
    { lines :=
        if edit.clears line state.last then
          state.lines.modify line (·.bind (edit.applyTo ending))
        else
          state.lines
      last := some ⟨line, edit.start⟩ }

def survivors (ending : LineEnding) (lines : List (List Char)) (edits : List Edit) :
    List (List Char) :=
  (edits.foldl (Progress.step ending) ⟨(lines.map some).toArray, none⟩).lines.toList.filterMap id

/-- Applies edits to a text. The first line break of the text ends every line of the result. -/
def applyAll (text : List Char) (edits : List Edit) : List Char :=
  let ending := lineEnding text
  joinLines ending (survivors ending (lines text) (schedule edits))

end Edit

end DocCheck
