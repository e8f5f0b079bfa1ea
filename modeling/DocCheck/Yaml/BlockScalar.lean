import DocCheck.Yaml.Cursor

/-!
Block scalars: text on lines of its own, indented below what it belongs to. A literal scalar keeps its line
breaks and a folded one joins lines that are not indented further. The header may say how far the text is
indented, and whether the breaks at its end are dropped, reduced to one or kept.
-/

set_option autoImplicit false

namespace DocCheck.Yaml.BlockScalar

inductive Chomping where
  | strip
  | clip
  | keep
  deriving DecidableEq, Repr

structure Header where
  chomping : Chomping
  /-- The indentation that the header names; zero if it names none. -/
  increment : Nat

def chomping? (c : Char) : Option Chomping :=
  if c = '+' then some .keep else if c = '-' then some .strip else none

/-- Reads the header: a sign and a digit other than zero, in either order, each of which may be
missing. -/
def readHeader (cursor : Cursor) : Option (Header × Cursor) :=
  let digit (c : Char) : Nat := c.toNat - 48
  let first := cursor.peek
  let second := cursor.peekAt 1
  match chomping? first with
  | some chomping =>
    if second = '0' then none
    else if second.isDigit then some (⟨chomping, digit second⟩, cursor.skip 2)
    else some (⟨chomping, 0⟩, cursor.skip 1)
  | none =>
    if first = '0' then none
    else if first.isDigit then
      match chomping? second with
      | some chomping => some (⟨chomping, digit first⟩, cursor.skip 2)
      | none => some (⟨.clip, digit first⟩, cursor.skip 1)
    else some (⟨.clip, 0⟩, cursor)

/-- Passes empty lines and up to `indent` spaces of the line after them; gives the number of lines. -/
def passIndent (steps indent breaks : Nat) (cursor : Cursor) : Nat × Cursor :=
  match steps with
  | 0 => (breaks, cursor)
  | steps + 1 =>
    let spaces := (cursor.span (· = ' ')).length
    let cursor := cursor.skipBlanks (min spaces (indent - cursor.column))
    if isBreak cursor.peek then passIndent steps indent (breaks + 1) cursor.skipBreak
    else (breaks, cursor)

/-- Passes empty lines and all spaces of the line after them; gives the number of lines and the widest
indentation. -/
def passFirstIndent (steps widest breaks : Nat) (cursor : Cursor) : Nat × Nat × Cursor :=
  match steps with
  | 0 => (widest, breaks, cursor)
  | steps + 1 =>
    let cursor := cursor.skipBlanks (cursor.span (· = ' ')).length
    let widest := max widest cursor.column
    if isBreak cursor.peek then passFirstIndent steps widest (breaks + 1) cursor.skipBreak
    else (widest, breaks, cursor)

/-- Lines that have been read, in reverse, and the line breaks after them. -/
structure Lines where
  text : List Char
  /-- The last line ended in a break. -/
  ended : Bool
  /-- Empty lines since. -/
  breaks : Nat
  /-- The last line began with a blank. -/
  indented : Bool

/-- What stands between the lines read and one more, in reverse. -/
def Lines.gap (lines : Lines) (literal indented : Bool) : List Char :=
  let breaks := List.replicate lines.breaks '\n'
  if ¬ literal ∧ lines.ended ∧ ¬ lines.indented ∧ ¬ indented then
    if lines.breaks = 0 then [' '] else breaks
  else if lines.ended then '\n' :: breaks
  else breaks

/-- Reads the lines that are indented by `indent`. -/
def readLines (steps indent : Nat) (literal : Bool) (lines : Lines) (cursor : Cursor) :
    Lines × Cursor :=
  match steps with
  | 0 => (lines, cursor)
  | steps + 1 =>
    if cursor.column ≠ indent ∨ isEnd cursor.peek ∨ indent = 0 ∧ cursor.atThree '.' then
      (lines, cursor)
    else
      let indented := isBlank cursor.peek
      let line := cursor.span fun c => !isBreak c
      let text := line.reverse ++ lines.gap literal indented ++ lines.text
      let cursor := cursor.skip line.length
      if isEnd cursor.peek then
        (⟨text, false, 0, indented⟩, cursor)
      else
        let (breaks, cursor) := passIndent cursor.rest.length indent 0 cursor.skipBreak
        readLines steps indent literal ⟨text, true, breaks, indented⟩ cursor

/-- Cuts the end of the text as the header says. -/
def finish (chomping : Chomping) (indent : Nat) (lines : Lines) (cursor : Cursor) : List Char :=
  let last :=
    if chomping = .strip then []
    else
      (if lines.ended then ['\n'] else []) ++
        (if isEnd cursor.peek ∧ max indent 1 ≤ cursor.column then ['\n'] else [])
  let kept := if chomping = .keep then List.replicate lines.breaks '\n' else []
  lines.text.reverse ++ last ++ kept

/-- What a scalar without lines holds: `first` tells whether its header ended in a break, and `breaks`
counts the empty lines after it. -/
def empty (chomping : Chomping) (first : Bool) (breaks : Nat) : List Char :=
  match chomping with
  | .strip => []
  | .clip => if first then ['\n'] else []
  | .keep => if first then List.replicate (max breaks 1) '\n' else []

/-- Reads a block scalar below the indentation `indent`; the cursor stands after its indicator. -/
def read (indent : Int) (literal : Bool) (cursor : Cursor) : Option (List Char × Cursor) := do
  let (header, next) ← readHeader cursor
  let (next, _) ← next.skipToLineEnd true
  if ¬ isBreakOrEnd next.peek then
    none
  let first := isBreak next.peek
  let next := if first then next.skipBreak else next
  if next.peek = '\t' then
    none
  let steps := next.rest.length + 1
  let (width, breaks, next) :=
    if header.increment = 0 then
      let (widest, breaks, next) := passFirstIndent steps 0 0 next
      let width := max widest (indent + 1).toNat
      (if 0 < indent then max width 1 else width, breaks, next)
    else
      let width := (max indent 0).toNat + header.increment
      let (breaks, next) := passIndent steps width 0 next
      (width, breaks, next)
  if isEnd next.peek then
    some (empty header.chomping first breaks, next)
  else if next.column < width ∧ indent < next.column then
    none
  else
    let (lines, next) := readLines steps width literal ⟨[], false, breaks, false⟩ next
    some (finish header.chomping width lines next, next)

end DocCheck.Yaml.BlockScalar
