import DocCheck.Document
import DocCheck.Rule.Violation
import DocCheck.Text.DecimalDigit

set_option autoImplicit false

namespace DocCheck

open Text

/-- Heading levels increase by at most one. -/
structure HeadingIncrement where
  deriving DecidableEq, Repr

/-- The levels along `headings`, where `previous` is the level before them. -/
def HeadingIncrement.checkFrom (previous : Option Nat) : List (Line × Heading) → List Violation
  | [] => []
  | (line, heading) :: rest =>
    let found :=
      match previous with
      | none => []
      | some level =>
        if level + 1 < heading.level then
          [{ line := line.number
             detail := some (.level (level + 1) heading.level)
             context := some (trim line.text) }]
        else
          []
    found ++ checkFrom (some heading.level) rest

def HeadingIncrement.check (_ : HeadingIncrement) (doc : Document) : List Violation :=
  checkFrom none doc.headings

/-- The opening hashes are followed by a space. -/
structure MissingSpace where
  deriving DecidableEq, Repr

/-- Up to three spaces and at least one hash, then neither a hash, a space nor a tab. A line that
ends in a hash is left alone. -/
def MissingSpace.checkLine (line : Line) : Option Violation :=
  let indent := (line.text.takeWhile (· == ' ')).length
  let opened := line.text.dropWhile (· == ' ')
  let hashes := (opened.takeWhile (· == '#')).length
  let shown := trimEnd isBlank line.text
  if indent ≤ 3 ∧ 0 < hashes ∧ (opened.dropWhile (· == '#')).head?.any (!isSpaceOrTab ·) ∧
      shown.getLast? ≠ some '#' then
    some
      { line := line.number
        context := some shown
        range := some ⟨indent + 1, hashes + 1⟩
        edit := some (.inserting line.number (indent + hashes + 1) [' ']) }
  else
    none

def MissingSpace.check (_ : MissingSpace) (doc : Document) : List Violation :=
  doc.prose.filterMap checkLine

/-- One space or tab follows the opening hashes. -/
structure MultipleSpace where
  deriving DecidableEq, Repr

def MultipleSpace.checkHeading (line : Line) (heading : Heading) : Option Violation :=
  if 1 < heading.spacing ∧ heading.content ≠ [] then
    some
      { line := line.number
        context := some (trim line.text)
        range := some ⟨heading.indent + 1, heading.level + heading.spacing⟩
        edit := some
          (.deleting line.number (heading.indent + heading.level + 2) (heading.spacing - 1)) }
  else
    none

def MultipleSpace.check (_ : MultipleSpace) (doc : Document) : List Violation :=
  doc.headings.filterMap fun (line, heading) => checkHeading line heading

/-- Headings are not indented. -/
structure HeadingStart where
  deriving DecidableEq, Repr

def HeadingStart.checkHeading (line : Line) (heading : Heading) : Option Violation :=
  if 0 < heading.indent then
    some
      { line := line.number
        context := some (trim line.text)
        range := some ⟨1, heading.indent + heading.level⟩
        edit := some (.deleting line.number 1 heading.indent) }
  else
    none

def HeadingStart.check (_ : HeadingStart) (doc : Document) : List Violation :=
  doc.headings.filterMap fun (line, heading) => checkHeading line heading

/-- At most one heading has the level of a title. -/
structure SingleTitle where
  level : Nat := 1
  deriving DecidableEq, Repr

def SingleTitle.check (options : SingleTitle) (doc : Document) : List Violation :=
  ((doc.headings.filter (·.2.level == options.level)).drop 1).map fun (line, _) =>
    { line := line.number, context := some (trim line.text) }

/-- The content of a heading does not end in punctuation. -/
structure TrailingPunctuation where
  punctuation : List Char := ".,;:!\u3002\uff0c\uff1b\uff1a\uff01".toList
  deriving DecidableEq, Repr

/-- The characters of a text end in `&`, a character reference and `;`. -/
def TrailingPunctuation.endsInReference (text : List Char) : Bool :=
  match text.reverse with
  | ';' :: front =>
    let name := front.takeWhile fun c => c.isAlphanum || c == '#' || isDecimalDigit c
    front[name.length]? == some '&' &&
      match name.reverse with
      | '#' :: rest =>
        rest ≠ [] &&
          (rest.all isDecimalDigit ||
            match rest with
            | x :: digits =>
              (x == 'x' || x == 'X') && digits ≠ [] &&
                digits.all fun c => c.isDigit || ('a' ≤ c && c ≤ 'f') || ('A' ≤ c && c ≤ 'F')
            | [] => false)
      | first :: rest => first.isAlpha && rest.all Char.isAlphanum
      | [] => false
  | _ => false

def TrailingPunctuation.checkHeading (options : TrailingPunctuation) (line : Line)
    (heading : Heading) : Option Violation :=
  heading.content.getLast?.bind fun last =>
    if last ∈ options.punctuation ∧ ¬ endsInReference heading.content then
      let column := heading.contentStart + heading.content.length
      some
        { line := line.number
          detail := some (.punctuation last)
          context := some (trim line.text)
          range := some ⟨column, 1⟩
          edit := some (.deleting line.number column 1) }
    else
      none

def TrailingPunctuation.check (options : TrailingPunctuation) (doc : Document) : List Violation :=
  doc.headings.filterMap fun (line, heading) => options.checkHeading line heading

end DocCheck
