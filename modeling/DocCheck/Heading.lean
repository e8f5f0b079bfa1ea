import DocCheck.Text.Blank

set_option autoImplicit false

namespace DocCheck

open Text

/-- A heading line, cut into its parts. The parts before the content are ASCII, so their lengths
count characters and bytes alike. -/
structure Heading where
  /-- Spaces before the opening hashes. -/
  indent : Nat
  /-- Opening hashes. -/
  level : Nat
  /-- Spaces and tabs between the opening hashes and the content. -/
  spacing : Nat
  /-- The text without the closing hashes and the spaces and tabs around it. -/
  content : List Char
  deriving DecidableEq, Repr

/-- The column at which the content begins, counted from zero. -/
def Heading.contentStart (heading : Heading) : Nat :=
  heading.indent + heading.level + heading.spacing

/-- Removes a closing run of hashes that stands alone or after a space or tab. -/
def Heading.withoutClosing (body : List Char) : List Char :=
  let front := trimEnd (· == '#') body
  if front.length < body.length ∧ front.getLast?.all isSpaceOrTab then
    trimEnd isSpaceOrTab front
  else
    body

/-- Reads a line as an ATX heading: up to three spaces, one to six hashes, then the end of the line or a
space or tab. -/
def Heading.parse? (line : List Char) : Option Heading :=
  let indent := (line.takeWhile (· == ' ')).length
  let opened := line.dropWhile (· == ' ')
  let level := (opened.takeWhile (· == '#')).length
  let after := opened.dropWhile (· == '#')
  if indent ≤ 3 ∧ 1 ≤ level ∧ level ≤ 6 ∧ after.head?.all isSpaceOrTab then
    some
      { indent, level
        spacing := (after.takeWhile isSpaceOrTab).length
        content := withoutClosing (trimEnd isSpaceOrTab (after.dropWhile isSpaceOrTab)) }
  else
    none

end DocCheck
