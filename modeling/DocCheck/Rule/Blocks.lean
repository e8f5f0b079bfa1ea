import DocCheck.Document
import DocCheck.Rule.Violation

set_option autoImplicit false

namespace DocCheck

open Text

/-- Lines hold at most so many characters. -/
structure LineLength where
  limit : Nat := 80
  /-- The limit of heading lines, if it differs. -/
  headingLimit : Option Nat := none
  /-- The limit of lines of fenced blocks, if it differs. -/
  codeLimit : Option Nat := none
  /-- Lines of fenced blocks are checked. -/
  inCode : Bool := true
  /-- Heading lines are checked. -/
  inHeadings : Bool := true
  /-- A line is too long even without a blank beyond the limit. -/
  strict : Bool := false
  deriving DecidableEq, Repr

/-- The limit of a line; nothing when the line is not checked. -/
def LineLength.limitOf (options : LineLength) (line : Line) : Option Nat :=
  if line.kind.isCode then
    if options.inCode then some (options.codeLimit.getD options.limit) else none
  else if (Heading.parse? line.text).isSome then
    if options.inHeadings then some (options.headingLimit.getD options.limit) else none
  else
    some options.limit

def LineLength.checkLine (options : LineLength) (line : Line) : Option Violation :=
  (options.limitOf line).bind fun limit =>
    let length := line.text.length
    if limit < length ∧ (options.strict ∨ (line.text.drop limit).any isBlank) then
      some
        { line := line.number
          detail := some (.excess limit length)
          range := some ⟨limit + 1, length - limit⟩ }
    else
      none

def LineLength.check (options : LineLength) (doc : Document) : List Violation :=
  doc.lines.filterMap options.checkLine

/-- The fence that opens a block has an info string. -/
structure FenceLanguage where
  deriving DecidableEq, Repr

def FenceLanguage.checkLine (line : Line) : Option Violation :=
  if line.kind = .fenceOpen [] then
    some { line := line.number, context := some (trim line.text) }
  else
    none

def FenceLanguage.check (_ : FenceLanguage) (doc : Document) : List Violation :=
  doc.lines.filterMap checkLine

end DocCheck
