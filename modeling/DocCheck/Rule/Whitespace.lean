import DocCheck.Document
import DocCheck.Rule.Violation

set_option autoImplicit false

namespace DocCheck

open Text

/-- No trailing spaces, unless a line that is not blank ends in exactly the spaces of a hard line
break. -/
structure TrailingSpaces where
  /-- Spaces of a hard line break; fewer than two allow none. -/
  breakSpaces : Nat := 2
  /-- Hard line breaks are not allowed either. -/
  strict : Bool := false
  deriving DecidableEq, Repr

/-- The length of the hard line break that is allowed. -/
def TrailingSpaces.hardBreak? (options : TrailingSpaces) : Option Nat :=
  if 2 ≤ options.breakSpaces ∧ ¬ options.strict then some options.breakSpaces else none

def TrailingSpaces.checkLine (options : TrailingSpaces) (line : Line) : Option Violation :=
  let content := trimEnd (· == ' ') line.text
  let trailing := line.text.length - content.length
  if trailing = 0 ∨ (options.hardBreak? = some trailing ∧ ¬ allBlank content) then
    none
  else
    some
      { line := line.number
        detail := some (.trailing options.hardBreak? trailing)
        range := some ⟨content.length + 1, trailing⟩
        edit := some (.deleting line.number (content.length + 1) trailing) }

def TrailingSpaces.check (options : TrailingSpaces) (doc : Document) : List Violation :=
  doc.prose.filterMap options.checkLine

/-- No tabs; the repair puts spaces in their place. -/
structure HardTabs where
  /-- Lines of fenced blocks are checked too. -/
  inCode : Bool := true
  spacesPerTab : Nat := 1
  deriving DecidableEq, Repr

/-- The spaces that take the place of `count` tabs; their number is a word. -/
def HardTabs.spaces (options : HardTabs) (count : Nat) : List Char :=
  List.replicate (count * options.spacesPerTab % wordLimit) ' '

/-- The column, counted from one, and the length of each run of tabs, for a text that stands after
`before` characters, the last `tabs` of them tabs. -/
def HardTabs.runsFrom (before tabs : Nat) : List Char → List Span
  | [] => if 0 < tabs then [⟨before - tabs + 1, tabs⟩] else []
  | '\t' :: rest => runsFrom (before + 1) (tabs + 1) rest
  | _ :: rest =>
    if 0 < tabs then ⟨before - tabs + 1, tabs⟩ :: runsFrom (before + 1) 0 rest
    else runsFrom (before + 1) 0 rest

def HardTabs.checkLine (options : HardTabs) (line : Line) : List Violation :=
  if line.kind.isCode ∧ ¬ options.inCode then
    []
  else
    (runsFrom 0 0 line.text).map fun run =>
      { line := line.number
        detail := some (.column run.column)
        range := some run
        edit := some (.replacing line.number run.column run.length (options.spaces run.length)) }

def HardTabs.check (options : HardTabs) (doc : Document) : List Violation :=
  doc.lines.flatMap options.checkLine

/-- Whether the spaces for some run of tabs are more than a text can hold, whose length is a signed word.
Inline comments play no part. -/
def HardTabs.overflows (options : HardTabs) (doc : Document) : Bool :=
  doc.lines.any fun line =>
    (options.inCode || !line.kind.isCode) &&
      (runsFrom 0 0 line.text).any fun run =>
        signedWordLimit ≤ run.length * options.spacesPerTab % wordLimit

/-- At most `maximum` blank lines in a row outside fenced blocks. -/
structure MultipleBlanks where
  maximum : Nat := 1
  deriving DecidableEq, Repr

/-- The violations along `lines`, where `blanks` blank lines stand before them. -/
def MultipleBlanks.checkFrom (options : MultipleBlanks) (blanks : Nat) :
    List Line → List Violation
  | [] => []
  | line :: rest =>
    if line.kind.isCode ∨ ¬ allBlank line.text then
      options.checkFrom 0 rest
    else if options.maximum < blanks + 1 then
      { line := line.number
        detail := some (.excess options.maximum (blanks + 1))
        edit := some (.deletingLine line.number) } :: options.checkFrom (blanks + 1) rest
    else
      options.checkFrom (blanks + 1) rest

def MultipleBlanks.check (options : MultipleBlanks) (doc : Document) : List Violation :=
  options.checkFrom 0 doc.lines

/-- The last line is empty. -/
structure FinalNewline where
  deriving DecidableEq, Repr

def FinalNewline.check (_ : FinalNewline) (doc : Document) : List Violation :=
  match doc.lines.getLast? with
  | none => []
  | some last =>
    if last.text = [] then
      []
    else
      [{ line := last.number
         range := some ⟨last.text.length + 1, 1⟩
         edit := some (.inserting last.number (last.text.length + 1) ['\n']) }]

end DocCheck
