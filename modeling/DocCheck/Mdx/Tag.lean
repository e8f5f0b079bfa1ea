import DocCheck.Mdx.Place
import DocCheck.Text.Blank
import DocCheck.Text.Identifier

/-!
Reading a JSX tag character by character. Between any two parts blanks and line breaks may stand; a tag
that meets the end of its text outside of a quoted value or an expression is no tag after all.
-/

set_option autoImplicit false

namespace DocCheck.Mdx

/-- A whole tag. The last three fields say where the slash of a closing tag, the first attribute and the
slash of a self-closing tag stand. -/
structure Tag where
  start : Place
  stop : Place
  name : List Char
  closing : Option Place
  firstAttribute : Option Place
  selfClosing : Option Place
  deriving DecidableEq, Repr

/-- The tag without its attributes. -/
def Tag.render (tag : Tag) : String :=
  (if tag.closing.isSome then "</" else "<") ++ String.ofList tag.name ++ ">"

namespace Tag

/-- What has been read of a tag: each phase is named for what comes next. -/
inductive Phase where
  | opening
  | nameStart
  | closingNameStart
  | name
  | nameEnd
  | memberStart
  | member
  | memberEnd
  | localStart
  | localName
  | localEnd
  | attributeStart
  | attributeName
  | attributeEnd
  | attributeLocalStart
  | attributeLocal
  | attributeLocalEnd
  | valueStart
  /-- Inside of quotes; `gap` tells that only blanks were read since a line break. -/
  | quoted (quote : Char) (gap : Bool)
  | selfClosing
  /-- Inside of braces, of which `depth` more are open. -/
  | expression (depth : Nat)
  deriving DecidableEq, Repr

/-- What cannot stand where a tag is in this phase. -/
structure Misfit where
  phase : Phase
  found : Option Char
  deriving DecidableEq, Repr

def isNameStart (c : Char) : Bool :=
  Text.isIdStart c || c = '$' || c = '_'

def isNameChar (c : Char) : Bool :=
  Text.isIdContinue c || c = '-' || c = '\u200c' || c = '\u200d'

def describe : Option Char → String
  | none => "end of file"
  | some c =>
    let digits := (Nat.toDigits 16 c.toNat).map Char.toUpper
    let code := "U+" ++ String.ofList (List.replicate (4 - digits.length) '0' ++ digits)
    if c = '\x60' then "character `` ` `` (" ++ code ++ ")"
    else if '!' ≤ c ∧ c ≤ '~' then "character `" ++ c.toString ++ "` (" ++ code ++ ")"
    else "character " ++ code

def linkNote : String :=
  " (note: to create a link in MDX, use `[text](url)`)"

def commentNote : String :=
  " (note: JS comments in JSX tags are not supported in MDX)"

def expectedStart : String :=
  "a character that can start a name, such as a letter, `$`, or `_`"

def expectedNameChar : String :=
  "a name character such as letters, digits, `$`, or `_`; whitespace before attributes; or the end " ++
    "of the tag"

def expectedAttribute : String :=
  "a character that can start an attribute name, such as a letter, `$`, or `_`; whitespace before " ++
    "attributes; or the end of the tag"

def expectedAttributeChar : String :=
  "an attribute name character such as letters, digits, `$`, or `_`; `=` to initialize a value; " ++
    "whitespace before attributes; or the end of the tag"

def expectedAfterAttribute : String :=
  "a character that can start an attribute name, such as a letter, `$`, or `_`; `=` to initialize a " ++
    "value; or the end of the tag"

/-- Where the misfit stands and what should. -/
def Misfit.message (misfit : Misfit) : String × String :=
  let noteOn (c : Char) (note : String) : String := if misfit.found = some c then note else ""
  match misfit.phase with
  | .opening => ("before name", expectedStart)
  | .nameStart =>
    ("before name", expectedStart ++
      noteOn '!' " (note: to create a comment in MDX, use `\x7b/* text */\x7d`)")
  | .closingNameStart => ("before name", expectedStart ++ noteOn '/' commentNote)
  | .name => ("in name", expectedNameChar ++ noteOn '@' linkNote)
  | .nameEnd => ("after name", expectedAttribute)
  | .memberStart => ("before member name", expectedAttribute)
  | .member => ("in member name", expectedNameChar ++ noteOn '@' linkNote)
  | .memberEnd => ("after member name", expectedAttribute)
  | .localStart =>
    ("before local name", expectedStart ++
      (if misfit.found.any fun c => c = '+' || '/' ≤ c && c ≤ '9' then linkNote else ""))
  | .localName => ("in local name", expectedNameChar)
  | .localEnd => ("after local name", expectedAttribute)
  | .attributeStart => ("before attribute name", expectedAttribute)
  | .attributeName => ("in attribute name", expectedAttributeChar)
  | .attributeEnd => ("after attribute name", expectedAfterAttribute)
  | .attributeLocalStart => ("before local attribute name", expectedAfterAttribute)
  | .attributeLocal => ("in local attribute name", expectedAttributeChar)
  | .attributeLocalEnd => ("after local attribute name", expectedAfterAttribute)
  | .valueStart =>
    ("before attribute value",
      "a character that can start an attribute value, such as `\"`, `'`, or `\x7b`" ++
        noteOn '<' (" (note: to use an element or fragment as a prop value in MDX, use " ++
          "`\x7b<element />\x7d`)"))
  | .quoted quote _ =>
    ("in attribute value", "a corresponding closing quote " ++
      (if quote = '"' then "`\"` (U+0022)" else "`'` (U+0027)"))
  | .selfClosing => ("after self-closing slash", "`>` to end the tag" ++ noteOn '/' commentNote)
  | .expression _ => ("in expression", "a corresponding closing brace for `\x7b`")

/-- A tag that is being read; where it stops is not known yet. -/
structure Reading where
  phase : Phase
  tag : Tag
  deriving Repr

/-- The reading of a tag that begins at `start`, after its first character. -/
def Reading.begin (start : Place) : Reading :=
  ⟨.opening, ⟨start, start, [], none, none, none⟩⟩

inductive Outcome where
  | more (reading : Reading)
  | done (tag : Tag)
  | noTag
  | misfit (misfit : Misfit)

namespace Reading

def moveTo (r : Reading) (phase : Phase) : Outcome :=
  .more { r with phase }

def fail (phase : Phase) (cell : Cell) : Outcome :=
  .misfit ⟨phase, some cell.char⟩

/-- The bracket at the end of the tag. -/
def finish (r : Reading) (cell : Cell) : Outcome :=
  .done { r.tag with stop := cell.place.after cell.char }

def addName (r : Reading) (phase : Phase) (c : Char) : Outcome :=
  .more ⟨phase, { r.tag with name := r.tag.name ++ [c] }⟩

def beginAttribute (r : Reading) (phase : Phase) (cell : Cell) : Outcome :=
  .more ⟨phase, { r.tag with firstAttribute := some (r.tag.firstAttribute.getD cell.place) }⟩

def atAttributeStart (r : Reading) (cell : Cell) : Outcome :=
  let c := cell.char
  if Text.isBlank c then r.moveTo .attributeStart
  else if c = '/' then .more ⟨.selfClosing, { r.tag with selfClosing := some cell.place }⟩
  else if c = '>' then r.finish cell
  else if c = '\x7b' then r.beginAttribute (.expression 0) cell
  else if isNameStart c then r.beginAttribute .attributeName cell
  else fail .attributeStart cell

/-- A character that may stand right after a name. -/
def endsName (c : Char) : Bool :=
  c = '/' || c = '>' || c = '\x7b' || isNameStart c

/-- After part of a name: another part where `separators` has the character, else attributes. -/
def atNameEnd (r : Reading) (phase : Phase) (separators : List (Char × Phase)) (cell : Cell) :
    Outcome :=
  let c := cell.char
  if Text.isBlank c then r.moveTo phase
  else
    match separators.lookup c with
    | some next => r.addName next c
    | none => if endsName c then r.atAttributeStart cell else fail phase cell

/-- Inside of part of a name, which a blank, a separator or what may follow a name ends. -/
def inName (r : Reading) (phase after : Phase) (separators : List (Char × Phase)) (cell : Cell) :
    Outcome :=
  let c := cell.char
  if isNameChar c then r.addName phase c
  else if Text.isBlank c ∨ (separators.lookup c).isSome ∨ endsName c ∧ ¬ isNameStart c then
    r.atNameEnd after separators cell
  else fail phase cell

/-- In front of part of a name. -/
def atPartStart (r : Reading) (phase inside : Phase) (cell : Cell) : Outcome :=
  if Text.isBlank cell.char then r.moveTo phase
  else if isNameStart cell.char then r.addName inside cell.char
  else fail phase cell

def atNameStart (r : Reading) (cell : Cell) : Outcome :=
  if cell.char = '/' then .more ⟨.closingNameStart, { r.tag with closing := some cell.place }⟩
  else if cell.char = '>' then r.finish cell
  else r.atPartStart .nameStart .name cell

/-- After part of the name of an attribute: a value, another part, or what may follow. -/
def atAttributeEnd (r : Reading) (phase : Phase) (separators : List (Char × Phase)) (cell : Cell) :
    Outcome :=
  let c := cell.char
  if Text.isBlank c then r.moveTo phase
  else
    match separators.lookup c with
    | some next => r.moveTo next
    | none => if endsName c then r.atAttributeStart cell else fail phase cell

def inAttribute (r : Reading) (phase after : Phase) (separators : List (Char × Phase))
    (cell : Cell) : Outcome :=
  let c := cell.char
  if isNameChar c then r.moveTo phase
  else if Text.isBlank c ∨ (separators.lookup c).isSome ∨ endsName c ∧ ¬ isNameStart c then
    r.atAttributeEnd after separators cell
  else fail phase cell

/-- No blank may stand in front of a value. -/
def atValueStart (r : Reading) (cell : Cell) : Outcome :=
  let c := cell.char
  if Text.isBlank c then .noTag
  else if c = '"' ∨ c = '\'' then r.moveTo (.quoted c false)
  else if c = '\x7b' then r.moveTo (.expression 0)
  else fail .valueStart cell

def inQuotes (r : Reading) (quote : Char) (gap : Bool) (c : Char) : Outcome :=
  if c = quote then r.moveTo .attributeStart
  else r.moveTo (.quoted quote (c = '\n' || gap && Text.isBlank c))

def inBraces (r : Reading) (depth : Nat) (c : Char) : Outcome :=
  if c = '\x7b' then r.moveTo (.expression (depth + 1))
  else if c ≠ '\x7d' then r.moveTo (.expression depth)
  else
    match depth with
    | 0 => r.moveTo .attributeStart
    | depth + 1 => r.moveTo (.expression depth)

def next (r : Reading) (cell : Cell) : Outcome :=
  let names : List (Char × Phase) := [('.', .memberStart), (':', .localStart)]
  let attributes : List (Char × Phase) := [(':', .attributeLocalStart), ('=', .valueStart)]
  match r.phase with
  | .opening => if [' ', '\t', '\n'].contains cell.char then .noTag else r.atNameStart cell
  | .nameStart => r.atNameStart cell
  | .closingNameStart =>
    if cell.char = '>' then r.finish cell else r.atPartStart .closingNameStart .name cell
  | .name => r.inName .name .nameEnd names cell
  | .nameEnd => r.atNameEnd .nameEnd names cell
  | .memberStart => r.atPartStart .memberStart .member cell
  | .member => r.inName .member .memberEnd (names.take 1) cell
  | .memberEnd => r.atNameEnd .memberEnd (names.take 1) cell
  | .localStart => r.atPartStart .localStart .localName cell
  | .localName => r.inName .localName .localEnd [] cell
  | .localEnd => r.atNameEnd .localEnd [] cell
  | .attributeStart => r.atAttributeStart cell
  | .attributeName => r.inAttribute .attributeName .attributeEnd attributes cell
  | .attributeEnd => r.atAttributeEnd .attributeEnd attributes cell
  | .attributeLocalStart =>
    if Text.isBlank cell.char then r.moveTo .attributeLocalStart
    else if isNameStart cell.char then r.moveTo .attributeLocal
    else fail .attributeLocalStart cell
  | .attributeLocal => r.inAttribute .attributeLocal .attributeLocalEnd (attributes.drop 1) cell
  | .attributeLocalEnd => r.atAttributeEnd .attributeLocalEnd (attributes.drop 1) cell
  | .valueStart => r.atValueStart cell
  | .quoted quote gap => r.inQuotes quote gap cell.char
  | .selfClosing =>
    if Text.isBlank cell.char then r.moveTo .selfClosing
    else if cell.char = '>' then r.finish cell
    else fail .selfClosing cell
  | .expression depth => r.inBraces depth cell.char

/-- What the end of the text does to a tag. Right after a line break a quoted value is forgiven. -/
def stop (r : Reading) : Outcome :=
  match r.phase with
  | .quoted _ false => .misfit ⟨r.phase, none⟩
  | .expression _ => .misfit ⟨r.phase, none⟩
  | _ => .noTag

end Reading

end Tag

end DocCheck.Mdx
