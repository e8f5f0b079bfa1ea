import DocCheck.Yaml.BlockScalar
import DocCheck.Yaml.Plain
import DocCheck.Yaml.Quoted
import DocCheck.Yaml.Tag

/-!
From YAML text to tokens. That something is a name shows only at the colon after it, so the place of
whatever may be a name is kept, and its `key` token is put there later.
-/

set_option autoImplicit false

namespace DocCheck.Yaml

/-- Something that a colon may turn into a name. -/
structure Candidate where
  index : Nat
  line : Nat
  column : Nat
  /-- The number of tokens in front of it. -/
  place : Nat
  /-- It must be a name, as it stands where the entries of a mapping begin. -/
  required : Bool

structure Indentation where
  column : Int
  /-- A block collection began when it was left; otherwise it merely had to be exceeded. -/
  opensBlock : Bool

structure Scanner where
  cursor : Cursor
  tokens : Array Token
  /-- The indentation of the innermost block collection; -1 outside of all. -/
  indent : Int
  /-- The indentations that it replaced, innermost first. -/
  outer : List Indentation
  candidateAllowed : Bool
  candidate : Option Candidate
  /-- The candidates around each open flow collection, innermost first. -/
  flow : List (Option Candidate)
  /-- Where a colon separates even without a blank after it. -/
  adjacentAt : Nat
  /-- An entry of a flow mapping is under way. -/
  inMapping : Bool
  /-- For each open flow sequence, whether a single entry of a mapping stands in it now. -/
  sequences : List Bool
  /-- Where the last anchor or tag began on its line. -/
  propertyColumn : Nat

def Scanner.ofChars (text : List Char) : Scanner where
  cursor := .ofChars text
  tokens := #[]
  indent := -1
  outer := []
  candidateAllowed := true
  candidate := none
  flow := []
  adjacentAt := 0
  inMapping := false
  sequences := []
  propertyColumn := 0

def Scanner.inFlow (s : Scanner) : Bool :=
  !s.flow.isEmpty

abbrev Scan := StateT Scanner Option

namespace Scan

def fail {α : Type} : Scan α := fun _ =>
  none

def check (p : Prop) [Decidable p] : Scan Unit :=
  if p then pure () else fail

def emit (token : Token) : Scan Unit :=
  modify fun s => { s with tokens := s.tokens.push token }

/-- Puts a token after the first `place` ones. -/
def insert (place : Nat) (token : Token) : Scan Unit :=
  modify fun s =>
    { s with tokens := (s.tokens.extract 0 place).push token ++ s.tokens.extract place s.tokens.size }

def moveTo (cursor : Cursor) : Scan Unit :=
  modify fun s => { s with cursor }

/-- Lifts a reader to the place where the scanner stands. -/
def read {α : Type} (reader : Cursor → Option (α × Cursor)) : Scan α := do
  match reader (← get).cursor with
  | none => fail
  | some (result, cursor) => moveTo cursor; return result

def skip (n : Nat) : Scan Unit := do
  moveTo ((← get).cursor.skip n)

/-- Passes the blanks and the comment on the rest of the line; whether there was a tab, and a space. -/
def skipToLineEnd : Scan (Bool × Bool) :=
  read fun cursor => (cursor.skipToLineEnd true).map fun (next, found) => (found, next)

def allow (candidates : Bool) : Scan Unit :=
  modify fun s => { s with candidateAllowed := candidates }

/-- What begins here may be a name. -/
def saveCandidate : Scan Unit :=
  modify fun s =>
    if s.candidateAllowed then
      { s with
        candidate := some
          { index := s.cursor.index
            line := s.cursor.line
            column := s.cursor.column
            place := s.tokens.size
            required := s.flow.isEmpty && s.indent = s.cursor.column &&
              s.outer.head?.any (·.opensBlock) } }
    else s

/-- What was read is no name after all. -/
def dropCandidate : Scan Unit := do
  check (¬ (← get).candidate.any (·.required))
  modify fun s => { s with candidate := none }

/-- Outside of flow collections a name is on one line and at most 1024 characters long. -/
def dropStaleCandidate : Scan Unit := do
  let s ← get
  match s.candidate with
  | none => pure ()
  | some c =>
    if ¬ s.inFlow ∧ (c.line < s.cursor.line ∨ c.index + 1024 < s.cursor.index) then
      dropCandidate

/-- The indentations above, without those that merely had to be exceeded. -/
def dropExcess (indent : Int) : List Indentation → Int × List Indentation
  | [] => (indent, [])
  | i :: outer => if i.opensBlock then (indent, i :: outer) else dropExcess i.column outer

def unrollExcess : Scan Unit :=
  modify fun s =>
    let (indent, outer) := dropExcess s.indent s.outer
    { s with indent, outer }

/-- Leaves the indentations deeper than `column`; gives the tokens with the ends of the blocks. -/
def leave (column indent : Int) (tokens : Array Token) :
    List Indentation → Int × List Indentation × Array Token
  | [] => (indent, [], tokens)
  | i :: outer =>
    if column < indent then
      leave column i.column (if i.opensBlock then tokens.push .blockEnd else tokens) outer
    else (indent, i :: outer, tokens)

def unroll (column : Int) : Scan Unit :=
  modify fun s =>
    if s.inFlow then s
    else
      let (indent, outer, tokens) := leave column s.indent s.tokens s.outer
      { s with indent, outer, tokens }

/-- Opens a block collection at `column` if that is deeper than the indentation; its start is put after
the first `place` tokens. -/
def roll (column place : Nat) (start : Token) : Scan Unit := do
  let s ← get
  if s.inFlow then
    return
  let (indent, outer) :=
    match s.outer with
    | i :: outer =>
      if s.indent ≤ column ∧ ¬ i.opensBlock then (i.column, outer) else (s.indent, s.outer)
    | [] => (s.indent, [])
  if indent < column then
    set { s with indent := (column : Int), outer := ⟨indent, true⟩ :: outer }
    insert place start
  else
    set { s with indent, outer }

/-- What follows must exceed the indentation. -/
def rollExcess : Scan Unit :=
  modify fun s =>
    if ¬ s.inFlow ∧ s.outer.head?.any (·.opensBlock) then
      { s with indent := s.indent + 1, outer := ⟨s.indent, false⟩ :: s.outer }
    else s

/-- Passes blanks, line breaks and comments. Tabs do not indent what is in a block. -/
def skipToToken (steps : Nat) : Scan Unit := do
  match steps with
  | 0 => pure ()
  | steps + 1 =>
    let s ← get
    let c := s.cursor.peek
    if c = '\t' ∧ ¬ s.outer.isEmpty ∧ s.cursor.fresh ∧ s.cursor.column < s.indent then
      let _ ← skipToLineEnd
      check (isBreakOrEnd (← get).cursor.peek)
      skipToToken steps
    else if isBlank c then
      moveTo (s.cursor.skipBlanks 1)
      skipToToken steps
    else if isBreak c then
      moveTo s.cursor.skipBreak
      if ¬ s.inFlow then
        allow true
      skipToToken steps
    else if c = '#' then
      moveTo s.cursor.skipLine
      skipToToken steps

def skipAllToToken : Scan Unit := do
  skipToToken ((← get).cursor.rest.length + 1)

/-- Passes spaces, line breaks and comments, of which there must be some. -/
def skipSpaces (steps : Nat) (found : Bool) : Scan Unit := do
  match steps with
  | 0 => pure ()
  | steps + 1 =>
    let s ← get
    let c := s.cursor.peek
    if c = ' ' then
      moveTo (s.cursor.skipBlanks 1)
      skipSpaces steps true
    else if isBreak c then
      moveTo s.cursor.skipBreak
      if ¬ s.inFlow then
        allow true
      skipSpaces steps true
    else if c = '#' then
      moveTo s.cursor.skipLine
      skipSpaces steps found
    else
      check found

/-- The end of the text. No flow collection may be open. -/
def streamEnd : Scan Unit := do
  dropCandidate
  unroll (-1)
  emit .streamEnd

def directive : Scan Unit := do
  unroll (-1)
  dropCandidate
  allow false
  emit (← read Directive.read)

def documentMarker (marker : Token) : Scan Unit := do
  unroll (-1)
  dropCandidate
  allow false
  skip 3
  emit marker

/-- The line of a document's end holds nothing else. -/
def documentEnd : Scan Unit := do
  documentMarker .documentEnd
  let _ ← skipToLineEnd
  check (isBreakOrEnd (← get).cursor.peek)

def flowStart (start : Token) : Scan Unit := do
  saveCandidate
  rollExcess
  check ((← get).flow.length < 255)
  modify fun s =>
    { s with
      flow := s.candidate :: s.flow
      candidate := none
      candidateAllowed := true
      inMapping := s.inMapping || start = .flowMappingStart
      sequences := if start = .flowSequenceStart then false :: s.sequences else s.sequences }
  skip 1
  let _ ← skipToLineEnd
  emit start

/-- Ends the single entry of a mapping that stands in a flow sequence. -/
def endSingleEntry : Scan Unit := do
  match (← get).sequences with
  | true :: sequences =>
    modify fun s => { s with inMapping := false, sequences := false :: sequences }
    emit .flowMappingEnd
  | _ => pure ()

def flowEnd (close : Token) : Scan Unit := do
  dropCandidate
  match (← get).flow with
  | [] => fail
  | candidate :: flow => modify fun s => { s with candidate, flow }
  allow false
  if close = .flowSequenceEnd then
    endSingleEntry
    modify fun s => { s with sequences := s.sequences.tail }
  skip 1
  let _ ← skipToLineEnd
  modify fun s => if s.inFlow then { s with adjacentAt := s.cursor.index } else s
  emit close

def flowEntry : Scan Unit := do
  dropCandidate
  allow true
  endSingleEntry
  skip 1
  let _ ← skipToLineEnd
  emit .flowEntry

def isProperty : Token → Bool
  | .anchor _ => true
  | .tag _ _ => true
  | _ => false

/-- A dash in front of an element of a block sequence. An anchor or tag at the start of a line does not
belong to an element at the start of the next. -/
def blockEntry : Scan Unit := do
  let s ← get
  check (¬ s.inFlow ∧ s.candidateAllowed)
  if s.tokens.back?.any isProperty ∧ s.propertyColumn = 0 ∧ s.cursor.column = 0 then
    check (s.indent = -1)
  skip 1
  roll s.cursor.column s.tokens.size .blockSequenceStart
  let (tab, _) ← skipToLineEnd
  let next := (← get).cursor
  check (¬ (tab ∧ next.peek = '-' ∧ isSpacing (next.peekAt 1)))
  if isBreak next.peek ∨ isFlowIndicator next.peek then
    rollExcess
  dropCandidate
  allow true
  emit .blockEntry

/-- A question mark in front of a name. -/
def key : Scan Unit := do
  let s ← get
  if s.inFlow then
    modify fun s => { s with inMapping := true }
  else
    check s.candidateAllowed
    roll s.cursor.column s.tokens.size .blockMappingStart
  dropCandidate
  allow (¬ s.inFlow)
  skip 1
  skipSpaces (s.cursor.rest.length + 1) false
  check ((← get).cursor.peek ≠ '\t')
  emit .key

/-- A colon between a name and its content. -/
def value : Scan Unit := do
  let s ← get
  let single := ¬ s.sequences.isEmpty ∧ ¬ s.inMapping
  if single then
    modify fun s => { s with sequences := true :: s.sequences.tail }
  skip 1
  if (← get).cursor.peek = '\t' then
    let (_, space) ← skipToLineEnd
    let c := (← get).cursor.peek
    check (space ∨ ¬ (isWordChar c))
  match s.candidate with
  | some candidate =>
    insert candidate.place .key
    if single then
      check (s.cursor.line ≤ candidate.line)
      insert candidate.place .flowMappingStart
    roll candidate.column candidate.place .blockMappingStart
    rollExcess
    modify fun s => { s with candidate := none }
    allow false
  | none =>
    if single then
      emit .flowMappingStart
    if ¬ s.inFlow then
      check s.candidateAllowed
      roll s.cursor.column (← get).tokens.size .blockMappingStart
    rollExcess
    allow (¬ s.inFlow)
  emit .value

/-- A colon without a blank after it. A collection may begin there only if the name was quoted or a
collection itself. -/
def adjacentValue : Scan Unit := do
  let s ← get
  let next := s.cursor.peekAt 1
  check (s.cursor.index = s.adjacentAt ∨ next ≠ '[' ∧ next ≠ '\x7b')
  value

def isAnchorChar (c : Char) : Bool :=
  !isSpacing c && !isFlowIndicator c && c != '\uFEFF'

def anchorName (cursor : Cursor) : Option (List Char × Cursor) :=
  let name := (cursor.skip 1).span isAnchorChar
  if name = [] then none else some (name, cursor.skip (name.length + 1))

/-- An alias, anchor or tag. -/
def property (reader : Cursor → Option (Token × Cursor)) : Scan Unit := do
  saveCandidate
  modify fun s => { s with propertyColumn := s.cursor.column }
  allow false
  emit (← read reader)

def quotedScalar : Scan Unit := do
  saveCandidate
  allow false
  let s ← get
  let text ← read (Quoted.read s.indent s.inFlow)
  skipAllToToken
  modify fun s => { s with adjacentAt := s.cursor.index }
  emit (.scalar false text)

def plainScalar : Scan Unit := do
  saveCandidate
  allow false
  unrollExcess
  let s ← get
  let text ← read (Plain.read s.indent s.inFlow)
  if (← get).cursor.fresh then
    allow true
  emit (.scalar true text)

def blockScalar (literal : Bool) : Scan Unit := do
  saveCandidate
  allow true
  skip 1
  unrollExcess
  let text ← read (BlockScalar.read (← get).indent literal)
  emit (.scalar false text)

def token (c : Char) : Scan Unit := do
  let s ← get
  let next := s.cursor.peekAt 1
  match c with
  | '[' => flowStart .flowSequenceStart
  | '\x7b' => flowStart .flowMappingStart
  | ']' => flowEnd .flowSequenceEnd
  | '\x7d' => flowEnd .flowMappingEnd
  | ',' => flowEntry
  | '*' => property fun cursor => (anchorName cursor).map fun (name, next) => (.alias name, next)
  | '&' => property fun cursor => (anchorName cursor).map fun (name, next) => (.anchor name, next)
  | '!' => property (Tag.read s.inFlow)
  | '\'' => quotedScalar
  | '"' => quotedScalar
  | '%' => fail
  | '@' => fail
  | '\x60' => fail
  | '-' => if isSpacing next then blockEntry else plainScalar
  | '?' => if isSpacing next then key else plainScalar
  | ':' =>
    if isSpacing next then value
    else if s.inFlow ∧ (isFlowIndicator next ∨ s.cursor.index = s.adjacentAt) then adjacentValue
    else plainScalar
  | '|' => if s.inFlow then plainScalar else blockScalar true
  | '>' => if s.inFlow then plainScalar else blockScalar false
  | _ => plainScalar

/-- Scans one token, with the ends of the blocks before it; whether it is the last of all. -/
def step : Scan Bool := do
  skipAllToToken
  dropStaleCandidate
  unroll (← get).cursor.column
  let s ← get
  let c := s.cursor.peek
  if isEnd c then
    streamEnd
    return true
  if s.cursor.column = 0 ∧ c = '%' then
    directive
  else if s.cursor.column = 0 ∧ s.cursor.atThree '-' then
    documentMarker .documentStart
  else if s.cursor.column = 0 ∧ s.cursor.atThree '.' then
    documentEnd
  else
    check (s.indent ≤ s.cursor.column)
    token c
  return false

/-- The tokens of which it is certain that no `key` will be put in front of them. -/
def settled (s : Scanner) : List Token :=
  ((s.candidate :: s.flow).reverse.findSome? id).elim s.tokens.toList fun candidate =>
    s.tokens.toList.take candidate.place

/-- Scans until the end, or as far as the text is well-formed. -/
def runAll (steps : Nat) (s : Scanner) : List Token :=
  match steps with
  | 0 => settled s
  | steps + 1 =>
    match StateT.run step s with
    | none => settled s
    | some (true, s) => s.tokens.toList
    | some (false, s) => runAll steps s

end Scan

/-- The tokens of a text. They end in `streamEnd` unless the text becomes ill-formed after them. -/
def Token.ofText (text : List Char) : List Token :=
  Scan.runAll (text.length + 1) (.ofChars text)

end DocCheck.Yaml
