import DocCheck.Mdx.Standalone

/-!
What lines are once the marks of their containers are off: prose, headings, fenced code, breaks, and tags
or expressions that fill their lines. How far any of these is indented does not matter.
-/

set_option autoImplicit false

namespace DocCheck.Mdx

/-- Text that is written in one piece, and where it stops. -/
structure Prose where
  cells : List Cell
  stop : Place
  deriving Repr

inductive Block where
  | opens (container : Construct) (place : Place)
  | closes (container : Construct) (place : Place)
  | prose (line : Line)
  /-- A line of dashes or equals signs below prose. -/
  | underline (line : Line)
  | heading (start : Place) (text : Prose) (stop : Place)
  | standalone (item : Standalone)
  /-- Blank lines, fenced code and breaks: nothing in them is looked at. -/
  | other
  deriving Repr

namespace Block

/-- How far the words of a heading reach. Number signs in front of a word are none of it. -/
def wordsLength (inWord : Bool) (read length : Nat) : List Cell → Nat
  | [] => length
  | cell :: rest =>
    if cell.isBlank then wordsLength false (read + 1) length rest
    else if inWord ∨ cell.char ≠ '#' then wordsLength true (read + 1) (read + 1) rest
    else wordsLength false (read + 1) length rest

/-- One to six number signs and then a blank or the end of the line. -/
def heading? (line : Line) : Option Block :=
  let (signs, rest) := splitRun '#' (skipBlanks line.cells)
  if signs = [] ∨ 6 < signs.length ∨ (rest.head?.any fun cell => !cell.isBlank) then none
  else
    let content := rest.dropWhile fun cell => cell.isBlank || cell.char = '#'
    let length := wordsLength false 0 0 content
    let stop := ((content.drop length).head?.map Cell.place).getD line.stop
    some (.heading line.start ⟨content.take length, stop⟩ line.stop)

/-- Three or more of the same sign, and blanks. -/
def isThematicBreak (cells : List Cell) : Bool :=
  match skipBlanks cells with
  | [] => false
  | first :: rest =>
    let signs := (first :: rest).filter fun cell => !cell.isBlank
    ['*', '-', '_'].contains first.char && 3 ≤ signs.length && signs.all (·.char = first.char)

def isUnderline (cells : List Cell) : Bool :=
  match skipBlanks cells with
  | [] => false
  | first :: rest =>
    ['=', '-'].contains first.char && allBlank (splitRun first.char (first :: rest)).2

/-- The mark and length of the fence that a line draws. No backquote follows backquotes. -/
def fence? (cells : List Cell) : Option (Char × Nat) :=
  match skipBlanks cells with
  | [] => none
  | first :: rest =>
    let (run, info) := splitRun first.char (first :: rest)
    if ['\x60', '~'].contains first.char ∧ 3 ≤ run.length ∧
        ¬ (first.char = '\x60' ∧ info.any (·.char = '\x60')) then
      some (first.char, run.length)
    else none

def closesFence (mark : Char) (length : Nat) (cells : List Cell) : Bool :=
  let (run, rest) := splitRun mark (skipBlanks cells)
  length ≤ run.length && allBlank rest

end Block

inductive Flow.Phase where
  | idle
  | fenced (mark : Char) (length : Nat)
  /-- Lines, last first, that may all be filled by tags and expressions. -/
  | filling (lines : List Line) (reading : Standalone.Reading)
  deriving Repr

structure Flow where
  /-- The blocks, last first. -/
  blocks : List Block
  phase : Flow.Phase
  /-- Prose is under way that not everything may interrupt. -/
  inProse : Bool
  /-- The last line is prose. -/
  afterProse : Bool
  /-- After the last line a line of prose may lack the marks of its containers. -/
  acceptsUnmarked : Bool
  deriving Repr

/-- What the containers make of a line. -/
structure Marks where
  /-- The mark of a container is missing. -/
  missing : Bool
  /-- A container begins on the line. -/
  opening : Bool
  deriving Repr

namespace Flow

def empty : Flow :=
  ⟨[], .idle, false, false, false⟩

/-- Nothing can begin inside of fenced code and unfinished tags. -/
def isClosed (flow : Flow) : Bool :=
  match flow.phase with
  | .idle => false
  | _ => true

def addProse (flow : Flow) (line : Line) : Flow :=
  ⟨.prose line :: flow.blocks, .idle, true, true, true⟩

def addOther (flow : Flow) (block : Block) : Flow :=
  ⟨block :: flow.blocks, .idle, false, false, false⟩

def addStandalone (flow : Flow) (items : List Standalone) : Flow :=
  ⟨items.map .standalone ++ flow.blocks, .idle, flow.inProse, false, false⟩

/-- Reads a line on which nothing is under way but prose. -/
def begin (marks : Marks) (line : Line) (flow : Flow) : Flow :=
  if allBlank line.cells then flow.addOther .other
  else
    match Block.fence? line.cells with
    | some (mark, length) => { flow.addOther .other with phase := .fenced mark length }
    | none =>
      match Block.heading? line with
      | some heading => flow.addOther heading
      | none =>
        if flow.afterProse ∧ ¬ marks.missing ∧ ¬ marks.opening ∧ Block.isUnderline line.cells then
          { flow.addOther (.underline line) with acceptsUnmarked := true }
        else if Block.isThematicBreak line.cells then flow.addOther .other
        else flow.addProse line

def startsStandalone (cells : List Cell) : Bool :=
  (skipBlanks cells).head?.any fun cell => cell.char = '<' || cell.char = '\x7b'

/-- Reads lines, which `filling` lines, last first, have gone before. Lines that turn out not to be filled
by tags and expressions are read again, the first of them as prose. -/
def readWith (marks : Marks) (flow : Flow) :
    List Line → Option Standalone.Reading → List Line → Except Fault Flow
  | filling, some reading, [] => .ok { flow with phase := .filling filling reading }
  | _, none, [] => .ok flow
  | filling, some reading, line :: rest =>
    if marks.missing ∧ filling ≠ [] then
      .error (.at line.start (.unmarkedLine reading.inExpression))
    else
      match reading.nextLine line with
      | .error fault => .error fault
      | .ok (some next) =>
        if next.isComplete then readWith marks (flow.addStandalone next.items) [] none rest
        else readWith marks flow (line :: filling) (some next) rest
      | .ok none =>
        match _reversed : filling.reverse with
        | [] => readWith marks (flow.addProse line) [] none rest
        | first :: more => readWith marks (flow.addProse first) [] none (more ++ line :: rest)
  | filling, none, line :: rest =>
    match (if marks.missing then .idle else flow.phase : Phase) with
    | .fenced mark length =>
      if Block.closesFence mark length line.cells then
        readWith marks { flow with phase := .idle } [] none rest
      else readWith marks flow [] none rest
    | _ =>
      if startsStandalone line.cells then readWith marks flow filling (some .begin) (line :: rest)
      else readWith marks (begin marks line flow) [] none rest
termination_by filling reading lines =>
  (filling.length + lines.length, lines.length, if reading.isNone then 1 else 0)
decreasing_by
  all_goals try
    have counted := congrArg List.length _reversed
    simp only [List.length_reverse, List.length_cons] at counted
  all_goals simp_wf
  all_goals simp only [Prod.lex_def, true_and]
  all_goals omega

def next (marks : Marks) (flow : Flow) (line : Line) : Except Fault Flow :=
  match flow.phase with
  | .filling lines reading => readWith marks { flow with phase := .idle } lines (some reading) [line]
  | _ => readWith marks flow [] none [line]

/-- Ends what is under way, reading lines again as often as `steps` says. -/
def finishWithin (marks : Marks) (place : Place) (steps : Nat) (flow : Flow) : Except Fault Flow :=
  match steps, flow.phase with
  | steps + 1, .filling lines reading =>
    if marks.missing ∧ lines.head?.any (·.next?.isSome) then
      .error (.at place (.unmarkedLine reading.inExpression))
    else
      match reading.stop place, lines.reverse with
      | .error fault, _ => .error fault
      | .ok (some reading), _ => .ok (flow.addStandalone reading.items)
      | .ok none, [] => .ok { flow with phase := .idle }
      | .ok none, first :: rest =>
        (readWith marks (flow.addProse first) [] none rest).bind (finishWithin marks place steps)
  | _, _ => .ok { flow with phase := .idle }

/-- The number of lines that may be read again. -/
def pending (flow : Flow) : Nat :=
  match flow.phase with
  | .filling lines _ => lines.length
  | _ => 0

/-- Ends what is under way; nothing follows at `place`. -/
def finish (marks : Marks) (place : Place) (flow : Flow) : Except Fault Flow :=
  finishWithin marks place (flow.pending + 1) flow

end Flow

end DocCheck.Mdx
