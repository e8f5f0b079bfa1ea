import DocCheck.Mdx.Container
import DocCheck.Mdx.Inline
import DocCheck.Mdx.Node

set_option autoImplicit false

namespace DocCheck.Mdx

inductive Event where
  | enter (construct : Construct) (place : Place)
  | exit (construct : Construct) (place : Place)
  | enterLabel
  | exitLabel (image : Bool)
  | text (span : Span)
  | lineBreak (span : Span)
  | hardBreak
  | leaf
  | tag (tag : Tag)
  deriving Repr

namespace Event

/-- The parts of prose in order, with emphasis found; blanks at the ends of lines are still text. -/
inductive Part where
  | text (cells : List Cell)
  | lineBreak (place : Place)
  | event (event : Event)
  deriving Repr

/-- The parts that a run of marks becomes: the ends of emphasis, marks left over, and beginnings. -/
def ofRun (pairs : Attention.Pairs) (run : Attention.Run) (cells : List Cell) : List Part :=
  let closed := pairs.closedAt run.id
  let opened := pairs.openedAt run.id
  let taken (edges : List Attention.Edge) : Nat :=
    edges.foldl (fun width edge => width + Attention.width edge.construct) 0
  let left := (cells.drop (taken closed)).take (cells.length - taken closed - taken opened)
  closed.map (fun edge => .event (.exit edge.construct edge.place)) ++
    (if left.isEmpty then [] else [.text left]) ++
    opened.map fun edge => .event (.enter edge.construct edge.place)

/-- The runs that stand side by side, not inside of links. -/
def runsOf (pieces : List Piece) : List Attention.Run :=
  pieces.filterMap fun piece =>
    match piece with
    | .run run _ => some run
    | _ => none

mutual

def ofPiece (pairs : Attention.Pairs) : Piece → List Part
  | .text cells => [.text cells]
  | .escaped cell =>
    [.event (.text ⟨cell.place.offset, (cell.place.after cell.char).offset⟩)]
  | .lineBreak place => [.lineBreak place]
  | .hardBreak => [.event .hardBreak]
  | .leaf => [.event .leaf]
  | .tag read => [.event (.tag read)]
  | .run run cells => ofRun pairs run cells
  | .link image content =>
    .event .enterLabel :: ofPieces (Attention.pair [] ⟨[], []⟩ (runsOf content)) content ++
      [.event (.exitLabel image)]

def ofPieces (pairs : Attention.Pairs) : List Piece → List Part
  | [] => []
  | piece :: rest => ofPiece pairs piece ++ ofPieces pairs rest

end

def joinTexts : List Part → List Part
  | [] => []
  | .text cells :: rest =>
    match joinTexts rest with
    | .text more :: rest => .text (cells ++ more) :: rest
    | rest => .text cells :: rest
  | part :: rest => part :: joinTexts rest

def ofCells (cells : List Cell) : List Event :=
  match cells.head?, cells.getLast? with
  | some first, some last =>
    [.text ⟨first.place.offset, (last.place.after last.char).offset⟩]
  | _, _ => []

/-- Two or more spaces at the end of a line break it. -/
def breaksLine (blanks : List Cell) : Bool :=
  2 ≤ blanks.length && blanks.all (·.char = ' ')

/-- The events of text without the blanks at the start (`fresh`) and at the end of its line. -/
def trimmed (fresh atBreak atEnd : Bool) (cells : List Cell) : List Event :=
  let cells := if fresh && !(atBreak && allBlank cells) then skipBlanks cells else cells
  if atBreak || atEnd then
    let blanks := cells.reverse.takeWhile Cell.isBlank
    ofCells (cells.take (cells.length - blanks.length)) ++
      if atBreak && breaksLine blanks then [.hardBreak] else []
  else ofCells cells

/-- The events of parts; `fresh` tells that a line has just begun. -/
def ofParts (fresh : Bool) : List Part → List Event
  | [] => []
  | .text cells :: rest =>
    let atBreak :=
      match rest with
      | .lineBreak _ :: _ => true
      | _ => false
    trimmed fresh atBreak rest.isEmpty cells ++ ofParts false rest
  | .lineBreak place :: rest =>
    .lineBreak ⟨place.offset, place.offset + 1⟩ :: ofParts true rest
  | .event event :: rest => event :: ofParts false rest

def ofProse (labels : List (List Char)) (prose : Prose) : Except Fault (List Event) := do
  let pieces ← Piece.ofProse labels prose
  let parts := ofPieces (Attention.pair [] ⟨[], []⟩ (runsOf pieces)) pieces
  return ofParts true (joinTexts parts)

end Event

/-- Blocks in which the lines of prose have been put together. -/
inductive Section where
  | opens (container : Construct) (place : Place)
  | closes (container : Construct) (place : Place)
  /-- Prose that is a construct of this kind. -/
  | prose (construct : Construct) (start : Place) (text : Prose) (stop : Place)
  | standalone (item : Standalone)
  deriving Repr

namespace Section

def joinLines : List Line → List Cell
  | [] => []
  | [line] => line.cells
  | line :: rest => line.cells ++ ⟨'\n', line.stop⟩ :: joinLines rest

def splitProse : List Block → List Line × List Block
  | .prose line :: rest =>
    let (lines, rest) := splitProse rest
    (line :: lines, rest)
  | blocks => ([], blocks)

theorem length_splitProse (blocks : List Block) :
    (splitProse blocks).2.length ≤ blocks.length := by
  fun_induction splitProse blocks <;> simp_all
  omega

/-- The labels defined by lines of prose, and the paragraph that they end in. -/
def ofLines (lines : List Line) : List (List Char) × Option (Place × Prose) :=
  let cells := joinLines lines
  let (labels, rest) := Reference.definitions cells.length cells
  match rest, lines.getLast? with
  | first :: _, some last => (labels, some (first.place, ⟨rest, last.stop⟩))
  | _, _ => (labels, none)

/-- The labels that blocks define, and their sections. Below definitions alone an underline is prose. -/
def ofBlocks : List Block → List (List Char) × List Section
  | [] => ([], [])
  | .prose line :: others =>
    let (labels, paragraph) := ofLines (line :: (splitProse others).1)
    match paragraph, _left : (splitProse others).2 with
    | none, .underline line :: rest =>
      let (more, sections) := ofBlocks (.prose line :: rest)
      (labels ++ more, sections)
    | none, rest =>
      let (more, sections) := ofBlocks rest
      (labels ++ more, sections)
    | some (start, text), .underline line :: rest =>
      let (more, sections) := ofBlocks rest
      (labels ++ more, .prose .underlinedHeading start text line.stop :: sections)
    | some (start, text), rest =>
      let (more, sections) := ofBlocks rest
      (labels ++ more, .prose .paragraph start text text.stop :: sections)
  | block :: rest =>
    let (labels, sections) := ofBlocks rest
    match block with
    | .opens container place => (labels, .opens container place :: sections)
    | .closes container place => (labels, .closes container place :: sections)
    | .heading start text stop => (labels, .prose .heading start text stop :: sections)
    | .standalone item => (labels, .standalone item :: sections)
    | _ => (labels, sections)
termination_by blocks => blocks.length
decreasing_by
  all_goals try
    have shorter := length_splitProse others
    simp only [_left, List.length_cons] at shorter
  all_goals simp only [List.length_cons]
  all_goals omega

def events (labels : List (List Char)) : Section → Except Fault (List Event)
  | .opens container place => .ok [.enter container place]
  | .closes container place => .ok [.exit container place]
  | .prose construct start text stop => do
    return .enter construct start :: (← Event.ofProse labels text) ++ [.exit construct stop]
  | .standalone (.tag tag) => .ok [.tag tag]
  | .standalone .expression => .ok [.leaf]

end Section

/-- The events of a text. Faults of standing tags and expressions come before those in prose. -/
def Event.ofText (text : List Char) : Except Fault (List Event) := do
  let blocks ← Block.ofText text
  let (labels, sections) := Section.ofBlocks blocks
  return (← sections.mapM (Section.events labels)).flatten

end DocCheck.Mdx
