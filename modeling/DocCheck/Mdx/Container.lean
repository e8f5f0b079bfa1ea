import DocCheck.Mdx.Flow

/-!
Block quotes and list items, and the blocks of a whole text. A line belongs to a container if it carries
the container's mark: a bracket for a quote, enough blanks for a list item. Prose that goes on may lack
the marks.
-/

set_option autoImplicit false

namespace DocCheck.Mdx

inductive Container where
  | quote
  /-- A list item whose text is indented by `width`; `bare` tells that nothing but its own mark has been
  read so far. -/
  | item (width : Nat) (bare : Bool)
  deriving DecidableEq, Repr

namespace Container

def construct : Container → Construct
  | quote => .blockQuote
  | item _ _ => .listItem

/-- What follows the mark of a quote, and where that mark stands. -/
def afterQuoteMark? (cells : List Cell) : Option (Place × List Cell) :=
  match skipBlanks cells with
  | [] => none
  | mark :: rest =>
    if mark.char ≠ '>' then none
    else if rest.head?.any Cell.isBlank then some (mark.place, rest.tail)
    else some (mark.place, rest)

/-- What a line holds inside of the container that goes on; the container may change. -/
def goOn? (cells : List Cell) : Container → Option (Container × List Cell)
  | quote => (afterQuoteMark? cells).map fun (_, rest) => (quote, rest)
  | item width bare =>
    let blanks := (cells.takeWhile Cell.isBlank).length
    if allBlank cells then
      if bare then none else some (item width false, cells.drop width)
    else if width ≤ blanks then some (item width false, cells.drop width)
    else none

/-- What a container is once a line lacks its mark. -/
def withoutMark (cells : List Cell) : Container → Container
  | quote => quote
  | item width bare => item width (bare && allBlank cells)

/-- The mark of a list item: a sign, or up to nine digits and a point or bracket. Prose is interrupted
by the number one only. -/
def itemMarkLength? (inProse : Bool) (cells : List Cell) : Option Nat :=
  match cells with
  | [] => none
  | first :: _ =>
    if first.char = '+' then some 1
    else if first.char = '*' ∨ first.char = '-' then
      if Block.isThematicBreak cells then none else some 1
    else
      let digits := cells.takeWhile (·.char.isDigit)
      let closed := (cells.drop digits.length).head?.any fun cell => cell.char = '.' || cell.char = ')'
      if digits = [] ∨ 9 < digits.length ∨ ¬ closed then none
      else if inProse ∧ digits.map Cell.char ≠ ['1'] then none
      else some (digits.length + 1)

/-- A list item that begins here, and what follows its mark. The text begins after all blanks. -/
def beginItem? (inProse : Bool) (cells : List Cell) : Option (Container × List Cell) :=
  let marked := skipBlanks cells
  (itemMarkLength? inProse marked).bind fun length =>
    let rest := marked.drop length
    let indent := cells.length - marked.length + length
    if allBlank rest then
      if inProse then none else some (item (indent + 1) true, rest)
    else
      let blanks := (rest.takeWhile Cell.isBlank).length
      if blanks = 0 then none else some (item (indent + blanks) false, rest.drop blanks)

end Container

structure Outline where
  /-- The open containers, outermost first. -/
  containers : List Container
  flow : Flow
  /-- The last line allows that prose goes on without marks. -/
  acceptsUnmarked : Bool
  /-- The last line lacked marks. -/
  unmarked : Bool
  /-- Where the last line stops, and where what follows it begins. -/
  stop : Place
  finish : Place
  deriving Repr

namespace Outline

def empty : Outline :=
  ⟨[], .empty, false, false, ⟨0, 1, 1⟩, ⟨0, 1, 1⟩⟩

/-- The containers that go on, the others, and what is left of the line. -/
def goOn : List Container → List Cell → List Container × List Container × List Cell
  | [], cells => ([], [], cells)
  | container :: inner, cells =>
    match container.goOn? cells with
    | none => ([], container.withoutMark cells :: inner, cells)
    | some (container, rest) =>
      let (kept, left, rest) := goOn inner rest
      (container :: kept, left, rest)

/-- The ends of containers, outermost first, as blocks in reverse order. -/
def closing (place : Place) (containers : List Container) : List Block :=
  containers.map fun container => .closes container.construct place

/-- Begins the containers whose marks stand at the front of `cells`. The first of them ends the containers
`left` that do not go on. -/
def beginContainers (steps : Nat) (outline : Outline) (left : List Container) (cells : List Cell)
    (stop : Place) : Except Fault (Outline × List Container × List Cell × Bool) :=
  match steps with
  | 0 => .ok (outline, left, cells, false)
  | steps + 1 =>
    if left.isEmpty ∧ outline.flow.isClosed then .ok (outline, left, cells, false)
    else
      let begun : Option (Container × Place × List Cell) :=
        match Container.afterQuoteMark? cells with
        | some (place, rest) => some (.quote, place, rest)
        | none =>
          (Container.beginItem? (left.isEmpty && outline.flow.inProse) cells).map
            fun (container, rest) => (container, (cells.head?.map Cell.place).getD stop, rest)
      match begun with
      | none => .ok (outline, left, cells, false)
      | some (container, place, rest) => do
        let flow ←
          if left.isEmpty then .ok outline.flow
          else outline.flow.finish ⟨outline.unmarked, false⟩ outline.finish
        let blocks := .opens container.construct place :: (closing outline.stop left ++ flow.blocks)
        let outline :=
          { outline with
            containers := outline.containers ++ [container]
            flow := { flow with blocks } }
        let (outline, left, cells, _) ← beginContainers steps outline [] rest stop
        return (outline, left, cells, true)

def next (outline : Outline) (line : Line) : Except Fault Outline := do
  let (kept, left, cells) := goOn outline.containers line.cells
  let (outline, left, cells, opening) ←
    beginContainers (cells.length + 1) { outline with containers := kept } left cells line.stop
  let missing := !left.isEmpty
  let flow ← { outline.flow with blocks := [] }.next ⟨missing, opening⟩ { line with cells }
  let goesOn := outline.acceptsUnmarked && flow.acceptsUnmarked
  let ended := if goesOn then [] else closing outline.stop left
  return {
    containers := if goesOn then outline.containers ++ left else outline.containers
    flow := { flow with blocks := flow.blocks ++ ended ++ outline.flow.blocks }
    acceptsUnmarked := flow.acceptsUnmarked
    unmarked := missing
    stop := line.stop
    finish := line.finish }

/-- The end of the text, where nothing carries a mark. A break at the end of the last line counts as the
beginning of one more. -/
def blocks (outline : Outline) : Except Fault (List Block) := do
  let ended := outline.stop ≠ outline.finish
  let (kept, left, _) := if ended then goOn outline.containers [] else (outline.containers, [], [])
  let goesOn := outline.acceptsUnmarked
  let flow := outline.flow
  let flow :=
    if goesOn then flow else { flow with blocks := closing outline.stop left ++ flow.blocks }
  let unmarked := if ended then !left.isEmpty else outline.unmarked
  let flow ← flow.finish ⟨unmarked, false⟩ outline.finish
  let remaining := if goesOn then kept ++ left else kept
  return (closing outline.finish remaining ++ flow.blocks).reverse

end Outline

def Block.ofText (text : List Char) : Except Fault (List Block) := do
  let outline ← (linesOf text).foldlM Outline.next .empty
  outline.blocks

end DocCheck.Mdx
