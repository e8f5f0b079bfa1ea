import DocCheck.Mdx.Attention
import DocCheck.Mdx.Reference

/-!
The parts of prose: text, breaks, code, tags and expressions, links and images, and the runs of marks that
may be emphasis. Each bracket is matched with the nearest open one before it.
-/

set_option autoImplicit false

namespace DocCheck.Mdx

inductive Piece where
  | text (cells : List Cell)
  /-- A character after a backslash, which is not part of it. -/
  | escaped (cell : Cell)
  | lineBreak (place : Place)
  /-- A backslash at the end of a line. -/
  | hardBreak
  /-- Code or an expression. -/
  | leaf
  | tag (tag : Tag)
  | run (run : Attention.Run) (cells : List Cell)
  | link (image : Bool) (content : List Piece)
  deriving Repr, Inhabited

/-- A bracket that may turn out to begin a link or an image. -/
structure Bracket where
  image : Bool
  /-- A link ends after it, so it begins none itself. -/
  inactive : Bool
  mark : List Cell
  /-- All that follows the bracket. -/
  inside : List Cell
  /-- The pieces before it, last first. -/
  before : List Piece
  deriving Repr

/-- What has been read: the pieces since the innermost bracket, last first, and the open brackets. -/
structure Inline where
  pieces : List Piece
  brackets : List Bracket
  runs : Nat
  previous : Option Char
  deriving Repr

namespace Inline

def empty : Inline :=
  ⟨[], [], 0, none⟩

def add (inline : Inline) (piece : Piece) (cells : List Cell) : Inline :=
  { inline with
    pieces := piece :: inline.pieces
    previous := (cells.getLast?.map Cell.char).or inline.previous }

def addText (inline : Inline) (cells : List Cell) : Inline :=
  inline.add (.text cells) cells

def readTag (stop : Place) (reading : Tag.Reading) :
    List Cell → Except Fault (Option (Tag × List Cell))
  | [] =>
    match reading.stop with
    | .misfit m => .error (.at stop (.misfit m))
    | _ => .ok none
  | cell :: rest =>
    match reading.next cell with
    | .more reading => readTag stop reading rest
    | .done tag => .ok (some (tag, rest))
    | .noTag => .ok none
    | .misfit m => .error (.at cell.place (.misfit m))

/-- Reads an expression whose first brace has been read, and gives what follows it. -/
def readExpression (stop : Place) (depth : Nat) : List Cell → Except Fault (List Cell)
  | [] => .error (.at stop (.misfit ⟨.expression depth, none⟩))
  | cell :: rest =>
    if cell.char = '\x7b' then readExpression stop (depth + 1) rest
    else if cell.char ≠ '\x7d' then readExpression stop depth rest
    else
      match depth with
      | 0 => .ok rest
      | depth + 1 => readExpression stop depth rest

/-- What follows the run of backquotes that ends code begun by one of the same length. -/
def afterCode? (steps length : Nat) (cells : List Cell) : Option (List Cell) :=
  match steps with
  | 0 => none
  | steps + 1 =>
    match cells.dropWhile (·.char ≠ '\x60') with
    | [] => none
    | found =>
      let (run, rest) := splitRun '\x60' found
      if run.length = length then some rest else afterCode? steps length rest

/-- What follows a link's label if it is one: a destination, another label that is defined, or nothing
if the label itself is defined. -/
def afterLabel? (labels : List (List Char)) (label rest : List Cell) : Option (List Cell) :=
  let defined := labels.contains (Reference.key label)
  match rest with
  | [] => if defined then some rest else none
  | cell :: inner =>
    if cell.char = '(' then
      (Reference.afterResource? inner).or (if defined then some rest else none)
    else if cell.char = '[' then
      let full := (Reference.label? inner).bind fun (other, next) =>
        if labels.contains (Reference.key other) then some next else none
      let collapsed := if inner.head?.any (·.char = ']') then inner.tail else rest
      full.or (if defined then some collapsed else none)
    else if defined then some rest
    else none

/-- The pieces when a bracket is no more than text. -/
def loosen (bracket : Bracket) (pieces : List Piece) : List Piece :=
  pieces ++ .text bracket.mark :: bracket.before

/-- Reads a closing bracket, and gives what follows the link, if it ends one. -/
def closeBracket (labels : List (List Char)) (inline : Inline) (cell : Cell) (rest : List Cell) :
    Inline × List Cell :=
  match inline.brackets with
  | [] => (inline.addText [cell], rest)
  | bracket :: outer =>
    let label := bracket.inside.take (bracket.inside.length - rest.length - 1)
    match (if bracket.inactive then none else afterLabel? labels label rest) with
    | none =>
      ({ inline with pieces := loosen bracket inline.pieces, brackets := outer }.addText [cell], rest)
    | some next =>
      let outer :=
        if bracket.image then outer
        else outer.map fun bracket => { bracket with inactive := bracket.inactive || !bracket.image }
      let pieces := .link bracket.image inline.pieces.reverse :: bracket.before
      ({ inline with pieces, brackets := outer, previous := some ')' }, next)

def openBracket (inline : Inline) (image : Bool) (mark inside : List Cell) : Inline :=
  { inline with
    pieces := []
    brackets := ⟨image, false, mark, inside, inline.pieces⟩ :: inline.brackets
    previous := some '[' }

def isAsciiPunctuation (c : Char) : Bool :=
  '!' ≤ c && c ≤ '/' || ':' ≤ c && c ≤ '@' || '[' ≤ c && c ≤ '\x60' || '\x7b' ≤ c && c ≤ '~'

/-- Reads what begins with the character of `cell`, and gives what follows. -/
def next (labels : List (List Char)) (stop : Place) (inline : Inline) (cell : Cell)
    (rest : List Cell) : Except Fault (Inline × List Cell) :=
  let asText : Inline × List Cell := (inline.addText [cell], rest)
  match cell.char with
  | '\n' => .ok (inline.add (.lineBreak cell.place) [cell], rest)
  | '\\' =>
    match rest with
    | [] => .ok asText
    | after :: rest' =>
      if after.char = '\n' then .ok (inline.add .hardBreak [cell], rest)
      else if isAsciiPunctuation after.char then .ok (inline.add (.escaped after) [after], rest')
      else .ok asText
  | '\x60' =>
    let (run, after) := splitRun '\x60' (cell :: rest)
    match afterCode? after.length run.length after with
    | none => .ok (inline.addText run, after)
    | some next => .ok (inline.add .leaf [cell], next)
  | '<' => do
    match ← readTag stop (.begin cell.place) rest with
    | none => return asText
    | some (tag, next) => return ({ inline.add (.tag tag) [] with previous := some '>' }, next)
  | '\x7b' => do
    let next ← readExpression stop 0 rest
    return ({ inline.add .leaf [] with previous := some '\x7d' }, next)
  | '!' =>
    match rest with
    | after :: inside =>
      if after.char = '[' then .ok (inline.openBracket true [cell, after] inside, inside)
      else .ok asText
    | [] => .ok asText
  | '[' => .ok (inline.openBracket false [cell] rest, rest)
  | ']' => .ok (inline.closeBracket labels cell rest)
  | c =>
    if Attention.isMark c then
      let (marks, after) := splitRun c (cell :: rest)
      let run := Attention.Run.between inline.runs c cell.place marks.length inline.previous
        (after.head?.map Cell.char)
      .ok ({ inline.add (.run run marks) marks with runs := inline.runs + 1 }, after)
    else .ok asText

/-- All pieces, once nothing can close the open brackets. -/
def finish (inline : Inline) : List Piece :=
  (inline.brackets.foldl (fun pieces bracket => loosen bracket pieces) inline.pieces).reverse

def readAll (labels : List (List Char)) (stop : Place) (steps : Nat) (inline : Inline)
    (cells : List Cell) : Except Fault (List Piece) :=
  match steps, cells with
  | steps + 1, cell :: rest => do
    let (inline, rest) ← inline.next labels stop cell rest
    readAll labels stop steps inline rest
  | _, _ => .ok inline.finish

end Inline

/-- The pieces of prose, among definitions of these labels. -/
def Piece.ofProse (labels : List (List Char)) (prose : Prose) : Except Fault (List Piece) :=
  Inline.readAll labels prose.stop prose.cells.length .empty prose.cells

end DocCheck.Mdx
