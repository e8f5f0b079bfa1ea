/-!
Places in a text and its characters with their places. Lines and columns count from one; a column counts
the bytes before it, and a tab reaches to the next multiple of four.
-/

set_option autoImplicit false

namespace DocCheck.Mdx

structure Place where
  /-- The number of bytes before it in the text. -/
  offset : Nat
  line : Nat
  column : Nat
  deriving DecidableEq, Repr

/-- The place after a character other than a tab or line break. -/
def Place.after (place : Place) (c : Char) : Place :=
  ⟨place.offset + c.utf8Size, place.line, place.column + c.utf8Size⟩

/-- The start of the next line, after a break of so many bytes. -/
def Place.nextLine (place : Place) (bytes : Nat) : Place :=
  ⟨place.offset + bytes, place.line + 1, 1⟩

def Place.render (place : Place) : String :=
  toString place.line ++ ":" ++ toString place.column

structure Cell where
  char : Char
  place : Place
  deriving DecidableEq, Repr

/-- A tab is followed by spaces up to where it reaches. -/
def tabCells (place : Place) : List Cell :=
  ⟨'\t', place⟩ :: (List.range (3 - (place.column - 1) % 4)).map fun n =>
    ⟨' ', { place with column := place.column + n + 1 }⟩

def Place.afterTab (place : Place) : Place :=
  ⟨place.offset + 1, place.line, place.column + (4 - (place.column - 1) % 4)⟩

/-- A line: its characters, where it stops, and where the next one begins if a break ends it. -/
structure Line where
  cells : List Cell
  stop : Place
  next? : Option Place
  deriving Repr

def Line.start (line : Line) : Place :=
  (line.cells.head?.map Cell.place).getD line.stop

/-- Where what is read of a line ends with it: after its break, if it has one. -/
def Line.finish (line : Line) : Place :=
  line.next?.getD line.stop

/-- The lines of a text whose first line began with the cells `before`, last first. -/
def linesFrom (place : Place) (before : List Cell) : List Char → List Line
  | [] => if before.isEmpty then [] else [⟨before.reverse, place, none⟩]
  | '\r' :: '\n' :: rest =>
    ⟨before.reverse, place, some (place.nextLine 2)⟩ :: linesFrom (place.nextLine 2) [] rest
  | '\r' :: rest =>
    ⟨before.reverse, place, some (place.nextLine 1)⟩ :: linesFrom (place.nextLine 1) [] rest
  | '\n' :: rest =>
    ⟨before.reverse, place, some (place.nextLine 1)⟩ :: linesFrom (place.nextLine 1) [] rest
  | '\t' :: rest => linesFrom place.afterTab ((tabCells place).reverse ++ before) rest
  | c :: rest => linesFrom (place.after c) (⟨c, place⟩ :: before) rest

/-- The lines of a text. After its last line break there is no line unless something stands there, and a
byte order mark at its start is not part of the first line. -/
def linesOf : List Char → List Line
  | '\uFEFF' :: rest => linesFrom ⟨3, 1, 4⟩ [] rest
  | text => linesFrom ⟨0, 1, 1⟩ [] text

def Cell.isBlank (cell : Cell) : Bool :=
  cell.char = ' ' || cell.char = '\t'

/-- Spaces and tabs are dropped. -/
def skipBlanks (cells : List Cell) : List Cell :=
  cells.dropWhile Cell.isBlank

def allBlank (cells : List Cell) : Bool :=
  cells.all Cell.isBlank

/-- The cells of a run of one character, and what follows it. -/
def splitRun (c : Char) (cells : List Cell) : List Cell × List Cell :=
  (cells.takeWhile fun cell => cell.char = c, cells.dropWhile fun cell => cell.char = c)

end DocCheck.Mdx
