set_option autoImplicit false

namespace DocCheck.Yaml

def isBlank (c : Char) : Bool :=
  c = ' ' || c = '\t'

def isBreak (c : Char) : Bool :=
  c = '\n' || c = '\r'

/-- A NUL ends the text. -/
def isEnd (c : Char) : Bool :=
  c = '\x00'

def isBreakOrEnd (c : Char) : Bool :=
  isBreak c || isEnd c

def isSpacing (c : Char) : Bool :=
  isBlank c || isBreakOrEnd c

/-- The characters that structure flow collections. -/
def isFlowIndicator (c : Char) : Bool :=
  c = ',' || c = '[' || c = ']' || c = '\x7b' || c = '\x7d'

/-- The characters of handles and of the names of directives. -/
def isWordChar (c : Char) : Bool :=
  c.isAlphanum || c = '_' || c = '-'

def hexValue? (c : Char) : Option Nat :=
  if c.isDigit then some (c.toNat - 48)
  else if 'a' ≤ c ∧ c ≤ 'f' then some (c.toNat - 87)
  else if 'A' ≤ c ∧ c ≤ 'F' then some (c.toNat - 55)
  else none

/-- What is left of a text, and where it begins; line and column count from zero. -/
structure Cursor where
  rest : List Char
  index : Nat
  line : Nat
  column : Nat
  /-- Only blanks stand before it on its line. -/
  fresh : Bool
  deriving Repr

namespace Cursor

def ofChars (text : List Char) : Cursor :=
  ⟨text, 0, 0, 0, true⟩

/-- The character `n` places on; a NUL where there is none. -/
def peekAt (cursor : Cursor) (n : Nat) : Char :=
  cursor.rest.getD n '\x00'

def peek (cursor : Cursor) : Char :=
  cursor.peekAt 0

def skip (cursor : Cursor) (n : Nat) : Cursor :=
  ⟨cursor.rest.drop n, cursor.index + n, cursor.line, cursor.column + n, false⟩

def skipBlanks (cursor : Cursor) (n : Nat) : Cursor :=
  { cursor.skip n with fresh := cursor.fresh }

/-- Passes a line break; a carriage return and a line feed are one. -/
def skipBreak (cursor : Cursor) : Cursor :=
  let n := if cursor.peek = '\r' ∧ cursor.peekAt 1 = '\n' then 2 else 1
  ⟨cursor.rest.drop n, cursor.index + n, cursor.line + 1, 0, true⟩

def span (cursor : Cursor) (p : Char → Bool) : List Char :=
  cursor.rest.takeWhile fun c => p c && !isEnd c

def skipLine (cursor : Cursor) : Cursor :=
  cursor.skipBlanks (cursor.span fun c => !isBreak c).length

/-- Passes blanks and a comment; no comment stands right after a token. Tabs count as blanks only where
`tabs` says so. Also tells whether there was a tab and whether there was a space. -/
def skipToLineEnd (cursor : Cursor) (tabs : Bool) : Option (Cursor × Bool × Bool) :=
  let blanks := cursor.span fun c => c = ' ' || tabs && c = '\t'
  let next := cursor.skipBlanks blanks.length
  let found := (blanks.contains '\t', blanks.contains ' ')
  if next.peek ≠ '#' then some (next, found)
  else if blanks = [] then none
  else some (next.skipLine, found)

/-- Whether three times `c` and then no further text stand here. -/
def atThree (cursor : Cursor) (c : Char) : Bool :=
  cursor.rest.take 3 = [c, c, c] && isSpacing (cursor.peekAt 3)

/-- Whether a line begins here that starts or ends a document. -/
def atDocumentMarker (cursor : Cursor) : Bool :=
  cursor.column = 0 && (cursor.atThree '-' || cursor.atThree '.')

end Cursor

end DocCheck.Yaml
