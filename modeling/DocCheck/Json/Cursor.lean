import DocCheck.Json.Value

set_option autoImplicit false

namespace DocCheck.Json

/-- A place in a text: the line, counted from one, and the bytes of the line before it. -/
structure Position where
  line : Nat
  column : Nat
  deriving DecidableEq, Repr

def Position.after (position : Position) (byte : UInt8) : Position :=
  if byte = 10 then ⟨position.line + 1, 0⟩ else ⟨position.line, position.column + 1⟩

inductive Cause where
  | endInValue
  | endInObject
  | endInList
  | endInString
  | expectedValue
  | expectedIdent
  | expectedColon
  | expectedCommaOrBrace
  | expectedCommaOrBracket
  | invalidNumber
  | numberOutOfRange
  | invalidEscape
  | loneSurrogate
  | unpairedSurrogate
  | controlCharacter
  | keyNotString
  | trailingComma
  | trailingCharacters
  | tooDeep
  | wrongType (found : Shape) (expected : String)
  | duplicateField (name : String)
  deriving Repr

def Cause.message : Cause → String
  | endInValue => "EOF while parsing a value"
  | endInObject => "EOF while parsing an object"
  | endInList => "EOF while parsing a list"
  | endInString => "EOF while parsing a string"
  | expectedValue => "expected value"
  | expectedIdent => "expected ident"
  | expectedColon => "expected `:`"
  | expectedCommaOrBrace => "expected `,` or `\x7d`"
  | expectedCommaOrBracket => "expected `,` or `]`"
  | invalidNumber => "invalid number"
  | numberOutOfRange => "number out of range"
  | invalidEscape => "invalid escape"
  | loneSurrogate => "lone leading surrogate in hex escape"
  | unpairedSurrogate => "unexpected end of hex escape"
  | controlCharacter => "control character (\\u0000-\\u001F) found while parsing a string"
  | keyNotString => "key must be a string"
  | trailingComma => "trailing comma"
  | trailingCharacters => "trailing characters"
  | tooDeep => "recursion limit exceeded"
  | wrongType found expected => "invalid type: " ++ found.message ++ ", expected " ++ expected
  | duplicateField name => "duplicate field `" ++ name ++ "`"

structure Fault where
  cause : Cause
  position : Position
  deriving Repr

def Fault.message (fault : Fault) : String :=
  fault.cause.message ++ " at line " ++ toString fault.position.line ++ " column " ++
    toString fault.position.column

/-- What is left to read, and where it begins. -/
structure Cursor where
  rest : List UInt8
  position : Position

def Cursor.ofString (text : String) : Cursor :=
  ⟨text.toUTF8.toList, ⟨1, 0⟩⟩

abbrev Reader := StateT Cursor (Except Fault)

namespace Reader

variable {α : Type}

def fail (cause : Cause) : Reader α := fun cursor =>
  .error ⟨cause, cursor.position⟩

/-- Fails after the next byte, which is the one at fault. -/
def failAtNext (cause : Cause) : Reader α := fun cursor =>
  match cursor.rest with
  | [] => .error ⟨cause, cursor.position⟩
  | byte :: _ => .error ⟨cause, cursor.position.after byte⟩

/-- The next byte as a character. A byte beyond ASCII gives a character beyond ASCII. -/
def peek : Reader (Option Char) := fun cursor =>
  .ok (cursor.rest.head?.map fun byte => Char.ofNat byte.toNat, cursor)

def next : Reader (Option Char) := fun cursor =>
  match cursor.rest with
  | [] => .ok (none, cursor)
  | byte :: rest => .ok (some (Char.ofNat byte.toNat), ⟨rest, cursor.position.after byte⟩)

def skip : Reader Unit := do
  let _ ← next

/-- The blanks of JSON. -/
def isSeparator (byte : UInt8) : Bool :=
  byte = 32 || byte = 9 || byte = 10 || byte = 13

def advance (position : Position) (bytes : List UInt8) : Position :=
  bytes.foldl Position.after position

def takeWhile (p : UInt8 → Bool) : Reader (List UInt8) := fun cursor =>
  let taken := cursor.rest.takeWhile p
  .ok (taken, ⟨cursor.rest.dropWhile p, advance cursor.position taken⟩)

/-- Skips blanks and shows the next byte. -/
def peekToken : Reader (Option Char) := do
  let _ ← takeWhile isSeparator
  peek

/-- The number of bytes left; it bounds every loop. -/
def size : Reader Nat := fun cursor =>
  .ok (cursor.rest.length, cursor)

end Reader

end DocCheck.Json
