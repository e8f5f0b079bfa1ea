import DocCheck.Yaml.Cursor
import DocCheck.Yaml.Token

set_option autoImplicit false

namespace DocCheck.Yaml

def isUriChar (c : Char) : Bool :=
  c.isAlphanum || ['-', '#', ';', '/', '?', ':', '@', '&', '=', '+', '$', ',', '_', '.', '!', '~',
    '*', '\'', '(', ')', '[', ']', '%'].contains c

def isTagChar (c : Char) : Bool :=
  isUriChar c && !isFlowIndicator c && c != '!'

namespace Tag

/-- The number of bytes of a UTF-8 sequence with this first byte. -/
def sequenceLength? (byte : Nat) : Option Nat :=
  if byte < 0x80 then some 1
  else if byte / 0x20 = 6 then some 2
  else if byte / 0x10 = 14 then some 3
  else if byte / 0x08 = 30 then some 4
  else none

/-- The bytes of `n` escapes `%XX`. -/
def escapedBytes? : Nat → List Char → Option (List Nat)
  | 0, _ => some []
  | n + 1, '%' :: a :: b :: rest => do
    let high ← hexValue? a
    let low ← hexValue? b
    return (high * 16 + low) :: (← escapedBytes? n rest)
  | _ + 1, _ => none

/-- Whether escapes of one whole character stand here, and how many. Beyond ASCII the bytes themselves,
one after the other, must make the number of a character, which three or more never do. -/
def escapeLength? (rest : List Char) : Option Nat := do
  let [lead] ← escapedBytes? 1 rest | none
  let n ← sequenceLength? lead
  let bytes ← escapedBytes? n rest
  let code := bytes.foldl (fun code byte => code * 256 + byte) 0
  if bytes.tail.all (fun byte => byte / 0x40 = 2) ∧ code.isValidChar then some n else none

/-- Passes the characters that satisfy `p`; escapes must be whole. -/
def readUri (p : Char → Bool) (steps : Nat) (before : List Char) (cursor : Cursor) :
    Option (List Char × Cursor) :=
  match steps with
  | 0 => some (before.reverse, cursor)
  | steps + 1 =>
    let c := cursor.peek
    if isEnd c ∨ ¬ p c then some (before.reverse, cursor)
    else if c = '%' then do
      let n ← escapeLength? cursor.rest
      let [code] ← escapedBytes? 1 cursor.rest | none
      let escaped := if n = 1 then Char.ofNat code else '\uFFFD'
      readUri p steps (escaped :: before) (cursor.skip (3 * n))
    else readUri p steps (c :: before) (cursor.skip 1)

/-- Reads a handle: `!`, or a word between two of them. A word that none follows is the beginning of a
suffix, which a directive does not allow. -/
def readHandle (directive : Bool) (cursor : Cursor) : Option (List Char × Cursor) :=
  if cursor.peek ≠ '!' then
    none
  else
    let word := (cursor.skip 1).span isWordChar
    let next := cursor.skip (word.length + 1)
    if next.peek = '!' then some ('!' :: word ++ ['!'], next.skip 1)
    else if directive ∧ word ≠ [] then none
    else some ('!' :: word, next)

def read (inFlow : Bool) (cursor : Cursor) : Option (Token × Cursor) := do
  let steps := cursor.rest.length
  let (token, next) ←
    if cursor.peekAt 1 = '<' then do
      let (uri, next) ← readUri isUriChar steps [] (cursor.skip 2)
      if next.peek = '>' then some (Token.tag [] uri, next.skip 1) else none
    else do
      let (handle, next) ← readHandle false cursor
      let (suffix, next) ← readUri isTagChar steps [] next
      if 2 ≤ handle.length ∧ handle.getLast? = some '!' then
        some (Token.tag handle suffix, next)
      else if handle = ['!'] ∧ suffix = [] then
        some (Token.tag [] ['!'], next)
      else
        some (Token.tag ['!'] (handle.tail ++ suffix), next)
  if isSpacing next.peek ∨ inFlow ∧ isFlowIndicator next.peek then some (token, next) else none

end Tag

namespace Directive

/-- Passes the digits of a version number; at most nine. -/
def skipNumber (cursor : Cursor) : Option Cursor :=
  let digits := cursor.span Char.isDigit
  if digits = [] ∨ 9 < digits.length then none else some (cursor.skip digits.length)

def skipBlanks (cursor : Cursor) : Cursor :=
  cursor.skipBlanks (cursor.span isBlank).length

def readVersion (cursor : Cursor) : Option (Token × Cursor) := do
  let next ← skipNumber (skipBlanks cursor)
  if next.peek ≠ '.' then
    none
  return (.versionDirective, ← skipNumber (next.skip 1))

def readTag (cursor : Cursor) : Option (Token × Cursor) := do
  let (handle, next) ← Tag.readHandle true (skipBlanks cursor)
  let start := skipBlanks next
  if start.peek ≠ '!' ∧ ¬ isTagChar start.peek then
    none
  let (expansion, next) ←
    if start.peek = '!' then do
      let (uri, next) ← Tag.readUri isUriChar start.rest.length [] (start.skip 1)
      some ('!' :: uri, next)
    else
      Tag.readUri isUriChar start.rest.length [] start
  if isSpacing next.peek then some (.tagDirective handle expansion, next) else none

/-- Reads the directive that begins here, with the end of its line. A directive of another name counts
as one for an empty handle. -/
def read (cursor : Cursor) : Option (Token × Cursor) := do
  let start := cursor.skip 1
  let name := start.span isWordChar
  let next := start.skip name.length
  if name = [] ∨ ¬ isSpacing next.peek then
    none
  let (token, next) ←
    if name = ['Y', 'A', 'M', 'L'] then readVersion next
    else if name = ['T', 'A', 'G'] then readTag next
    else some (.tagDirective [] [], next.skipLine)
  let (next, _) ← next.skipToLineEnd true
  if isBreak next.peek then some (token, next.skipBreak)
  else if isEnd next.peek then some (token, next)
  else none

end Directive

end DocCheck.Yaml
