import DocCheck.Json.Cursor
import DocCheck.Word

/-!
Words, numbers and strings of JSON. Integers stay exact from `-2 ^ 63` to `2 ^ 64 - 1`; any other number
is the decimal significand, cut to 64 bits, times or divided by a power of ten in floating point.
-/

set_option autoImplicit false

namespace DocCheck.Json.Reader

/-- Reads the rest of one of the words of JSON. -/
def word : List Char → Reader Unit
  | [] => pure ()
  | expected :: rest => do
    match ← next with
    | none => fail .endInValue
    | some c => if c = expected then word rest else fail .expectedIdent

inductive Number where
  | integer (value : Int)
  | float (value : Float)
  deriving Repr

def Number.shape : Number → Shape
  | integer value => .integer value
  | float value => .float value

def Number.toValue : Number → Value
  | integer value => .integer value
  | float value => .float value

def isDigitByte (byte : UInt8) : Bool :=
  48 ≤ byte && byte ≤ 57

def digits : Reader (List Nat) := do
  return (← takeWhile isDigitByte).map fun byte => byte.toNat - 48

/-- Appends digits to a number as long as it stays below `limit`; gives the number and how many
digits were left out. -/
def appendDigits (limit value : Nat) : List Nat → Nat × Nat
  | [] => (value, 0)
  | digit :: rest =>
    if value * 10 + digit < limit then appendDigits limit (value * 10 + digit) rest
    else (value, rest.length + 1)

/-- `value * 10 ^ exponent` in floating point; nothing beyond the greatest double. -/
def scaleFloat (steps : Nat) (value : Float) (exponent : Int) : Option Float :=
  if value == 0 then some value
  else if -308 ≤ exponent ∧ exponent < 0 then
    some (value / Float.ofScientific 1 false exponent.natAbs)
  else if 0 ≤ exponent ∧ exponent ≤ 308 then
    let scaled := value * Float.ofScientific 1 false exponent.toNat
    if scaled.isInf then none else some scaled
  else if 0 ≤ exponent then none
  else
    match steps with
    | 0 => some 0
    | steps + 1 => scaleFloat steps (value / 1e308) (exponent + 308)

/-- The double with this sign, significand and power of ten. -/
def float (negative : Bool) (significand : Nat) (exponent : Int) : Reader Number := do
  match scaleFloat 4 (Float.ofNat significand) exponent with
  | none => fail .numberOutOfRange
  | some value => return .float (if negative then -value else value)

/-- Digits from the first on up to the one that takes the exponent past 31 bits. -/
def exponentDigits (steps exponent : Nat) : Reader (Nat × Bool) := do
  match steps with
  | 0 => return (exponent, false)
  | steps + 1 =>
    match ← peek with
    | some c =>
      if c.isDigit then
        skip
        let grown := exponent * 10 + (c.toNat - 48)
        if 0x80000000 ≤ grown then return (exponent, true) else exponentDigits steps grown
      else
        return (exponent, false)
    | none => return (exponent, false)

/-- Reads from the `e` on. -/
def exponentPart (negative : Bool) (significand : Nat) (start : Int) : Reader Number := do
  skip
  let sign ← peek
  if sign = some '+' ∨ sign = some '-' then
    skip
  match ← next with
  | none => fail .endInValue
  | some c =>
    if ¬ c.isDigit then
      fail .invalidNumber
    let (exponent, overflow) ← exponentDigits (← size) (c.toNat - 48)
    if overflow then
      if significand ≠ 0 ∧ sign ≠ some '-' then
        fail .numberOutOfRange
      let _ ← digits
      return .float (if negative then -0.0 else 0.0)
    else
      float negative significand (if sign = some '-' then start - exponent else start + exponent)

/-- Reads what may follow the digits before the exponent. -/
def afterDigits (negative : Bool) (significand : Nat) (exponent : Int) : Reader Number := do
  let c ← peek
  if c = some 'e' ∨ c = some 'E' then
    exponentPart negative significand exponent
  else
    float negative significand exponent

/-- Reads from the point on. -/
def fraction (negative : Bool) (significand : Nat) (exponent : Int) : Reader Number := do
  skip
  let found ← digits
  if found = [] then
    if (← peek).isNone then
      fail .endInValue
    failAtNext .invalidNumber
  let (significand, cut) := appendDigits wordLimit significand found
  afterDigits negative significand (exponent - Int.ofNat (found.length - cut))

/-- Reads a number; its sign has been taken. -/
def number (negative : Bool) : Reader Number := do
  match ← next with
  | none => fail .endInValue
  | some c =>
    if ¬ c.isDigit then
      fail .invalidNumber
    if c = '0' then
      if (← peek).any Char.isDigit then
        failAtNext .invalidNumber
    let (significand, cut) := appendDigits wordLimit (c.toNat - 48) (← digits)
    let c ← peek
    if c = some '.' then
      fraction negative significand cut
    else if c = some 'e' ∨ c = some 'E' then
      exponentPart negative significand cut
    else if 0 < cut then
      float negative significand cut
    else if negative = false then
      return .integer significand
    else if significand = 0 ∨ signedWordLimit < significand then
      float true significand 0
    else
      return .integer (-Int.ofNat significand)

/-- Reads the four digits of a `\u` escape. -/
def hexDigits : Reader Nat := fun cursor =>
  let taken := cursor.rest.take 4
  let position := advance cursor.position taken
  if taken.length < 4 then
    .error ⟨.endInString, position⟩
  else
    let value := taken.foldl (fun (value : Option Nat) byte =>
      value.bind fun value =>
        let c := Char.ofNat byte.toNat
        if c.isDigit then some (value * 16 + (c.toNat - 48))
        else if 'a' ≤ c ∧ c ≤ 'f' then some (value * 16 + (c.toNat - 87))
        else if 'A' ≤ c ∧ c ≤ 'F' then some (value * 16 + (c.toNat - 55))
        else none) (some 0)
    match value with
    | none => .error ⟨.invalidEscape, position⟩
    | some value => .ok (value, ⟨cursor.rest.drop 4, position⟩)

/-- Takes the next byte, which must be `expected` for a pair of surrogates to go on. -/
def expectPair (expected : Char) : Reader Unit := do
  match ← next with
  | none => fail .endInString
  | some c => if c ≠ expected then fail .unpairedSurrogate

/-- Reads the character of a `\u` escape; two surrogates make one character. -/
def unicodeEscape : Reader Char := do
  let unit ← hexDigits
  if 0xDC00 ≤ unit ∧ unit ≤ 0xDFFF then
    fail .loneSurrogate
  if 0xD800 ≤ unit ∧ unit ≤ 0xDBFF then
    expectPair '\\'
    expectPair 'u'
    let low ← hexDigits
    if low < 0xDC00 ∨ 0xDFFF < low then
      fail .loneSurrogate
    return Char.ofNat ((unit - 0xD800) * 0x400 + (low - 0xDC00) + 0x10000)
  return Char.ofNat unit

/-- Reads what follows a backslash. -/
def escape : Reader Char := do
  match ← next with
  | none => fail .endInString
  | some '"' => return '"'
  | some '\\' => return '\\'
  | some '/' => return '/'
  | some 'b' => return '\x08'
  | some 'f' => return '\x0c'
  | some 'n' => return '\n'
  | some 'r' => return '\r'
  | some 't' => return '\t'
  | some 'u' => unicodeEscape
  | some _ => fail .invalidEscape

/-- Reads a string up to its closing quote, after the bytes `before`. -/
def stringFrom (steps : Nat) (before : List UInt8) : Reader String := do
  match steps with
  | 0 => fail .endInString
  | steps + 1 =>
    let plain ← takeWhile fun byte => byte ≠ 34 && byte ≠ 92 && 32 ≤ byte
    let before := before ++ plain
    match ← next with
    | none => fail .endInString
    | some '"' => return (String.fromUTF8? ⟨before.toArray⟩).getD ""
    | some '\\' =>
      let c ← escape
      stringFrom steps (before ++ String.utf8EncodeChar c)
    | some _ => fail .controlCharacter

/-- Reads a string; its opening quote has been taken. -/
def string : Reader String := do
  stringFrom ((← size) + 1) []

/-- Reads a value that is not what was expected. Of a list or an object only the kind is seen, and
nothing is taken. -/
def unexpected {α : Type} (expected : String) : Reader α := do
  match ← peek with
  | some 'n' => skip; word ['u', 'l', 'l']; fail (.wrongType .null expected)
  | some 't' => skip; word ['r', 'u', 'e']; fail (.wrongType (.bool true) expected)
  | some 'f' => skip; word ['a', 'l', 's', 'e']; fail (.wrongType (.bool false) expected)
  | some '"' => skip; fail (.wrongType (.string (← string)) expected)
  | some '-' => skip; fail (.wrongType (← number true).shape expected)
  | some '[' => fail (.wrongType .sequence expected)
  | some '\x7b' => fail (.wrongType .map expected)
  | some c =>
    if c.isDigit then fail (.wrongType (← number false).shape expected)
    else failAtNext .expectedValue
  | none => fail .endInValue

def bool : Reader Bool := do
  match ← peekToken with
  | none => fail .endInValue
  | some 't' => skip; word ['r', 'u', 'e']; return true
  | some 'f' => skip; word ['a', 'l', 's', 'e']; return false
  | some _ => unexpected "a boolean"

end DocCheck.Json.Reader
