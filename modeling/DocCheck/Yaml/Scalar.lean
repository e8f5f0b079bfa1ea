import DocCheck.Json.Value
import DocCheck.Text.Blank
import DocCheck.Word
import DocCheck.Yaml.Cursor

set_option autoImplicit false

namespace DocCheck.Yaml.Scalar

open Text (trim eqIgnoringCase)

def isOneOf (text : List Char) (words : List String) : Bool :=
  words.any fun word => eqIgnoringCase text word.toList

def isNull (text : List Char) : Bool :=
  isOneOf text ["", "~", "null"]

def bool? (text : List Char) : Option Bool :=
  if isOneOf (trim text) ["y", "yes", "true", "on"] then some true
  else if isOneOf (trim text) ["n", "no", "false", "off"] then some false
  else none

/-- Takes a sign; whether it is a minus. -/
def splitSign : List Char → Bool × List Char
  | '-' :: rest => (true, rest)
  | '+' :: rest => (false, rest)
  | text => (false, text)

/-- The base in which digits are written, and the digits. -/
def splitBase : List Char → Nat × List Char
  | '0' :: c :: digits =>
    if c = 'x' ∨ c = 'X' then (16, digits)
    else if c = 'o' ∨ c = 'O' then (8, digits)
    else if c = 'b' ∨ c = 'B' then (2, digits)
    else (10, '0' :: c :: digits)
  | digits => (10, digits)

/-- The number that digits make, after those of `before`. Underscores may stand anywhere. -/
def natural? (base : Nat) (before : Option Nat) : List Char → Option Nat
  | [] => before
  | '_' :: rest => natural? base before rest
  | c :: rest => do
    let digit ← hexValue? c
    if base ≤ digit then
      none
    natural? base (some (before.getD 0 * base + digit)) rest

def integer? (text : List Char) : Option Int := do
  let (negative, unsigned) := splitSign (trim text)
  let (base, digits) := splitBase unsigned
  let magnitude ← natural? base none digits
  if negative then
    if magnitude ≤ signedWordLimit then some (-Int.ofNat magnitude) else none
  else
    if magnitude < wordLimit then some (Int.ofNat magnitude) else none

def digitsToNat (digits : List Char) : Nat :=
  digits.foldl (fun value c => value * 10 + (c.toNat - 48)) 0

/-- The exponent that the end of a number names; zero if there is none. -/
def exponent? : List Char → Option Int
  | [] => some 0
  | c :: rest =>
    if c = 'e' ∨ c = 'E' then
      let (negative, digits) := splitSign rest
      if digits = [] ∨ ¬ digits.all Char.isDigit then none
      else
        let magnitude := Int.ofNat (digitsToNat digits)
        some (if negative then -magnitude else magnitude)
    else none

/-- The double nearest to `significand * 10 ^ exponent`. -/
def toFloat (significand : Nat) (exponent : Int) : Float :=
  let magnitude := exponent + (Nat.toDigits 10 significand).length
  if significand = 0 ∨ magnitude < -400 then 0.0
  else if 400 < magnitude then 1.0 / 0.0
  else Float.ofScientific significand (exponent < 0) exponent.natAbs

/-- A decimal number: digits, of which some may stand after a point, and an exponent. -/
def decimal? (text : List Char) : Option Float := do
  let (negative, unsigned) := splitSign text
  let whole := unsigned.takeWhile Char.isDigit
  let rest := unsigned.dropWhile Char.isDigit
  let (part, rest) :=
    match rest with
    | '.' :: rest => (rest.takeWhile Char.isDigit, rest.dropWhile Char.isDigit)
    | _ => ([], rest)
  if whole = [] ∧ part = [] then
    none
  let exponent ← exponent? rest
  let value := toFloat (digitsToNat (whole ++ part)) (exponent - Int.ofNat part.length)
  return if negative then -value else value

/-- The ways to write a number that is infinite or none, each with the text that stands for it. -/
def nonFinite? (text : List Char) : Option String :=
  if isOneOf text [".nan", "+.nan", "-.nan", "nan", "+nan", "-nan"] then some ".nan"
  else if isOneOf text [".inf", "+.inf", "inf", "+inf", "infinity", "+infinity"] then some ".inf"
  else if isOneOf text ["-.inf", "-inf", "-infinity"] then some "-.inf"
  else none

/-- A number that is infinite is kept as text. -/
def ofFloat (value : Float) : Json.Value :=
  if value.isInf then .string (if value < 0.0 then "-.inf" else ".inf") else .float value

def resolve (text : List Char) : Json.Value :=
  if isNull text then .null
  else
    match bool? text with
    | some value => .bool value
    | none =>
      match integer? text with
      | some value => .integer value
      | none =>
        match nonFinite? (trim text) with
        | some name => .string name
        | none =>
          match decimal? (trim text) with
          | some value => ofFloat value
          | none => .string (String.ofList text)

end DocCheck.Yaml.Scalar
