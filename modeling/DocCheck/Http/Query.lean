import DocCheck.Text.Blank
import DocCheck.Text.Utf8

set_option autoImplicit false

namespace DocCheck

open Text

namespace Query

def hexValue? (byte : UInt8) : Option UInt8 :=
  if 48 ≤ byte ∧ byte ≤ 57 then some (byte - 48)
  else if 65 ≤ byte ∧ byte ≤ 70 then some (byte - 55)
  else if 97 ≤ byte ∧ byte ≤ 102 then some (byte - 87)
  else none

/-- Two hexadecimal digits after a `%` become a byte; any other `%` stays. -/
def percentDecode : List UInt8 → List UInt8
  | 37 :: a :: b :: rest =>
    match hexValue? a, hexValue? b with
    | some high, some low => (high * 16 + low) :: percentDecode rest
    | _, _ => 37 :: percentDecode (a :: b :: rest)
  | byte :: rest => byte :: percentDecode rest
  | [] => []

/-- The text of a key or value: `+` is a space. -/
def decode (bytes : List UInt8) : List Char :=
  decodeLossy (percentDecode (bytes.map fun byte => if byte = 43 then 32 else byte))

def pair (piece : List UInt8) : List Char × List Char :=
  (decode (piece.takeWhile (· ≠ 61)), decode ((piece.dropWhile (· ≠ 61)).drop 1))

/-- The pairs of a query string; empty pieces between `&` are skipped. -/
def pairs (query : List UInt8) : List (List Char × List Char) :=
  ((query.splitOn 38).filter (· ≠ [])).map pair

end Query

structure LintOptions where
  /-- The name of the document. -/
  filename : List Char := "readme".toList
  /-- Repair the text and lint it again. -/
  fix : Bool := false
  deriving DecidableEq, Repr

namespace LintOptions

/-- Takes over one pair. A blank name stands for the default name, other keys are ignored. -/
def set (options : LintOptions) (pair : List Char × List Char) : LintOptions :=
  if pair.1 = "filename".toList then
    let name := trim pair.2
    { options with filename := if name = [] then "readme".toList else name }
  else if pair.1 = "fix".toList then
    { options with fix := eqIgnoringCase pair.2 "true".toList }
  else
    options

/-- Of pairs with one key the last counts. -/
def ofPairs (pairs : List (List Char × List Char)) : LintOptions :=
  pairs.foldl set {}

end LintOptions

end DocCheck
