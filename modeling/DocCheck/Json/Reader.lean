import DocCheck.Json.Scalar

set_option autoImplicit false

namespace DocCheck.Json.Reader

/-- Containers may be nested this deep. -/
def depthLimit : Nat :=
  128

def colon : Reader Unit := do
  match ← peekToken with
  | some ':' => skip
  | some _ => failAtNext .expectedColon
  | none => fail .endInObject

/-- Whether another entry of an object follows; if so, the quote of its name is next. -/
def hasEntry (first : Bool) : Reader Bool := do
  match ← peekToken with
  | some '\x7d' => return false
  | none => fail .endInObject
  | some c =>
    if first then
      if c = '"' then return true else failAtNext .keyNotString
    else if c = ',' then
      skip
      match ← peekToken with
      | some '"' => return true
      | some '\x7d' => failAtNext .trailingComma
      | some _ => failAtNext .keyNotString
      | none => fail .endInValue
    else
      failAtNext .expectedCommaOrBrace

def hasElement (first : Bool) : Reader Bool := do
  match ← peekToken with
  | some ']' => return false
  | none => fail .endInList
  | some c =>
    if first then
      return true
    else if c = ',' then
      skip
      match ← peekToken with
      | some ']' => failAtNext .trailingComma
      | some _ => return true
      | none => fail .endInValue
    else
      failAtNext .expectedCommaOrBracket

def name : Reader String := do
  skip
  string

mutual

/-- Reads a value; `depth` more containers may open. -/
def value (steps depth : Nat) : Reader Value := do
  match steps with
  | 0 => fail .endInValue
  | steps + 1 =>
    match ← peekToken with
    | none => fail .endInValue
    | some 'n' => skip; word ['u', 'l', 'l']; return .null
    | some 't' => skip; word ['r', 'u', 'e']; return .bool true
    | some 'f' => skip; word ['a', 'l', 's', 'e']; return .bool false
    | some '"' => skip; return .string (← string)
    | some '-' => skip; return (← number true).toValue
    | some '[' =>
      if depth ≤ 1 then
        failAtNext .tooDeep
      skip
      return .array (← elements steps (depth - 1) true [])
    | some '\x7b' =>
      if depth ≤ 1 then
        failAtNext .tooDeep
      skip
      return .object (Named.ofList (← entries steps (depth - 1) true []))
    | some c =>
      if c.isDigit then return (← number false).toValue
      else failAtNext .expectedValue

/-- Reads the elements of a list after those of `before`, last first, and the closing bracket. -/
def elements (steps depth : Nat) (first : Bool) (before : List Value) : Reader (List Value) := do
  match steps with
  | 0 => fail .endInList
  | steps + 1 =>
    if ← hasElement first then
      let element ← value steps depth
      elements steps depth false (element :: before)
    else
      skip
      return before.reverse

/-- Reads the entries of an object after those of `before`, last first, and the closing brace. -/
def entries (steps depth : Nat) (first : Bool) (before : List (String × Value)) :
    Reader (List (String × Value)) := do
  match steps with
  | 0 => fail .endInObject
  | steps + 1 =>
    if ← hasEntry first then
      let key ← name
      colon
      let content ← value steps depth
      entries steps depth false ((key, content) :: before)
    else
      skip
      return before.reverse

end

end DocCheck.Json.Reader
