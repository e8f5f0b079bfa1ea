import DocCheck.Decimal.Shortest
import DocCheck.Named
import DocCheck.Text.Quoted

set_option autoImplicit false

namespace DocCheck.Json

/-- A JSON value. Integers stay exact; the names of an object are ordered and no two are equal. -/
inductive Value where
  | null
  | bool (value : Bool)
  | integer (value : Int)
  | float (value : Float)
  | string (value : String)
  | array (elements : List Value)
  | object (entries : List (String × Value))
  deriving Repr, Inhabited

/-- What a message tells of a value. -/
inductive Shape where
  | null
  | bool (value : Bool)
  | integer (value : Int)
  | float (value : Float)
  | string (value : String)
  | sequence
  | map
  deriving Repr

def Value.shape : Value → Shape
  | null => .null
  | bool value => .bool value
  | integer value => .integer value
  | float value => .float value
  | string value => .string value
  | array _ => .sequence
  | object _ => .map

def Shape.message : Shape → String
  | null => "null"
  | bool value => "boolean `" ++ toString value ++ "`"
  | integer value => "integer `" ++ toString value ++ "`"
  | float value => "floating point `" ++ Decimal.ofFloat value ++ "`"
  | string value => "string " ++ Text.quoted value
  | sequence => "sequence"
  | map => "map"

end DocCheck.Json
