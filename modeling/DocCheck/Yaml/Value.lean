import DocCheck.Yaml.Node
import DocCheck.Yaml.Scalar

set_option autoImplicit false

namespace DocCheck.Yaml.Node

def isMerge : Node → Bool
  | .scalar _ true ['<', '<'] => true
  | _ => false

def isNull : Node → Bool
  | .scalar _ true text => Scalar.isNull text
  | _ => false

/-- The text of a name. Nothing and collections are no names. -/
def name? : Node → Option (List Char)
  | .scalar tag plain text => if isNull (.scalar tag plain text) then none else some text
  | _ => none

/-- The entries that are written out, under their names. -/
def written? : List (Node × Node) → Option (List (List Char × Node))
  | [] => some []
  | (key, content) :: rest => do
    let fields ← written? rest
    if isMerge key then some fields else some ((← name? key, content) :: fields)

mutual

/-- The entries that are merged, those that win first. -/
def merged? : List (Node × Node) → Option (List (List Char × Node))
  | [] => some []
  | (key, content) :: rest => do
    let fields ← merged? rest
    if isMerge key then some ((← fieldsOf? content) ++ fields) else some fields

/-- The entries that a node gives to be merged. -/
def fieldsOf? : Node → Option (List (List Char × Node))
  | .mapping entries => do return (← written? entries) ++ (← merged? entries)
  | .sequence nodes => fieldsOfAll? nodes
  | .scalar _ plain text => if plain ∧ Scalar.isNull text then some [] else none

def fieldsOfAll? : List Node → Option (List (List Char × Node))
  | [] => some []
  | node :: rest => do return (← fieldsOf? node) ++ (← fieldsOfAll? rest)

end

/-- The first entry under each name. -/
def firsts (fields : List (List Char × Node)) : List (String × Node) :=
  Named.ofList (fields.reverse.map fun (name, node) => (String.ofList name, node))

/-- The entries of a mapping, in the order of their names. No name may be written twice. -/
def fields? (entries : List (Node × Node)) : Option (List (String × Node)) := do
  let written ← written? entries
  if (written.map Prod.fst).Nodup then some (firsts (written ++ (← merged? entries))) else none

/-- The text of the tag of the standard with this name. -/
def standardTag (name : String) : List Char :=
  ("tag:yaml.org,2002:" ++ name).toList

/-- What a scalar means. Tags of numbers and truth values are refused; the tag of nothing takes the text
away, and any other says nothing. -/
def scalarValue? (tag : Option (List Char)) (plain : Bool) (text : List Char) : Option Json.Value :=
  if ["bool", "int", "float"].any fun name => tag = some (standardTag name) then none
  else if tag = some (standardTag "null") then some .null
  else if plain then some (Scalar.resolve text)
  else some (.string (String.ofList text))

/-- The value of a node that is at most `depth` collections deep. -/
def toValue? : Nat → Node → Option Json.Value
  | _, .scalar tag plain text => scalarValue? tag plain text
  | 0, _ => none
  | depth + 1, .sequence nodes => (nodes.mapM (toValue? depth)).map .array
  | depth + 1, .mapping entries => do
    let values ← (← fields? entries).mapM fun (name, node) =>
      (toValue? depth node).map (name, ·)
    return .object values

end DocCheck.Yaml.Node
