import DocCheck.Ruleset.Raw
import DocCheck.Yaml.Value

set_option autoImplicit false

namespace DocCheck.RawRuleset

open Yaml (Node)

/-- What `default` says. Any scalar that reads as a truth value will do, quoted or not. -/
def yamlDefault? : Node → Option Bool
  | .scalar _ _ text => Yaml.Scalar.bool? text
  | _ => none

def ofYamlFields? (depth : Nat) : List (String × Node) → Option RawRuleset
  | [] => some {}
  | (name, node) :: rest => do
    let raw ← ofYamlFields? depth rest
    if name = "default" then
      return { raw with enabledByDefault := ← yamlDefault? node }
    else
      return { raw with entries := (name, ← node.toValue? depth) :: raw.entries }

/-- A text has fewer nested collections than characters. One byte order mark is skipped. -/
def ofYaml? (text : String) : Option RawRuleset := do
  let chars :=
    match text.toList with
    | '\uFEFF' :: rest => rest
    | chars => chars
  match ← Node.ofText? chars with
  | .mapping entries => ofYamlFields? chars.length (← Node.fields? entries)
  | node => if node.isNull then some {} else none

end DocCheck.RawRuleset
