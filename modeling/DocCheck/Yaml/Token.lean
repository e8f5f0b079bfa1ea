/-!
The tokens of YAML. Indentation has become tokens of its own: a block collection opens with its start and
closes with `blockEnd`, and a name is announced by `key` even where no question mark stands.
-/

set_option autoImplicit false

namespace DocCheck.Yaml

inductive Token where
  | versionDirective
  | tagDirective (handle expansion : List Char)
  | documentStart
  | documentEnd
  | streamEnd
  | blockSequenceStart
  | blockMappingStart
  | blockEnd
  | flowSequenceStart
  | flowSequenceEnd
  | flowMappingStart
  | flowMappingEnd
  | blockEntry
  | flowEntry
  | key
  | value
  | alias (name : List Char)
  | anchor (name : List Char)
  | tag (handle suffix : List Char)
  /-- A plain scalar may turn out to be a number, say; any other is text. -/
  | scalar (plain : Bool) (text : List Char)
  deriving DecidableEq, Repr, Inhabited

end DocCheck.Yaml
