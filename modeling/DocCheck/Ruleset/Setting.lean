import DocCheck.Json.Value
import DocCheck.Ruleset.Basic

set_option autoImplicit false

namespace DocCheck

open Json (Shape Value)

inductive OptionFault where
  /-- The value is neither a boolean nor options. -/
  | noSetting
  /-- The rule has no options. -/
  | unknownOption (name : String)
  | unknownField (name : String) (known : List String)
  | wrongType (found : Shape) (expected : String)
  | wrongValue (found : Shape) (expected : String)
  deriving Repr

/-- Names between backquotes: one, two joined by "or", or a list. -/
def OptionFault.choice : List String → String
  | [] => "there are no fields"
  | [a] => "expected `" ++ a ++ "`"
  | [a, b] => "expected `" ++ a ++ "` or `" ++ b ++ "`"
  | names => "expected one of " ++ ", ".intercalate (names.map fun name => "`" ++ name ++ "`")

def OptionFault.message : OptionFault → String
  | noSetting => "data did not match any variant of untagged enum RuleSetting"
  | unknownOption name => "unknown option `" ++ name ++ "`"
  | unknownField name known => "unknown field `" ++ name ++ "`, " ++ choice known
  | wrongType found expected => "invalid type: " ++ found.message ++ ", expected " ++ expected
  | wrongValue found expected => "invalid value: " ++ found.message ++ ", expected " ++ expected

/-- The options of a rule, in the order of their names. -/
abbrev Parameters := List (String × Value)

inductive Setting where
  | toggle (on : Bool)
  | options (enabled : Option Bool) (severity : Option Severity) (parameters : Parameters)
  deriving Repr

namespace Setting

/-- An absent or null `enabled` says nothing. -/
def enabled? : Option Value → Option (Option Bool)
  | none | some .null => some none
  | some (.bool on) => some (some on)
  | some _ => none

def severityNamed? (name : String) : Option Severity :=
  if name = "error" then some .error else if name = "warning" then some .warning else none

/-- An absent or null `severity` says nothing. A name may also stand alone with a null value. -/
def severity? : Option Value → Option (Option Severity)
  | none | some .null => some none
  | some (.string name) | some (.object [(name, .null)]) => (severityNamed? name).map some
  | some _ => none

def ofValue? : Value → Option Setting
  | .bool on => some (.toggle on)
  | .object entries =>
    (enabled? (entries.lookup "enabled")).bind fun enabled =>
      (severity? (entries.lookup "severity")).map fun severity =>
        .options enabled severity
          (entries.filter fun entry => entry.1 ≠ "enabled" ∧ entry.1 ≠ "severity")
  | _ => none

end Setting

namespace Parameters

def bool (value : Value) : Except OptionFault Bool :=
  match value with
  | .bool on => .ok on
  | _ => .error (.wrongType value.shape "a boolean")

def text (value : Value) : Except OptionFault (List Char) :=
  match value with
  | .string text => .ok text.toList
  | _ => .error (.wrongType value.shape "a string")

/-- A number of 64 bits; a value holds no greater integer. -/
def size (value : Value) : Except OptionFault Nat :=
  match value with
  | .integer n => if 0 ≤ n then .ok n.toNat else .error (.wrongValue value.shape "usize")
  | _ => .error (.wrongType value.shape "usize")

def optionalSize (value : Value) : Except OptionFault (Option Nat) :=
  match value with
  | .null => .ok none
  | _ => (size value).map some

/-- How the values of named options change the options `α` of a rule. -/
abbrev Schema (α : Type) := List (String × (α → Value → Except OptionFault α))

def apply {α : Type} (schema : Schema α) (options : α) : Parameters → Except OptionFault α
  | [] => .ok options
  | (name, value) :: rest =>
    match schema.lookup name with
    | none => .error (.unknownField name (schema.map Prod.fst))
    | some change => (change options value).bind fun options => apply schema options rest

/-- A rule without options takes no parameter. -/
def applyNone (rule : Rule) : Parameters → Except OptionFault Rule
  | [] => .ok rule
  | (name, _) :: _ => .error (.unknownOption name)

def trailingSpaces : Schema TrailingSpaces :=
  [("br_spaces", fun o v => (size v).map fun n => { o with breakSpaces := n }),
    ("strict", fun o v => (bool v).map fun b => { o with strict := b })]

def hardTabs : Schema HardTabs :=
  [("code_blocks", fun o v => (bool v).map fun b => { o with inCode := b }),
    ("spaces_per_tab", fun o v => (size v).map fun n => { o with spacesPerTab := n })]

def multipleBlanks : Schema MultipleBlanks :=
  [("maximum", fun o v => (size v).map fun n => { o with maximum := n })]

def lineLength : Schema LineLength :=
  [("line_length", fun o v => (size v).map fun n => { o with limit := n }),
    ("heading_line_length", fun o v => (optionalSize v).map fun n => { o with headingLimit := n }),
    ("code_block_line_length", fun o v => (optionalSize v).map fun n => { o with codeLimit := n }),
    ("code_blocks", fun o v => (bool v).map fun b => { o with inCode := b }),
    ("headings", fun o v => (bool v).map fun b => { o with inHeadings := b }),
    ("strict", fun o v => (bool v).map fun b => { o with strict := b })]

def singleTitle : Schema SingleTitle :=
  [("level", fun o v => (size v).map fun n => { o with level := n })]

def trailingPunctuation : Schema TrailingPunctuation :=
  [("punctuation", fun o v => (text v).map fun t => { o with punctuation := t })]

/-- The rule `id` with the given parameters, the others at their defaults. -/
def toRule (parameters : Parameters) : RuleId → Except OptionFault Rule
  | .headingIncrement => applyNone (.headingIncrement {}) parameters
  | .trailingSpaces => (apply trailingSpaces {} parameters).map .trailingSpaces
  | .hardTabs => (apply hardTabs {} parameters).map .hardTabs
  | .multipleBlanks => (apply multipleBlanks {} parameters).map .multipleBlanks
  | .lineLength => (apply lineLength {} parameters).map .lineLength
  | .missingSpace => applyNone (.missingSpace {}) parameters
  | .multipleSpace => applyNone (.multipleSpace {}) parameters
  | .headingStart => applyNone (.headingStart {}) parameters
  | .singleTitle => (apply singleTitle {} parameters).map .singleTitle
  | .trailingPunctuation => (apply trailingPunctuation {} parameters).map .trailingPunctuation
  | .fenceLanguage => applyNone (.fenceLanguage {}) parameters
  | .finalNewline => applyNone (.finalNewline {}) parameters

theorem map_eq_ok {α β ε : Type} {f : α → β} {x : Except ε α} {b : β}
    (h : x.map f = .ok b) : ∃ a, x = .ok a ∧ f a = b := by
  cases x with
  | error e => cases h
  | ok a => exact ⟨a, rfl, Except.ok.inj h⟩

theorem applyNone_eq_ok {rule built : Rule} {parameters : Parameters}
    (h : applyNone rule parameters = .ok built) : built = rule := by
  cases parameters with
  | nil => exact (Except.ok.inj h).symm
  | cons => cases h

theorem id_of_toRule {parameters : Parameters} {id : RuleId} {rule : Rule}
    (h : toRule parameters id = .ok rule) : rule.id = id := by
  cases id
  case headingIncrement | missingSpace | multipleSpace | headingStart | fenceLanguage |
      finalNewline => rw [applyNone_eq_ok h]; rfl
  all_goals
    obtain ⟨_, -, rfl⟩ := map_eq_ok h
    rfl

end Parameters

end DocCheck
