import DocCheck.Text.Blank

/-!
The registered rules. Each has a code, an alias and a description, and either name finds it whatever
the case of its ASCII letters. The order of `RuleId.all` is the order of evaluation.
-/

set_option autoImplicit false

namespace DocCheck

open Text

inductive RuleId where
  | headingIncrement
  | trailingSpaces
  | hardTabs
  | multipleBlanks
  | lineLength
  | missingSpace
  | multipleSpace
  | headingStart
  | singleTitle
  | trailingPunctuation
  | fenceLanguage
  | finalNewline
  deriving DecidableEq, Repr

namespace RuleId

/-- Every rule, in the order of evaluation. -/
def all : List RuleId :=
  [.headingIncrement, .trailingSpaces, .hardTabs, .multipleBlanks, .lineLength, .missingSpace,
    .multipleSpace, .headingStart, .singleTitle, .trailingPunctuation, .fenceLanguage,
    .finalNewline]

theorem mem_all (id : RuleId) : id ∈ all := by
  cases id <;> decide

theorem nodup_all : all.Nodup := by
  decide

def code : RuleId → String
  | .headingIncrement => "MD001"
  | .trailingSpaces => "MD009"
  | .hardTabs => "MD010"
  | .multipleBlanks => "MD012"
  | .lineLength => "MD013"
  | .missingSpace => "MD018"
  | .multipleSpace => "MD019"
  | .headingStart => "MD023"
  | .singleTitle => "MD025"
  | .trailingPunctuation => "MD026"
  | .fenceLanguage => "MD040"
  | .finalNewline => "MD047"

def aliasName : RuleId → String
  | .headingIncrement => "heading-increment"
  | .trailingSpaces => "no-trailing-spaces"
  | .hardTabs => "no-hard-tabs"
  | .multipleBlanks => "no-multiple-blanks"
  | .lineLength => "line-length"
  | .missingSpace => "no-missing-space-atx"
  | .multipleSpace => "no-multiple-space-atx"
  | .headingStart => "heading-start-left"
  | .singleTitle => "single-h1"
  | .trailingPunctuation => "no-trailing-punctuation"
  | .fenceLanguage => "fenced-code-language"
  | .finalNewline => "single-trailing-newline"

def description : RuleId → String
  | .headingIncrement => "Heading levels should only increment by one level at a time"
  | .trailingSpaces => "Trailing spaces"
  | .hardTabs => "Hard tabs"
  | .multipleBlanks => "Multiple consecutive blank lines"
  | .lineLength => "Line length"
  | .missingSpace => "No space after hash on atx style heading"
  | .multipleSpace => "Multiple spaces after hash on atx style heading"
  | .headingStart => "Headings must start at the beginning of the line"
  | .singleTitle => "Multiple top-level headings in the same document"
  | .trailingPunctuation => "Trailing punctuation in heading"
  | .fenceLanguage => "Fenced code blocks should have a language specified"
  | .finalNewline => "Files should end with a single newline character"

/-- Whether the rule's violations carry a repair. -/
def fixable : RuleId → Bool
  | .headingIncrement | .lineLength | .singleTitle | .fenceLanguage => false
  | _ => true

/-- Whether `name` is the rule's code or alias, up to the case of ASCII letters. -/
def answersTo (id : RuleId) (name : List Char) : Bool :=
  eqIgnoringCase id.code.toList name || eqIgnoringCase id.aliasName.toList name

def lookup? (name : List Char) : Option RuleId :=
  all.find? (·.answersTo name)

theorem answersTo_of_lookup? {name : List Char} {id : RuleId} (h : lookup? name = some id) :
    id.answersTo name = true := by
  rw [lookup?] at h
  simpa using List.find?_some h

/-- The rules of both lists, in the order of evaluation. -/
def union (a b : List RuleId) : List RuleId :=
  all.filter fun id => id ∈ a || id ∈ b

/-- The rules of `a` that are not in `b`, in the order of evaluation. -/
def without (a b : List RuleId) : List RuleId :=
  all.filter fun id => id ∈ a && !(id ∈ b)

@[simp] theorem mem_union {a b : List RuleId} {id : RuleId} :
    id ∈ union a b ↔ id ∈ a ∨ id ∈ b := by
  simp [union, mem_all]

@[simp] theorem mem_without {a b : List RuleId} {id : RuleId} :
    id ∈ without a b ↔ id ∈ a ∧ id ∉ b := by
  simp [without, mem_all]

end RuleId

end DocCheck
