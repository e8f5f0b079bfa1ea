import DocCheck.Rule.Basic

set_option autoImplicit false

namespace DocCheck

/-- A label of findings; it changes neither what is found nor what is counted. -/
inductive Severity where
  | error
  | warning
  deriving DecidableEq, Repr

def Severity.name : Severity → String
  | .error => "error"
  | .warning => "warning"

structure ConfiguredRule where
  rule : Rule
  severity : Severity
  deriving DecidableEq, Repr

def ConfiguredRule.id (configured : ConfiguredRule) : RuleId :=
  configured.rule.id

/-- Each rule stands at most once, in the order of evaluation. -/
structure Ruleset where
  rules : List ConfiguredRule
  ordered : (rules.map ConfiguredRule.id).Sublist RuleId.all

namespace Ruleset

/-- Whether the rule that answers to `name` is enabled. -/
def isEnabled (ruleset : Ruleset) (name : List Char) : Bool :=
  ruleset.rules.any (·.id.answersTo name)

theorem nodup_ids (ruleset : Ruleset) : (ruleset.rules.map ConfiguredRule.id).Nodup :=
  ruleset.ordered.nodup RuleId.nodup_all

end Ruleset

end DocCheck
