import DocCheck.Ruleset.Basic

set_option autoImplicit false

namespace DocCheck

structure Finding where
  line : Nat
  rule : RuleId
  detail : Option Detail
  context : Option (List Char)
  range : Option Span
  severity : Severity
  edit : Option Edit
  deriving DecidableEq, Repr

namespace Finding

/-- A violation of `configured`; the edit stays if the rule is fixable. -/
def ofViolation (configured : ConfiguredRule) (violation : Violation) : Finding where
  line := violation.line
  rule := configured.id
  detail := violation.detail
  context := violation.context
  range := violation.range
  severity := configured.severity
  edit := if configured.id.fixable then violation.edit else none

def isFixable (finding : Finding) : Bool :=
  finding.edit.isSome

/-- Line, code and alias, description, and where present the detail and the context. -/
def render (finding : Finding) : List Char :=
  Nat.toDigits 10 finding.line ++ [':', ' '] ++ finding.rule.code.toList ++ '/' ::
    finding.rule.aliasName.toList ++ ' ' :: finding.rule.description.toList ++
    (match finding.detail with
      | none => []
      | some detail => [' ', '['] ++ detail.message.toList ++ [']']) ++
    (match finding.context with
      | none => []
      | some context => " [Context: \"".toList ++ context ++ ['"', ']'])

end Finding

end DocCheck
