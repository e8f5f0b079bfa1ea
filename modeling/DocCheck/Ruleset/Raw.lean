import DocCheck.Ruleset.Setting

set_option autoImplicit false

namespace DocCheck

open Json (Value)

structure RawRuleset where
  /-- Rules without an entry are enabled. -/
  enabledByDefault : Bool := true
  /-- What is said of each rule, under its code or alias, in the order of the names. -/
  entries : List (String × Value) := []
  deriving Repr

inductive RulesetFault where
  | unknownRule (name : String)
  | duplicateRule (id : RuleId)
  | invalidOptions (id : RuleId) (cause : OptionFault)
  deriving Repr

def RulesetFault.message : RulesetFault → String
  | unknownRule name => "Unknown rule '" ++ name ++ "'"
  | duplicateRule id => "Rule " ++ id.code ++ " is configured more than once"
  | invalidOptions id cause => "Invalid options for rule " ++ id.code ++ ": " ++ cause.message

namespace RawRuleset

/-- An entry whose name starts with a dollar sign says nothing of a rule. -/
def isComment (name : String) : Bool :=
  name.toList.head? = some '$'

/-- The settings of all entries after those of `before`. A second entry for a rule is refused before
its value is looked at. -/
def readEntries (before : List (RuleId × Setting)) :
    List (String × Value) → Except RulesetFault (List (RuleId × Setting))
  | [] => .ok before
  | (name, value) :: rest =>
    if isComment name then
      readEntries before rest
    else
      match RuleId.lookup? name.toList with
      | none => .error (.unknownRule name)
      | some id =>
        if (before.lookup id).isSome then
          .error (.duplicateRule id)
        else
          match Setting.ofValue? value with
          | none => .error (.invalidOptions id .noSetting)
          | some setting => readEntries ((id, setting) :: before) rest

/-- Severity and parameters of a rule, if its setting enables it. -/
def enabled? (byDefault : Bool) : Option Setting → Option (Severity × Parameters)
  | none => if byDefault then some (.error, []) else none
  | some (.toggle on) => if on then some (.error, []) else none
  | some (.options on severity parameters) =>
    if on.getD true then some (severity.getD .error, parameters) else none

def build (setting : RuleId → Option (Severity × Parameters)) :
    List RuleId → Except RulesetFault (List ConfiguredRule)
  | [] => .ok []
  | id :: rest =>
    match setting id with
    | none => build setting rest
    | some (severity, parameters) =>
      match parameters.toRule id with
      | .error cause => .error (.invalidOptions id cause)
      | .ok rule => (build setting rest).map (⟨rule, severity⟩ :: ·)

theorem sublist_of_build {setting : RuleId → Option (Severity × Parameters)} {ids : List RuleId}
    {rules : List ConfiguredRule} (h : build setting ids = .ok rules) :
    (rules.map ConfiguredRule.id).Sublist ids := by
  induction ids generalizing rules with
  | nil => cases h; exact .slnil
  | cons id rest ih =>
    rw [build] at h
    split at h
    · exact (ih h).cons id
    · split at h
      · cases h
      · rename_i made
        obtain ⟨tail, built, rfl⟩ := Parameters.map_eq_ok h
        rw [List.map_cons, ConfiguredRule.id, Parameters.id_of_toRule made]
        exact (ih built).cons_cons id

def toRuleset (raw : RawRuleset) : Except RulesetFault Ruleset :=
  match readEntries [] raw.entries with
  | .error fault => .error fault
  | .ok settings =>
    match built : build (fun id => enabled? raw.enabledByDefault (settings.lookup id))
        RuleId.all with
    | .error fault => .error fault
    | .ok rules => .ok ⟨rules, sublist_of_build built⟩

end RawRuleset

end DocCheck
