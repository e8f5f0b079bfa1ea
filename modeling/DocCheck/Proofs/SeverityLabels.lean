import DocCheck.Proofs.Answer
import DocCheck.Proofs.RewrittenRulesets

set_option autoImplicit false

namespace DocCheck

open Json (Value)

def Finding.unlabelled (finding : Finding) : Finding :=
  { finding with severity := .error }

def ConfiguredRule.unlabelled (configured : ConfiguredRule) : ConfiguredRule :=
  { configured with severity := .error }

theorem ConfiguredRule.findings_unlabelled (configured : ConfiguredRule) (doc : Document) :
    configured.unlabelled.findings doc = (configured.findings doc).map Finding.unlabelled := by
  rw [findings, findings, List.map_map]
  rfl

theorem repair_unlabelled (text : List Char) (findings : List Finding) :
    repair text (findings.map Finding.unlabelled) = repair text findings := by
  rw [repair, repair, List.filterMap_map]
  rfl

/-- Neither a rendered finding nor the number of findings shows a severity. -/
theorem Report.ofFindings_unlabelled (findings : List Finding) (fixedText : Option (List Char)) :
    ofFindings (findings.map Finding.unlabelled) fixedText = ofFindings findings fixedText := by
  rw [ofFindings, ofFindings, List.map_map, List.length_map]
  rfl

namespace Ruleset

def unlabelled (ruleset : Ruleset) : Ruleset where
  rules := ruleset.rules.map ConfiguredRule.unlabelled
  ordered := by
    rw [List.map_map]
    exact ruleset.ordered

section Erasure

variable (ruleset : Ruleset) (text : List Char)

theorem lint_unlabelled :
    ruleset.unlabelled.lint text = (ruleset.lint text).map Finding.unlabelled := by
  simp only [lint, unlabelled, List.flatMap_map, List.map_flatMap,
    ConfiguredRule.findings_unlabelled]

theorem overflows_unlabelled : ruleset.unlabelled.overflows text = ruleset.overflows text := by
  rw [overflows, overflows, unlabelled, List.any_map]
  rfl

theorem report_unlabelled (fix : Bool) :
    ruleset.unlabelled.report text fix = ruleset.report text fix := by
  have fixable (findings : List Finding) :
      (findings.map Finding.unlabelled).filter Finding.isFixable =
        (findings.filter Finding.isFixable).map Finding.unlabelled := by
    rw [List.filter_map]
    rfl
  simp only [report, lint_unlabelled, repair_unlabelled, Report.ofFindings_unlabelled, fixable,
    List.length_map, ne_eq, List.map_eq_nil_iff]

end Erasure

end Ruleset

/-- The values are equal, or they are options that agree on all but the severity. -/
inductive RawRuleset.Relabelled : Value → Value → Prop
  | same (value : Value) : Relabelled value value
  | options {here there : List (String × Value)} :
    (here.filter fun entry => entry.1 ≠ "severity") =
        (there.filter fun entry => entry.1 ≠ "severity") →
      Relabelled (.object here) (.object there)

namespace RawRuleset

theorem lookup_filter_ne (entries : List (String × Value)) {name other : String}
    (differ : name ≠ other) :
    (entries.filter fun entry => entry.1 ≠ other).lookup name = entries.lookup name := by
  induction entries with
  | nil => rfl
  | cons entry rest ih =>
    obtain ⟨held, value⟩ := entry
    by_cases dropped : held = other
    · rw [List.filter_cons_of_neg (by simp [dropped]), ih, List.lookup_cons,
        beq_eq_false_iff_ne.2 (dropped ▸ differ)]
    · rw [List.filter_cons_of_pos (by simp [dropped]), List.lookup_cons, List.lookup_cons, ih]

namespace Relabelled

theorem symm {a b : Value} (relabelled : Relabelled a b) : Relabelled b a := by
  cases relabelled with
  | same => exact .same _
  | options agree => exact .options agree.symm

/-- Another valid severity leaves the switch and the other options. -/
theorem means {a b : Value} (relabelled : Relabelled a b) (setting : IsSetting b) {on : Bool}
    {severity : Severity} {parameters : Parameters} (means : Means a on severity parameters) :
    ∃ given, Means b on given parameters := by
  cases relabelled with
  | same => exact ⟨severity, means⟩
  | @options here there agree =>
    have differ : "enabled" ≠ "severity" := by decide
    have switches : here.lookup "enabled" = there.lookup "enabled" := by
      rw [← lookup_filter_ne here differ, agree, lookup_filter_ne there differ]
    have others : (here.filter fun entry => entry.1 ≠ "enabled" ∧ entry.1 ≠ "severity") =
        there.filter fun entry => entry.1 ≠ "enabled" ∧ entry.1 ≠ "severity" := by
      simp only [Bool.decide_and, ← List.filter_filter, agree]
    obtain ⟨_, given, _, valid⟩ := setting
    cases means with
    | options switch _ =>
      cases valid with
      | options _ label =>
        rw [switches] at switch
        rw [others]
        exact ⟨given, .options switch label⟩

end Relabelled

theorem Rewritten.exists_enables {raw other : RawRuleset} (rewritten : Rewritten Relabelled raw other)
    (legible : other.Legible) {id : RuleId} {severity : Severity} {parameters : Parameters}
    (enables : raw.Enables id severity parameters) :
    ∃ given, other.Enables id given parameters := by
  have stays := rewritten.enables (fun _ _ => True) trivial (fun a b member relabelled on => by
    obtain ⟨given, on⟩ := Relabelled.means relabelled (legible.settings b member) on
    exact ⟨given, trivial, on⟩) enables
  obtain ⟨given, -, enables⟩ := stays
  exact ⟨given, enables⟩

theorem mem_unlabelled_iff {raw : RawRuleset} {ruleset : Ruleset}
    (accepted : raw.toRuleset = .ok ruleset) {configured : ConfiguredRule} :
    configured ∈ ruleset.unlabelled.rules ↔ configured.severity = .error ∧
      ∃ severity parameters, raw.Enables configured.id severity parameters ∧
        parameters.toRule configured.id = .ok configured.rule := by
  rw [Ruleset.unlabelled, List.mem_map]
  constructor
  · rintro ⟨labelled, member, rfl⟩
    exact ⟨rfl, labelled.severity, (mem_rules_iff accepted).1 member⟩
  · rintro ⟨plain, severity, parameters, enables, made⟩
    refine ⟨⟨configured.rule, severity⟩, (mem_rules_iff accepted).2 ⟨parameters, enables, made⟩, ?_⟩
    rw [ConfiguredRule.unlabelled, ← plain]

theorem unlabelled_eq {raw other : RawRuleset} {a b : Ruleset} (here : raw.toRuleset = .ok a)
    (there : other.toRuleset = .ok b) (rewritten : Rewritten Relabelled raw other) :
    a.unlabelled = b.unlabelled := by
  have back := rewritten.symm Relabelled.symm
  have legible := (exists_toRuleset_iff.1 ⟨a, here⟩).toLegible
  have otherLegible := (exists_toRuleset_iff.1 ⟨b, there⟩).toLegible
  apply Ruleset.eq_of_mem_rules_iff
  intro configured
  rw [mem_unlabelled_iff here, mem_unlabelled_iff there]
  apply and_congr_right
  intro _
  constructor
  · rintro ⟨severity, parameters, enables, made⟩
    obtain ⟨given, enabled⟩ := rewritten.exists_enables otherLegible enables
    exact ⟨given, parameters, enabled, made⟩
  · rintro ⟨severity, parameters, enables, made⟩
    obtain ⟨given, enabled⟩ := back.exists_enables legible enables
    exact ⟨given, parameters, enabled, made⟩

end RawRuleset

/-- Two rulesets as written that are accepted and differ in severities alone find the same in every
text up to the severity, repair it alike, and give every request the same report. -/
theorem report_relabelled {raw other : RawRuleset} {a b : Ruleset}
    (here : raw.toRuleset = .ok a) (there : other.toRuleset = .ok b)
    (rewritten : RawRuleset.Rewritten RawRuleset.Relabelled raw other) :
    (∀ text,
      (a.lint text).map Finding.unlabelled = (b.lint text).map Finding.unlabelled ∧
      repair text (a.lint text) = repair text (b.lint text) ∧
      a.overflows text = b.overflows text) ∧
    ∀ submission fix,
      (Engine.standard.answer (m := Id) a submission fix).report =
        (Engine.standard.answer (m := Id) b submission fix).report := by
  have same := RawRuleset.unlabelled_eq here there rewritten
  refine ⟨fun text => ⟨?_, ?_, ?_⟩, fun submission fix => ?_⟩
  · rw [← a.lint_unlabelled, ← b.lint_unlabelled, same]
  · rw [← repair_unlabelled, ← a.lint_unlabelled, same, b.lint_unlabelled, repair_unlabelled]
  · rw [← a.overflows_unlabelled, ← b.overflows_unlabelled, same]
  · rw [Engine.standard_report, Engine.standard_report, ← a.report_unlabelled,
      ← b.report_unlabelled, same]

/-- Tabs are errors and titles warnings, where `RawRuleset.tabsAndTitles` has it the other way round. -/
def RawRuleset.tabsAndTitlesRelabelled : RawRuleset where
  enabledByDefault := false
  entries :=
    [("$schema", .string "rules"),
      ("MD010", .object [("spaces_per_tab", .integer 2)]),
      ("MD013", .object [("enabled", .bool false), ("line_length", .string "long")]),
      ("md018", .object [("enabled", .null), ("severity", .string "warning")])]

theorem report_relabelled_tabsAndTitles :
    ∃ a b : Ruleset,
      RawRuleset.tabsAndTitles.toRuleset = .ok a ∧
      RawRuleset.tabsAndTitlesRelabelled.toRuleset = .ok b ∧
      a.rules.map ConfiguredRule.severity = [.warning, .error] ∧
      b.rules.map ConfiguredRule.severity = [.error, .warning] ∧
      (Engine.standard.answer (m := Id) a ⟨"readme", "\t".toList⟩ true).report =
        (Engine.standard.answer (m := Id) b ⟨"readme", "\t".toList⟩ true).report ∧
      (Engine.standard.answer (m := Id) a ⟨"readme", "\t".toList⟩ true).report =
        ⟨[], some "  ".toList, 0⟩ := by
  have here : RawRuleset.tabsAndTitles.toRuleset =
      .ok ⟨[⟨.hardTabs { spacesPerTab := 2 }, .warning⟩, ⟨.missingSpace {}, .error⟩], by decide⟩ :=
    rfl
  have there : RawRuleset.tabsAndTitlesRelabelled.toRuleset =
      .ok ⟨[⟨.hardTabs { spacesPerTab := 2 }, .error⟩, ⟨.missingSpace {}, .warning⟩], by decide⟩ :=
    rfl
  have rewritten : RawRuleset.Rewritten RawRuleset.Relabelled RawRuleset.tabsAndTitles
      RawRuleset.tabsAndTitlesRelabelled := by
    refine ⟨rfl, _, ?_, .refl _⟩
    refine .cons ⟨.inl rfl, .same _⟩ (.cons ⟨.inl rfl, .options rfl⟩ ?_)
    exact .cons ⟨.inl rfl, .same _⟩ (.cons ⟨.inl rfl, .options rfl⟩ .nil)
  refine ⟨_, _, here, there, rfl, rfl, (report_relabelled here there rewritten).2 _ true, ?_⟩
  cbv

end DocCheck
