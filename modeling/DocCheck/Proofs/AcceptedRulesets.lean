import DocCheck.Proofs.RegistryOrder
import DocCheck.Proofs.RuleEntries
import DocCheck.Ruleset.Standard

set_option autoImplicit false

namespace DocCheck

open Json (Value)
open Text

namespace RawRuleset

/-- The entries can be read, and every rule that ends up enabled takes its options. -/
structure Acceptable (raw : RawRuleset) : Prop extends Legible raw where
  options : ∀ id severity parameters, raw.Enables id severity parameters →
    ∃ rule, parameters.toRule id = .ok rule

theorem exists_build_iff {setting : RuleId → Option (Severity × Parameters)} {ids : List RuleId} :
    (∃ rules, build setting ids = .ok rules) ↔
      ∀ id ∈ ids, ∀ severity parameters, setting id = some (severity, parameters) →
        ∃ rule, parameters.toRule id = .ok rule := by
  induction ids with
  | nil => simp [build]
  | cons id rest ih =>
    rw [List.forall_mem_cons, ← ih, build]
    cases enabled : setting id with
    | none => simp
    | some pair =>
      obtain ⟨severity, parameters⟩ := pair
      simp only [Option.some.injEq, Prod.mk.injEq]
      cases made : parameters.toRule id with
      | error fault => simp_all
      | ok rule => cases build setting rest <;> simp_all [Except.map]

theorem mem_of_build {setting : RuleId → Option (Severity × Parameters)} {ids : List RuleId}
    {rules : List ConfiguredRule} (h : build setting ids = .ok rules)
    {configured : ConfiguredRule} :
    configured ∈ rules ↔ configured.id ∈ ids ∧ ∃ parameters,
      setting configured.id = some (configured.severity, parameters) ∧
        parameters.toRule configured.id = .ok configured.rule := by
  induction ids generalizing rules with
  | nil =>
    cases h
    simp
  | cons id rest ih =>
    rw [build] at h
    split at h
    · rename_i off
      rw [ih h, List.mem_cons, or_and_right]
      have absent : ¬ (configured.id = id ∧ ∃ parameters,
          setting configured.id = some (configured.severity, parameters) ∧
            parameters.toRule configured.id = .ok configured.rule) := by
        rintro ⟨same, parameters, enabled, -⟩
        rw [same, off] at enabled
        cases enabled
      simp only [absent, false_or]
    · rename_i severity parameters enabled
      split at h
      · cases h
      · rename_i rule made
        obtain ⟨tail, built, rfl⟩ := Parameters.map_eq_ok h
        rw [List.mem_cons, ih built, List.mem_cons, or_and_right]
        refine or_congr_left ?_
        constructor
        · rintro rfl
          have own : ConfiguredRule.id ⟨rule, severity⟩ = id := Parameters.id_of_toRule made
          rw [own]
          exact ⟨rfl, parameters, enabled, made⟩
        · rintro ⟨same, others, given, taken⟩
          rw [same, enabled] at given
          cases given
          rw [same, made] at taken
          cases configured
          cases taken
          rfl

theorem toRuleset_eq_ok_iff {raw : RawRuleset} {ruleset : Ruleset} :
    raw.toRuleset = .ok ruleset ↔ ∃ settings, readEntries [] raw.entries = .ok settings ∧
      build (fun id => enabled? raw.enabledByDefault (settings.lookup id)) RuleId.all =
        .ok ruleset.rules := by
  unfold toRuleset
  split
  · rename_i fault refused
    simp [refused]
  · rename_i settings read
    simp only [read, Except.ok.injEq, exists_eq_left']
    split
    · rename_i fault refused
      simp [refused]
    · rename_i rules built
      constructor
      · intro accepted
        cases accepted
        exact built
      · intro other
        have same : rules = ruleset.rules := Except.ok.inj (built.symm.trans other)
        cases ruleset
        cases same
        rfl

theorem exists_toRuleset_iff {raw : RawRuleset} :
    (∃ ruleset, raw.toRuleset = .ok ruleset) ↔ raw.Acceptable := by
  constructor
  · rintro ⟨ruleset, accepted⟩
    obtain ⟨settings, read, built⟩ := toRuleset_eq_ok_iff.1 accepted
    refine ⟨exists_readEntries_iff.1 ⟨settings, read⟩, fun id severity parameters enables => ?_⟩
    exact exists_build_iff.1 ⟨_, built⟩ id (RuleId.mem_all id) severity parameters
      ((enabled?_lookup read).2 enables)
  · rintro ⟨legible, options⟩
    obtain ⟨settings, read⟩ := exists_readEntries_iff.2 legible
    have takes : ∀ id ∈ RuleId.all, ∀ severity parameters,
        enabled? raw.enabledByDefault (settings.lookup id) = some (severity, parameters) →
          ∃ rule, parameters.toRule id = .ok rule := fun id _ severity parameters enabled =>
      options id severity parameters ((enabled?_lookup read).1 enabled)
    obtain ⟨rules, built⟩ := exists_build_iff.2 takes
    exact ⟨⟨rules, sublist_of_build built⟩, toRuleset_eq_ok_iff.2 ⟨settings, read, built⟩⟩

section Accepted

variable {raw : RawRuleset} {ruleset : Ruleset} (accepted : raw.toRuleset = .ok ruleset)
include accepted

theorem mem_rules_iff {configured : ConfiguredRule} :
    configured ∈ ruleset.rules ↔ ∃ parameters,
      raw.Enables configured.id configured.severity parameters ∧
        parameters.toRule configured.id = .ok configured.rule := by
  obtain ⟨settings, read, built⟩ := toRuleset_eq_ok_iff.1 accepted
  rw [mem_of_build built]
  simp only [RuleId.mem_all, true_and, enabled?_lookup read]

theorem mem_ids_iff {id : RuleId} :
    id ∈ ruleset.rules.map ConfiguredRule.id ↔
      ∃ severity parameters, raw.Enables id severity parameters := by
  constructor
  · intro member
    obtain ⟨configured, found, rfl⟩ := List.mem_map.1 member
    obtain ⟨parameters, enables, -⟩ := (mem_rules_iff accepted).1 found
    exact ⟨configured.severity, parameters, enables⟩
  · rintro ⟨severity, parameters, enables⟩
    have acceptable := exists_toRuleset_iff.1 ⟨ruleset, accepted⟩
    obtain ⟨rule, made⟩ := acceptable.options id severity parameters enables
    obtain rfl := Parameters.id_of_toRule made
    have found : ⟨rule, severity⟩ ∈ ruleset.rules :=
      (mem_rules_iff accepted).2 ⟨parameters, enables, made⟩
    exact List.mem_map_of_mem found

end Accepted

end RawRuleset

end DocCheck
