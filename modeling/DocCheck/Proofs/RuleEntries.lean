import DocCheck.Proofs.RuleSwitches
import DocCheck.Ruleset.Raw
import Mathlib.Data.List.Nodup

set_option autoImplicit false

namespace DocCheck.RawRuleset

open Json (Value)

/-- Whether options with this field `enabled` switch their rule on. -/
inductive Switch : Option Value → Bool → Prop
  | absent : Switch none true
  | null : Switch (some .null) true
  | bool (on : Bool) : Switch (some (.bool on)) on

/-- The severity that options with this field `severity` give their rule. A name may stand alone with
a null value. -/
inductive Label : Option Value → Severity → Prop
  | absent : Label none .error
  | null : Label (some .null) .error
  | name (severity : Severity) : Label (some (.string severity.name)) severity
  | field (severity : Severity) : Label (some (.object [(severity.name, .null)])) severity

/-- The value is a boolean or options. It switches its rule on or off, and gives it a severity and the
remaining options. -/
inductive Means : Value → Bool → Severity → Parameters → Prop
  | toggle (on : Bool) : Means (.bool on) on .error []
  | options {entries : List (String × Value)} {on : Bool} {severity : Severity} :
    Switch (entries.lookup "enabled") on → Label (entries.lookup "severity") severity →
      Means (.object entries) on severity
        (entries.filter fun entry => entry.1 ≠ "enabled" ∧ entry.1 ≠ "severity")

def IsSetting (value : Value) : Prop :=
  ∃ on severity parameters, Means value on severity parameters

def ruleEntries (raw : RawRuleset) : List (String × Value) :=
  raw.entries.filter fun entry => !isComment entry.1

/-- The rule ends up enabled, with this severity and these options: its entry tells it so, or it has
none and rules are enabled by default. -/
def Enables (raw : RawRuleset) (id : RuleId) (severity : Severity) (parameters : Parameters) :
    Prop :=
  (∃ entry ∈ raw.ruleEntries, id.answersTo entry.1.toList = true ∧
    Means entry.2 true severity parameters) ∨
  (raw.enabledByDefault = true ∧
    (∀ entry ∈ raw.ruleEntries, id.answersTo entry.1.toList = false) ∧
      severity = .error ∧ parameters = [])

/-- No rule answers to the names of both entries. -/
def Apart (a b : String × Value) : Prop :=
  ∀ id : RuleId, ¬ (id.answersTo a.1.toList = true ∧ id.answersTo b.1.toList = true)

/-- Each entry names a rule, no two name the same one, and each holds a setting. -/
structure Legible (raw : RawRuleset) : Prop where
  known : ∀ entry ∈ raw.ruleEntries, ∃ id : RuleId, id.answersTo entry.1.toList = true
  apart : raw.ruleEntries.Pairwise Apart
  settings : ∀ entry ∈ raw.ruleEntries, IsSetting entry.2

theorem switch_iff {value : Option Value} {on : Bool} :
    Switch value on ↔ (Setting.enabled? value).map (·.getD true) = some on := by
  constructor
  · intro h
    cases h <;> rfl
  · intro h
    unfold Setting.enabled? at h
    split at h
    · obtain rfl := Option.some.inj h
      exact .absent
    · obtain rfl := Option.some.inj h
      exact .null
    · obtain rfl := Option.some.inj h
      exact .bool _
    · cases h

theorem severityNamed?_name (severity : Severity) :
    Setting.severityNamed? severity.name = some severity := by
  cases severity <;> rfl

theorem eq_name_of_severityNamed? {name : String} {severity : Severity}
    (h : Setting.severityNamed? name = some severity) : name = severity.name := by
  unfold Setting.severityNamed? at h
  split at h
  · rename_i same
    rw [same, ← Option.some.inj h]
    rfl
  · split at h
    · rename_i same
      rw [same, ← Option.some.inj h]
      rfl
    · cases h

theorem label_iff {value : Option Value} {severity : Severity} :
    Label value severity ↔ (Setting.severity? value).map (·.getD .error) = some severity := by
  constructor
  · intro h
    cases h with
    | absent => rfl
    | null => rfl
    | name => simp [Setting.severity?, severityNamed?_name]
    | field => simp [Setting.severity?, severityNamed?_name]
  · intro h
    unfold Setting.severity? at h
    split at h
    · obtain rfl := Option.some.inj h
      exact .absent
    · obtain rfl := Option.some.inj h
      exact .null
    · rw [Option.map_map] at h
      obtain ⟨severity, named, rfl⟩ := Option.map_eq_some_iff.1 h
      rw [eq_name_of_severityNamed? named]
      exact .name severity
    · rw [Option.map_map] at h
      obtain ⟨severity, named, rfl⟩ := Option.map_eq_some_iff.1 h
      rw [eq_name_of_severityNamed? named]
      exact .field severity
    · cases h

/-- What a setting comes to: on or off, severity and remaining options. -/
def meaning : Setting → Bool × Severity × Parameters
  | .toggle on => (on, .error, [])
  | .options enabled severity parameters => (enabled.getD true, severity.getD .error, parameters)

theorem means_iff {value : Value} {on : Bool} {severity : Severity} {parameters : Parameters} :
    Means value on severity parameters ↔
      (Setting.ofValue? value).map meaning = some (on, severity, parameters) := by
  constructor
  · intro h
    cases h with
    | toggle => rfl
    | options switch label =>
      obtain ⟨enabled, read, rfl⟩ := Option.map_eq_some_iff.1 (switch_iff.1 switch)
      obtain ⟨given, named, rfl⟩ := Option.map_eq_some_iff.1 (label_iff.1 label)
      simp only [Setting.ofValue?, read, named]
      rfl
  · intro h
    obtain ⟨setting, read, eq⟩ := Option.map_eq_some_iff.1 h
    unfold Setting.ofValue? at read
    split at read
    · obtain rfl := Option.some.inj read
      cases eq
      exact .toggle on
    · obtain ⟨enabled, switch, read⟩ := Option.bind_eq_some_iff.1 read
      obtain ⟨given, label, rfl⟩ := Option.map_eq_some_iff.1 read
      cases eq
      refine .options (switch_iff.2 ?_) (label_iff.2 ?_)
      · rw [switch]
        rfl
      · rw [label]
        rfl
    · cases read

theorem isSetting_iff {value : Value} :
    IsSetting value ↔ ∃ setting, Setting.ofValue? value = some setting := by
  constructor
  · rintro ⟨on, severity, parameters, means⟩
    obtain ⟨setting, read, -⟩ := Option.map_eq_some_iff.1 (means_iff.1 means)
    exact ⟨setting, read⟩
  · rintro ⟨setting, read⟩
    refine ⟨(meaning setting).1, (meaning setting).2.1, (meaning setting).2.2, means_iff.2 ?_⟩
    rw [read]
    rfl

theorem enabled?_eq_some_iff {byDefault : Bool} {value : Value} {setting : Setting}
    (read : Setting.ofValue? value = some setting) {severity : Severity} {parameters : Parameters} :
    enabled? byDefault (some setting) = some (severity, parameters) ↔
      Means value true severity parameters := by
  rw [means_iff, read, Option.map_some]
  cases setting with
  | toggle on => cases on <;> simp [enabled?, meaning]
  | options enabled given others =>
    cases on : enabled.getD true <;> simp [enabled?, meaning, on]

/-- The rule that an entry is about, and what the entry says of it. -/
def reading? (entry : String × Value) : Option (RuleId × Setting) :=
  (RuleId.lookup? entry.1.toList).bind fun id => (Setting.ofValue? entry.2).map (id, ·)

theorem reading?_eq_some {entry : String × Value} {id : RuleId} {setting : Setting} :
    reading? entry = some (id, setting) ↔
      id.answersTo entry.1.toList = true ∧ Setting.ofValue? entry.2 = some setting := by
  rw [← RuleId.lookup?_eq_some_iff]
  simp [reading?, Option.bind_eq_some_iff, Option.map_eq_some_iff]

theorem exists_reading?_iff {entry : String × Value} :
    (∃ read, reading? entry = some read) ↔
      (∃ id : RuleId, id.answersTo entry.1.toList = true) ∧ IsSetting entry.2 := by
  rw [isSetting_iff]
  constructor
  · rintro ⟨⟨id, setting⟩, read⟩
    obtain ⟨named, held⟩ := reading?_eq_some.1 read
    exact ⟨⟨id, named⟩, setting, held⟩
  · rintro ⟨⟨id, named⟩, setting, held⟩
    exact ⟨(id, setting), reading?_eq_some.2 ⟨named, held⟩⟩

theorem nodup_readings_iff {entries : List (String × Value)}
    (all : ∀ entry ∈ entries, ∃ read, reading? entry = some read) :
    ((entries.filterMap reading?).reverse.map Prod.fst).Nodup ↔ entries.Pairwise Apart := by
  rw [List.map_reverse, List.nodup_reverse, List.Nodup, List.pairwise_map, List.pairwise_filterMap]
  refine List.Pairwise.iff_of_mem fun {a b} left right => ?_
  constructor
  · intro differ id both
    obtain ⟨⟨i, here⟩, left⟩ := all a left
    obtain ⟨⟨j, there⟩, right⟩ := all b right
    apply differ _ left _ right
    rw [RuleId.eq_of_answersTo (reading?_eq_some.1 left).1 both.1,
      RuleId.eq_of_answersTo (reading?_eq_some.1 right).1 both.2]
  · rintro differ ⟨i, here⟩ left ⟨j, there⟩ right rfl
    exact differ i ⟨(reading?_eq_some.1 left).1, (reading?_eq_some.1 right).1⟩

/-- One entry about a rule: it must be readable, and its rule must not have been met before. -/
theorem readEntries_cons_eq_ok_iff {before settings : List (RuleId × Setting)}
    {entry : String × Value} (about : isComment entry.1 = false) (rest : List (String × Value)) :
    readEntries before (entry :: rest) = .ok settings ↔
      ∃ read, reading? entry = some read ∧ read.1 ∉ before.map Prod.fst ∧
        readEntries (read :: before) rest = .ok settings := by
  obtain ⟨name, value⟩ := entry
  rw [readEntries, if_neg (Bool.eq_false_iff.1 about), reading?]
  cases RuleId.lookup? name.toList with
  | none => simp
  | some id =>
    have met : (before.lookup id).isSome = true ↔ id ∈ before.map Prod.fst := by
      simp [List.lookup_isSome_iff]
    by_cases again : id ∈ before.map Prod.fst
    · simp only [met.2 again, if_true, reduceCtorEq, false_iff]
      rintro ⟨read, eq, fresh, -⟩
      obtain ⟨setting, -, rfl⟩ := Option.map_eq_some_iff.1 eq
      exact fresh again
    · simp only [mt met.1 again]
      cases Setting.ofValue? value with
      | none => simp
      | some setting => simpa using fun _ => by simpa using again

theorem readEntries_eq_ok_iff {before settings : List (RuleId × Setting)}
    (nodup : (before.map Prod.fst).Nodup) (entries : List (String × Value)) :
    readEntries before entries = .ok settings ↔
      (∀ entry ∈ entries.filter fun entry => !isComment entry.1,
        ∃ read, reading? entry = some read) ∧
        settings =
          ((entries.filter fun entry => !isComment entry.1).filterMap reading?).reverse ++ before ∧
        (settings.map Prod.fst).Nodup := by
  -- On the entries, with the settings read before them.
  induction entries generalizing before with
  | nil =>
    simp only [readEntries, List.filter_nil, List.filterMap_nil, List.reverse_nil, List.nil_append,
      List.not_mem_nil, false_imp_iff, implies_true, true_and, Except.ok.injEq]
    constructor
    · rintro rfl
      exact ⟨rfl, nodup⟩
    · rintro ⟨rfl, -⟩
      rfl
  | cons entry rest ih =>
    cases about : isComment entry.1 with
    | true =>
      have skipped : readEntries before (entry :: rest) = readEntries before rest := by
        rw [readEntries, if_pos about]
      rw [skipped, ih nodup, List.filter_cons_of_neg (by simp [about])]
    | false =>
      rw [readEntries_cons_eq_ok_iff about, List.filter_cons_of_pos (by simp [about]),
        List.forall_mem_cons]
      constructor
      · rintro ⟨read, eq, fresh, rest⟩
        have distinct : ((read :: before).map Prod.fst).Nodup := List.nodup_cons.2 ⟨fresh, nodup⟩
        obtain ⟨readable, rfl, settings⟩ := (ih distinct).1 rest
        refine ⟨⟨⟨read, eq⟩, readable⟩, ?_, settings⟩
        rw [List.filterMap_cons_some eq, List.reverse_cons, List.append_assoc, List.singleton_append]
      · rintro ⟨⟨⟨read, eq⟩, readable⟩, all, settings⟩
        rw [List.filterMap_cons_some eq, List.reverse_cons, List.append_assoc,
          List.singleton_append] at all
        have distinct : ((read :: before).map Prod.fst).Nodup := by
          rw [all, List.map_append, List.nodup_append] at settings
          exact settings.2.1
        have fresh := (List.nodup_cons.1 distinct).1
        exact ⟨read, eq, fresh, (ih distinct).2 ⟨readable, all, settings⟩⟩

theorem lookup_eq_some_iff_mem {α β : Type} [DecidableEq α] {pairs : List (α × β)}
    (nodup : (pairs.map Prod.fst).Nodup) {key : α} {value : β} :
    pairs.lookup key = some value ↔ (key, value) ∈ pairs := by
  induction pairs with
  | nil => simp
  | cons pair rest ih =>
    obtain ⟨other, held⟩ := pair
    obtain ⟨fresh, nodup⟩ := List.nodup_cons.1 nodup
    rw [List.lookup_cons, List.mem_cons, Prod.mk.injEq]
    by_cases same : key = other
    · subst same
      have absent : (key, value) ∉ rest := fun found => fresh (List.mem_map.2 ⟨_, found, rfl⟩)
      simp [absent, eq_comm]
    · have different : (key == other) = false := beq_eq_false_iff_ne.2 same
      simp [different, same, ih nodup]

section Read

variable {raw : RawRuleset} {settings : List (RuleId × Setting)} {id : RuleId}

theorem readEntries_nil_eq_ok_iff :
    readEntries [] raw.entries = .ok settings ↔
      (∀ entry ∈ raw.ruleEntries, ∃ read, reading? entry = some read) ∧
        settings = (raw.ruleEntries.filterMap reading?).reverse ∧
        (settings.map Prod.fst).Nodup := by
  have nodup : (([] : List (RuleId × Setting)).map Prod.fst).Nodup := List.nodup_nil
  rw [readEntries_eq_ok_iff nodup, List.append_nil, ruleEntries]

theorem lookup_settings (h : readEntries [] raw.entries = .ok settings) {setting : Setting} :
    settings.lookup id = some setting ↔ ∃ entry ∈ raw.ruleEntries,
      id.answersTo entry.1.toList = true ∧ Setting.ofValue? entry.2 = some setting := by
  obtain ⟨-, all, nodup⟩ := readEntries_nil_eq_ok_iff.1 h
  rw [lookup_eq_some_iff_mem nodup, all, List.mem_reverse, List.mem_filterMap]
  simp only [reading?_eq_some]

theorem enabled?_lookup (h : readEntries [] raw.entries = .ok settings) {severity : Severity}
    {parameters : Parameters} :
    enabled? raw.enabledByDefault (settings.lookup id) = some (severity, parameters) ↔
      raw.Enables id severity parameters := by
  have readable := (readEntries_nil_eq_ok_iff.1 h).1
  have found {entry : String × Value} (member : entry ∈ raw.ruleEntries)
      (named : id.answersTo entry.1.toList = true) :
      ∃ setting, settings.lookup id = some setting ∧ Setting.ofValue? entry.2 = some setting := by
    obtain ⟨⟨other, setting⟩, read⟩ := readable entry member
    obtain ⟨-, held⟩ := reading?_eq_some.1 read
    exact ⟨setting, (lookup_settings h).2 ⟨entry, member, named, held⟩, held⟩
  constructor
  · intro enabled
    cases looked : settings.lookup id with
    | none =>
      have unnamed : ∀ entry ∈ raw.ruleEntries, id.answersTo entry.1.toList = false := by
        intro entry member
        apply Bool.eq_false_iff.2
        intro named
        obtain ⟨setting, other, -⟩ := found member named
        rw [looked] at other
        cases other
      rw [looked, enabled?] at enabled
      split at enabled
      · rename_i byDefault
        cases enabled
        exact .inr ⟨byDefault, unnamed, rfl, rfl⟩
      · cases enabled
    | some setting =>
      obtain ⟨entry, member, named, held⟩ := (lookup_settings h).1 looked
      rw [looked, enabled?_eq_some_iff held] at enabled
      exact .inl ⟨entry, member, named, enabled⟩
  · rintro (⟨entry, member, named, means⟩ | ⟨byDefault, unnamed, rfl, rfl⟩)
    · obtain ⟨setting, looked, held⟩ := found member named
      rwa [looked, enabled?_eq_some_iff held]
    · have looked : settings.lookup id = none := by
        cases looked : settings.lookup id with
        | none => rfl
        | some setting =>
          obtain ⟨entry, member, named, -⟩ := (lookup_settings h).1 looked
          rw [unnamed entry member] at named
          cases named
      rw [looked, enabled?, if_pos byDefault]

/-- The entries are read exactly when they are legible. -/
theorem exists_readEntries_iff :
    (∃ settings, readEntries [] raw.entries = .ok settings) ↔ raw.Legible := by
  constructor
  · rintro ⟨settings, h⟩
    obtain ⟨all, rfl, nodup⟩ := readEntries_nil_eq_ok_iff.1 h
    refine ⟨fun entry member => ?_, (nodup_readings_iff all).1 nodup, fun entry member => ?_⟩
    · exact (exists_reading?_iff.1 (all entry member)).1
    · exact (exists_reading?_iff.1 (all entry member)).2
  · intro legible
    have all : ∀ entry ∈ raw.ruleEntries, ∃ read, reading? entry = some read := by
      intro entry member
      exact exists_reading?_iff.2 ⟨legible.known entry member, legible.settings entry member⟩
    exact ⟨_, readEntries_nil_eq_ok_iff.2 ⟨all, rfl, (nodup_readings_iff all).2 legible.apart⟩⟩

end Read

end DocCheck.RawRuleset
