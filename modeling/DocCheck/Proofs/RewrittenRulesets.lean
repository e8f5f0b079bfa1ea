import DocCheck.Proofs.AcceptedRulesets
import Mathlib.Data.List.Forall2

set_option autoImplicit false

namespace DocCheck

open Json (Value)
open Text

theorem Text.lowerAscii_eq_dollar {c : Char} : lowerAscii c = '$' ↔ c = '$' := by
  unfold lowerAscii
  split
  · rename_i capital
    have low : 65 ≤ c.toNat := capital.1
    have high : c.toNat ≤ 90 := capital.2
    have valid : (c.toNat + 32).isValidChar := .inl (by omega)
    constructor
    · intro same
      have code : c.toNat + 32 = 36 := by
        have code := congrArg Char.toNat same
        rw [Char.ofNat, dif_pos valid] at code
        exact code
      omega
    · rintro rfl
      exact absurd low (by decide)
  · exact Iff.rfl

/-- No rule has a name that starts with a dollar sign. -/
theorem RuleId.head?_of_mem_folded : ∀ id ∈ all, ∀ name ∈ folded id, name.head? ≠ some '$' := by
  decide +kernel

namespace RawRuleset

/-- The names are equal up to the case of ASCII letters, or name one rule. -/
def SameName (a b : String) : Prop :=
  eqIgnoringCase a.toList b.toList = true ∨
    ∃ id : RuleId, id.answersTo a.toList = true ∧ id.answersTo b.toList = true

theorem isComment_iff {name : String} :
    isComment name = true ↔ (name.toList.map lowerAscii).head? = some '$' := by
  rw [isComment, decide_eq_true_iff]
  cases name.toList <;> simp [lowerAscii_eq_dollar]

namespace SameName

variable {a b : String}

theorem symm (same : SameName a b) : SameName b a := by
  rcases same with case | ⟨id, left, right⟩
  · exact .inl (beq_iff_eq.2 (beq_iff_eq.1 case).symm)
  · exact .inr ⟨id, right, left⟩

theorem answersTo (same : SameName a b) (id : RuleId) :
    id.answersTo a.toList = id.answersTo b.toList := by
  rcases same with case | ⟨named, left, right⟩
  · rw [Bool.eq_iff_iff, RuleId.answersTo_iff, RuleId.answersTo_iff, beq_iff_eq.1 case]
  · rw [Bool.eq_iff_iff]
    constructor
    · intro answers
      rwa [RuleId.eq_of_answersTo answers left]
    · intro answers
      rwa [RuleId.eq_of_answersTo answers right]

theorem isComment (same : SameName a b) :
    RawRuleset.isComment a = RawRuleset.isComment b := by
  rw [Bool.eq_iff_iff, isComment_iff, isComment_iff]
  rcases same with case | ⟨id, left, right⟩
  · rw [beq_iff_eq.1 case]
  · have no := RuleId.head?_of_mem_folded id (RuleId.mem_all id)
    exact iff_of_false (no _ (RuleId.answersTo_iff.1 left)) (no _ (RuleId.answersTo_iff.1 right))

end SameName

/-- The entries stand for each other: one name respelled, and values that are alike. -/
def Counterpart (alike : Value → Value → Prop) (a b : String × Value) : Prop :=
  SameName a.1 b.1 ∧ alike a.2 b.2

/-- The rulesets say the same by default, and entry by entry they are counterparts, in any order. -/
structure Rewritten (alike : Value → Value → Prop) (raw other : RawRuleset) : Prop where
  byDefault : raw.enabledByDefault = other.enabledByDefault
  entries : ∃ entries, List.Forall₂ (Counterpart alike) raw.entries entries ∧
    entries.Perm other.entries

namespace Rewritten

variable {alike : Value → Value → Prop} {raw other : RawRuleset}

theorem swap (rewritten : Rewritten alike raw other) : Rewritten (flip alike) other raw := by
  obtain ⟨byDefault, entries, pairs, perm⟩ := rewritten
  have back : List.Forall₂ (Counterpart (flip alike)) entries raw.entries :=
    List.Forall₂.flip (pairs.imp fun _ _ pair => ⟨pair.1.symm, pair.2⟩)
  obtain ⟨others, pairs, perm⟩ := List.perm_comp_forall₂ perm.symm back
  exact ⟨byDefault.symm, others, pairs, perm⟩

theorem symm (rewritten : Rewritten alike raw other) (alike_symm : ∀ {a b}, alike a b → alike b a) :
    Rewritten alike other raw := by
  obtain ⟨byDefault, entries, pairs, perm⟩ := rewritten.swap
  exact ⟨byDefault, entries, pairs.imp fun _ _ pair => ⟨pair.1, alike_symm pair.2⟩, perm⟩

theorem ruleEntries (rewritten : Rewritten alike raw other) :
    ∃ entries, List.Forall₂ (Counterpart alike) raw.ruleEntries entries ∧
      entries.Perm other.ruleEntries := by
  obtain ⟨-, entries, pairs, perm⟩ := rewritten
  refine ⟨entries.filter fun entry => !RawRuleset.isComment entry.1, ?_, perm.filter _⟩
  apply List.rel_filter ?_ pairs
  intro a b pair
  simp [pair.1.isComment]

theorem exists_counterpart (rewritten : Rewritten alike raw other) {entry : String × Value}
    (member : entry ∈ raw.ruleEntries) :
    ∃ pair ∈ other.ruleEntries, Counterpart alike entry pair := by
  obtain ⟨entries, pairs, perm⟩ := rewritten.ruleEntries
  obtain ⟨i, inside, rfl⟩ := List.getElem_of_mem member
  have paired : i < entries.length := pairs.length_eq ▸ inside
  exact ⟨entries[i], perm.mem_iff.1 (List.getElem_mem paired), pairs.get inside paired⟩

theorem legible (rewritten : Rewritten alike raw other)
    (settings : ∀ a b, alike a b → IsSetting a → IsSetting b) (legible : raw.Legible) :
    other.Legible := by
  constructor
  · intro entry member
    obtain ⟨pair, found, same, -⟩ := rewritten.swap.exists_counterpart member
    obtain ⟨id, named⟩ := legible.known pair found
    exact ⟨id, (same.answersTo id).trans named⟩
  · obtain ⟨entries, pairs, perm⟩ := rewritten.ruleEntries
    have names : raw.ruleEntries.map (fun entry (id : RuleId) => id.answersTo entry.1.toList) =
        entries.map fun entry id => id.answersTo entry.1.toList := by
      rw [← List.forall₂_eq_eq_eq]
      exact List.rel_map (fun _ _ pair => funext pair.1.answersTo) pairs
    have apart : (entries.map fun entry (id : RuleId) => id.answersTo entry.1.toList).Pairwise
        fun a b => ∀ id, ¬ (a id = true ∧ b id = true) := by
      rw [← names, List.pairwise_map]
      exact legible.apart
    apply (List.pairwise_map.1 apart).perm perm
    intro a b differ id both
    exact differ id both.symm
  · intro entry member
    obtain ⟨pair, found, -, alike⟩ := rewritten.swap.exists_counterpart member
    exact settings _ _ alike (legible.settings pair found)

theorem enables (rewritten : Rewritten alike raw other) (label : Severity → Severity → Prop)
    (plain : label .error .error) {id : RuleId} {severity : Severity} {parameters : Parameters}
    (means : ∀ a, ∀ b ∈ other.ruleEntries, alike a b.2 → Means a true severity parameters →
      ∃ given, label severity given ∧ Means b.2 true given parameters)
    (enables : raw.Enables id severity parameters) :
    ∃ given, label severity given ∧ other.Enables id given parameters := by
  rcases enables with ⟨entry, member, named, on⟩ | ⟨byDefault, unnamed, rfl, rfl⟩
  · obtain ⟨pair, found, same, alike⟩ := rewritten.exists_counterpart member
    obtain ⟨given, labelled, on⟩ := means _ pair found alike on
    exact ⟨given, labelled, .inl ⟨pair, found, (same.answersTo id).symm.trans named, on⟩⟩
  · refine ⟨.error, plain, .inr ⟨rewritten.byDefault.symm.trans byDefault, ?_, rfl, rfl⟩⟩
    intro entry member
    obtain ⟨pair, found, same, -⟩ := rewritten.swap.exists_counterpart member
    exact (same.answersTo id).trans (unnamed pair found)

end Rewritten

def SwitchesOff (value : Value) : Prop :=
  ∃ severity parameters, Means value false severity parameters

/-- The values are equal, or both switch their rule off. -/
def SameSetting (a b : Value) : Prop :=
  a = b ∨ SwitchesOff a ∧ SwitchesOff b

namespace SameSetting

variable {a b : Value}

theorem symm (same : SameSetting a b) : SameSetting b a := by
  rcases same with rfl | ⟨left, right⟩
  · exact .inl rfl
  · exact .inr ⟨right, left⟩

theorem isSetting (same : SameSetting a b) (setting : IsSetting a) : IsSetting b := by
  rcases same with rfl | ⟨-, severity, parameters, off⟩
  · exact setting
  · exact ⟨false, severity, parameters, off⟩

theorem means (same : SameSetting a b) {severity : Severity} {parameters : Parameters}
    (on : Means a true severity parameters) : Means b true severity parameters := by
  rcases same with rfl | ⟨⟨_, _, off⟩, -⟩
  · exact on
  · have both := (means_iff.1 off).symm.trans (means_iff.1 on)
    cases both

end SameSetting

section Rewriting

variable {raw other : RawRuleset} (rewritten : Rewritten SameSetting raw other)
include rewritten

theorem Rewritten.enables_of_enables {id : RuleId} {severity : Severity} {parameters : Parameters}
    (enables : raw.Enables id severity parameters) : other.Enables id severity parameters := by
  have stays := rewritten.enables Eq rfl
    (fun a b _ same on => ⟨severity, rfl, SameSetting.means same on⟩) enables
  obtain ⟨_, rfl, enables⟩ := stays
  exact enables

theorem Rewritten.acceptable (acceptable : raw.Acceptable) : other.Acceptable := by
  refine ⟨rewritten.legible (fun _ _ => SameSetting.isSetting) acceptable.toLegible, ?_⟩
  intro id severity parameters enables
  have enabled := (rewritten.symm SameSetting.symm).enables_of_enables enables
  exact acceptable.options id severity parameters enabled

theorem Rewritten.toRuleset_eq_ok {ruleset : Ruleset} (accepted : raw.toRuleset = .ok ruleset) :
    other.toRuleset = .ok ruleset := by
  obtain ⟨rules, same⟩ := exists_toRuleset_iff.2
    (rewritten.acceptable (exists_toRuleset_iff.1 ⟨ruleset, accepted⟩))
  have back := rewritten.symm SameSetting.symm
  have equal : rules = ruleset := by
    apply Ruleset.eq_of_mem_rules_iff
    intro configured
    rw [mem_rules_iff same, mem_rules_iff accepted]
    constructor
    · rintro ⟨parameters, enables, made⟩
      exact ⟨parameters, back.enables_of_enables enables, made⟩
    · rintro ⟨parameters, enables, made⟩
      exact ⟨parameters, rewritten.enables_of_enables enables, made⟩
  rw [same, equal]

end Rewriting

/-- A ruleset as written is accepted exactly when each entry about a rule names one, no two name the
same, each holds a setting, and every rule that ends up enabled takes its options. The ruleset then
has the rules that are enabled, with their severities and options, in the order of evaluation and none
twice, and they are enabled under each of their names. Another spelling of the names changes nothing,
and neither does what else is said of a rule that is switched off. -/
theorem toRuleset_accepts (raw : RawRuleset) :
    ((∃ ruleset, raw.toRuleset = .ok ruleset) ↔ raw.Acceptable) ∧
    (∀ ruleset, raw.toRuleset = .ok ruleset →
      (ruleset.rules.map ConfiguredRule.id).Sublist RuleId.all ∧
      (ruleset.rules.map ConfiguredRule.id).Nodup ∧
      (∀ id, id ∈ ruleset.rules.map ConfiguredRule.id ↔
        ∃ severity parameters, raw.Enables id severity parameters) ∧
      (∀ configured, configured ∈ ruleset.rules ↔ ∃ parameters,
        raw.Enables configured.id configured.severity parameters ∧
          parameters.toRule configured.id = .ok configured.rule) ∧
      ∀ name, ruleset.isEnabled name = true ↔
        ∃ id ∈ ruleset.rules.map ConfiguredRule.id, RuleId.lookup? name = some id) ∧
    ∀ other, Rewritten SameSetting raw other →
      ∀ ruleset, raw.toRuleset = .ok ruleset ↔ other.toRuleset = .ok ruleset := by
  refine ⟨exists_toRuleset_iff, fun ruleset accepted => ?_, fun other rewritten ruleset => ?_⟩
  · refine ⟨ruleset.ordered, ruleset.nodup_ids, fun id => ?_, fun _ => mem_rules_iff accepted, ?_⟩
    · exact mem_ids_iff accepted
    · intro name
      rw [Ruleset.isEnabled, List.any_eq_true]
      simp only [List.mem_map, exists_exists_and_eq_and, RuleId.lookup?_eq_some_iff]
  · exact ⟨rewritten.toRuleset_eq_ok, (rewritten.symm SameSetting.symm).toRuleset_eq_ok⟩

def tabsAndTitles : RawRuleset where
  enabledByDefault := false
  entries :=
    [("$schema", .string "rules"),
      ("MD010", .object [("severity", .string "warning"), ("spaces_per_tab", .integer 2)]),
      ("MD013", .object [("enabled", .bool false), ("line_length", .string "long")]),
      ("md018", .object [("enabled", .null)])]

/-- The same under other names, in the order of these. -/
def tabsAndTitlesRespelled : RawRuleset where
  enabledByDefault := false
  entries :=
    [("$schema", .string "rules"),
      ("Line-Length", .bool false),
      ("MD018", .object [("enabled", .null)]),
      ("no-hard-tabs", .object [("severity", .string "warning"), ("spaces_per_tab", .integer 2)])]

theorem rewritten_tabsAndTitles : Rewritten SameSetting tabsAndTitles tabsAndTitlesRespelled := by
  have off : SameSetting
      (.object [("enabled", .bool false), ("line_length", .string "long")]) (.bool false) :=
    .inr ⟨⟨_, _, .options (.bool false) .absent⟩, ⟨_, _, .toggle false⟩⟩
  have moved := List.perm_append_singleton
    ("no-hard-tabs", Value.object [("severity", .string "warning"), ("spaces_per_tab", .integer 2)])
    [("Line-Length", .bool false), ("MD018", .object [("enabled", .null)])]
  refine ⟨rfl, _, ?_, moved.symm.cons _⟩
  refine .cons ⟨.inl rfl, .inl rfl⟩ (.cons ⟨.inr ⟨.hardTabs, by decide, by decide⟩, .inl rfl⟩ ?_)
  exact .cons ⟨.inr ⟨.lineLength, by decide, by decide⟩, off⟩ (.cons ⟨.inl rfl, .inl rfl⟩ .nil)

/-- A limit that is no number does not matter where lines may have any length. -/
theorem toRuleset_accepts_tabsAndTitles :
    Rewritten SameSetting tabsAndTitles tabsAndTitlesRespelled ∧ tabsAndTitles.Acceptable ∧
    ∃ ruleset : Ruleset,
      ruleset.rules = [⟨.hardTabs { spacesPerTab := 2 }, .warning⟩, ⟨.missingSpace {}, .error⟩] ∧
      tabsAndTitles.toRuleset = .ok ruleset ∧ tabsAndTitlesRespelled.toRuleset = .ok ruleset ∧
      ∃ parameters, tabsAndTitles.Enables .hardTabs .warning parameters := by
  have accepted : tabsAndTitles.toRuleset =
      .ok ⟨[⟨.hardTabs { spacesPerTab := 2 }, .warning⟩, ⟨.missingSpace {}, .error⟩], by decide⟩ :=
    rfl
  obtain ⟨acceptable, holds, respelled⟩ := toRuleset_accepts tabsAndTitles
  obtain ⟨-, -, -, rules, -⟩ := holds _ accepted
  obtain ⟨parameters, enables, -⟩ :=
    (rules ⟨.hardTabs { spacesPerTab := 2 }, .warning⟩).1 (List.mem_cons_self ..)
  refine ⟨rewritten_tabsAndTitles, acceptable.1 ⟨_, accepted⟩, _, rfl, accepted, ?_, ?_⟩
  · exact (respelled _ rewritten_tabsAndTitles _).1 accepted
  · exact ⟨parameters, enables⟩

end RawRuleset

end DocCheck
