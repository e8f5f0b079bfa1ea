import DocCheck.Proofs.LineScan

set_option autoImplicit false

namespace DocCheck

open Text

/-- One option on the length of lines is loosened. The limits of headings and of fenced blocks are set
before and after. -/
inductive LineLength.Loosens (options : LineLength) : LineLength → Prop
  | limit {limit : Nat} (more : options.limit ≤ limit) :
    Loosens options { options with limit := limit }
  | headingLimit {old limit : Nat} (set : options.headingLimit = some old) (more : old ≤ limit) :
    Loosens options { options with headingLimit := some limit }
  | codeLimit {old limit : Nat} (set : options.codeLimit = some old) (more : old ≤ limit) :
    Loosens options { options with codeLimit := some limit }
  | strict : Loosens options { options with strict := false }
  | inCode : Loosens options { options with inCode := false }
  | inHeadings : Loosens options { options with inHeadings := false }

/-- One option of the rule is loosened, the others stay. -/
inductive Rule.Loosens : Rule → Rule → Prop
  | lineLength {options looser : LineLength} (loosens : options.Loosens looser) :
    Loosens (.lineLength options) (.lineLength looser)
  | multipleBlanks {options : MultipleBlanks} {maximum : Nat} (more : options.maximum ≤ maximum) :
    Loosens (.multipleBlanks options) (.multipleBlanks { options with maximum := maximum })
  | trailingSpaces (options : TrailingSpaces) :
    Loosens (.trailingSpaces options) (.trailingSpaces { options with strict := false })
  | hardTabs (options : HardTabs) :
    Loosens (.hardTabs options) (.hardTabs { options with inCode := false })
  | trailingPunctuation {options : TrailingPunctuation} {punctuation : List Char}
    (fewer : punctuation ⊆ options.punctuation) :
    Loosens (.trailingPunctuation options)
      (.trailingPunctuation { options with punctuation := punctuation })

/-- The rulesets are equal but for one rule, of which one option is loosened. -/
inductive Ruleset.Loosens (first second : Ruleset) : Prop
  | intro (front back : List ConfiguredRule) (severity : Severity) {rule looser : Rule}
    (loosened : rule.Loosens looser) (before : first.rules = front ++ ⟨rule, severity⟩ :: back)
    (after : second.rules = front ++ ⟨looser, severity⟩ :: back)

/-- The column where a tab was found, nothing for other rules. -/
def RuleId.columnOf (id : RuleId) (range : Option Span) : Option Nat :=
  if id = .hardTabs then range.map Span.column else none

def Violation.place (id : RuleId) (violation : Violation) : Nat × Option Nat :=
  (violation.line, id.columnOf violation.range)

def Finding.place (finding : Finding) : RuleId × Nat × Option Nat :=
  (finding.rule, finding.line, finding.rule.columnOf finding.range)

/-- Where the second check reports, the first one reports on the same line. -/
def Covers (first second : Option Violation) : Prop :=
  ∀ violation, second = some violation →
    ∃ other, first = some other ∧ other.line = violation.line

theorem Covers.sublist {first second : Option Violation} (covers : Covers first second) :
    (second.toList.map Violation.line).Sublist (first.toList.map Violation.line) := by
  cases second with
  | none => exact List.nil_sublist _
  | some violation =>
    obtain ⟨other, found, same⟩ := covers violation rfl
    simp [found, same]

theorem Line.sublist_onProse {line : Line} {first second : Line → Option Violation}
    (covers : Covers (first line) (second line)) :
    ((line.onProse second).map Violation.line).Sublist
      ((line.onProse first).map Violation.line) := by
  unfold onProse
  split
  · exact List.Sublist.refl _
  · exact covers.sublist

theorem Line.sublist_onHeading {line : Line} {first second : Heading → Option Violation}
    (covers : ∀ heading, Covers (first heading) (second heading)) :
    ((line.onHeading second).map Violation.line).Sublist
      ((line.onHeading first).map Violation.line) := by
  unfold onHeading
  cases line.heading? with
  | none => exact List.Sublist.refl _
  | some heading => exact (covers heading).sublist

/-- Each kind of line is checked only where these options check it, and against no smaller limit. -/
structure LineLength.Widens (options looser : LineLength) : Prop where
  prose : options.limit ≤ looser.limit
  heading : options.headingLimit.getD options.limit ≤ looser.headingLimit.getD looser.limit
  code : options.codeLimit.getD options.limit ≤ looser.codeLimit.getD looser.limit
  inCode : looser.inCode = true → options.inCode = true
  inHeadings : looser.inHeadings = true → options.inHeadings = true
  strict : looser.strict = true → options.strict = true

namespace LineLength

variable {options looser : LineLength}

theorem Widens.limitOf (widens : options.Widens looser) {line : Line} {more : Nat}
    (h : looser.limitOf line = some more) :
    ∃ limit ≤ more, options.limitOf line = some limit := by
  unfold LineLength.limitOf at h ⊢
  split at h
  · obtain ⟨checked, same⟩ := Option.ite_none_right_eq_some.1 h
    cases same
    exact ⟨_, widens.code, by simp [*, widens.inCode checked]⟩
  · split at h
    · obtain ⟨checked, same⟩ := Option.ite_none_right_eq_some.1 h
      cases same
      exact ⟨_, widens.heading, by simp [*, widens.inHeadings checked]⟩
    · cases h
      exact ⟨_, widens.prose, by simp [*]⟩

theorem Loosens.widens (loosens : options.Loosens looser) : options.Widens looser := by
  have le (n : Nat) : n ≤ n := Nat.le_refl n
  cases loosens with
  | limit more =>
    refine ⟨more, ?_, ?_, id, id, id⟩
    · cases options.headingLimit <;> simp [more]
    · cases options.codeLimit <;> simp [more]
  | headingLimit set more =>
    refine ⟨le _, ?_, le _, id, id, id⟩
    rwa [set, Option.getD_some, Option.getD_some]
  | codeLimit set more =>
    refine ⟨le _, le _, ?_, id, id, id⟩
    rwa [set, Option.getD_some, Option.getD_some]
  | strict => exact ⟨le _, le _, le _, id, id, nofun⟩
  | inCode => exact ⟨le _, le _, le _, nofun, id, id⟩
  | inHeadings => exact ⟨le _, le _, le _, id, nofun, id⟩

theorem any_drop_of_le {limit more : Nat} (le : limit ≤ more) {text : List Char}
    (h : (text.drop more).any isBlank = true) : (text.drop limit).any isBlank = true := by
  obtain ⟨c, member, blank⟩ := List.any_eq_true.1 h
  exact List.any_eq_true.2 ⟨c, List.drop_subset_drop_left text le member, blank⟩

theorem Widens.covers (widens : options.Widens looser) (line : Line) :
    Covers (options.checkLine line) (looser.checkLine line) := by
  intro violation found
  obtain ⟨more, wide, reported⟩ := Option.bind_eq_some_iff.1 found
  obtain ⟨limit, le, narrow⟩ := widens.limitOf wide
  obtain ⟨⟨long, spread⟩, same⟩ := Option.ite_none_right_eq_some.1 reported
  have shorter : limit < line.text.length := by omega
  have beyond : options.strict = true ∨ (line.text.drop limit).any isBlank = true :=
    spread.imp widens.strict (any_drop_of_le le)
  rw [LineLength.checkLine, narrow, Option.bind_some, if_pos ⟨shorter, beyond⟩]
  cases same
  exact ⟨_, rfl, rfl⟩

end LineLength

/-- A hard line break that is allowed stays allowed when the rule is not strict. -/
theorem TrailingSpaces.hardBreak?_lax {options : TrailingSpaces} {length : Nat}
    (h : options.hardBreak? = some length) :
    { options with strict := false }.hardBreak? = some length := by
  obtain ⟨⟨two, -⟩, same⟩ := Option.ite_none_right_eq_some.1 h
  rw [hardBreak?, if_pos ⟨two, by simp⟩, same]

theorem TrailingSpaces.covers_lax (options : TrailingSpaces) (line : Line) :
    Covers (options.checkLine line) ({ options with strict := false }.checkLine line) := by
  intro violation found
  obtain ⟨reported, same⟩ := Option.ite_none_left_eq_some.1 found
  rw [checkLine, if_neg (mt (Or.imp_right (And.imp_left hardBreak?_lax)) reported)]
  cases same
  exact ⟨_, rfl, rfl⟩

theorem TrailingPunctuation.covers_fewer {options : TrailingPunctuation}
    {punctuation : List Char} (fewer : punctuation ⊆ options.punctuation) (line : Line)
    (heading : Heading) :
    Covers (options.checkHeading line heading)
      ({ options with punctuation := punctuation }.checkHeading line heading) := by
  intro violation found
  obtain ⟨last, ends, reported⟩ := Option.bind_eq_some_iff.1 found
  obtain ⟨⟨listed, bare⟩, same⟩ := Option.ite_none_right_eq_some.1 reported
  rw [checkHeading, ends, Option.bind_some, if_pos ⟨fewer listed, bare⟩]
  cases same
  exact ⟨_, rfl, rfl⟩

theorem MultipleBlanks.sublist_checkFrom {options : MultipleBlanks} {maximum : Nat}
    (more : options.maximum ≤ maximum) (blanks : Nat) (line : Line) :
    (({ options with maximum := maximum }.checkFrom blanks [line]).map Violation.line).Sublist
      ((options.checkFrom blanks [line]).map Violation.line) := by
  unfold checkFrom
  split
  · exact List.Sublist.refl _
  · by_cases exceeds : maximum < blanks + 1
    · have before : options.maximum < blanks + 1 := by omega
      rw [if_pos exceeds, if_pos before]
      exact List.Sublist.refl _
    · rw [if_neg exceeds]
      exact List.nil_sublist _

theorem HardTabs.sublist_checkLine (options : HardTabs) (line : Line) :
    ({ options with inCode := false }.checkLine line).Sublist (options.checkLine line) := by
  unfold checkLine
  by_cases code : line.kind.isCode = true
  · rw [if_pos ⟨code, by simp⟩]
    exact List.nil_sublist _
  · rw [if_neg (fun h => code h.1), if_neg (fun h => code h.1)]
    exact List.Sublist.refl _

/-- Apart from tabs, places are lines. -/
theorem sublist_map_place {id : RuleId} (other : id ≠ .hardTabs) {first second : List Violation}
    (h : (second.map Violation.line).Sublist (first.map Violation.line)) :
    (second.map (Violation.place id)).Sublist (first.map (Violation.place id)) := by
  have place : Violation.place id = (fun number => (number, none)) ∘ Violation.line := by
    funext violation
    rw [Violation.place, RuleId.columnOf, if_neg other, Function.comp_apply]
  rw [place, ← List.map_map, ← List.map_map]
  exact h.map _

namespace Rule

variable {rule looser : Rule}

theorem Loosens.id_eq (loosens : rule.Loosens looser) : looser.id = rule.id := by
  cases loosens <;> rfl

theorem Loosens.inner (loosens : rule.Loosens looser) : rule.id ≠ .finalNewline := by
  cases loosens <;> nofun

/-- Wherever the looser rule reports on a line, so does this one. -/
theorem Loosens.sublist_report (loosens : rule.Loosens looser) (memory : Memory) (line : Line) :
    ((looser.report memory line).map (Violation.place rule.id)).Sublist
      ((rule.report memory line).map (Violation.place rule.id)) := by
  cases loosens with
  | lineLength loosens =>
    exact sublist_map_place (by nofun) (loosens.widens.covers line).sublist
  | multipleBlanks more =>
    exact sublist_map_place (by nofun) (MultipleBlanks.sublist_checkFrom more memory.blanks line)
  | trailingSpaces options =>
    exact sublist_map_place (by nofun) (Line.sublist_onProse (options.covers_lax line))
  | hardTabs options => exact (options.sublist_checkLine line).map _
  | trailingPunctuation fewer =>
    exact sublist_map_place (by nofun)
      (Line.sublist_onHeading (TrailingPunctuation.covers_fewer fewer line))

theorem Loosens.sublist_scan (loosens : rule.Loosens looser) (memory : Memory)
    (lines : List Line) :
    ((looser.scan memory lines).map (Violation.place rule.id)).Sublist
      ((rule.scan memory lines).map (Violation.place rule.id)) := by
  induction lines generalizing memory with
  | nil => exact List.Sublist.refl _
  | cons line rest ih =>
    -- What is remembered of a line does not depend on the options, so both scans go on alike.
    rw [scan, scan, List.map_append, List.map_append]
    exact (loosens.sublist_report memory line).append (ih (memory.after line))

theorem Loosens.sublist_check (loosens : rule.Loosens looser) (doc : Document) :
    ((looser.check doc).map (Violation.place rule.id)).Sublist
      ((rule.check doc).map (Violation.place rule.id)) := by
  have inner : looser.id ≠ .finalNewline := loosens.id_eq ▸ loosens.inner
  rw [check_eq_scan inner, check_eq_scan loosens.inner]
  exact loosens.sublist_scan .none doc.lines

end Rule

/-- The places of findings follow from those of the violations: inline comments go by the line. -/
theorem ConfiguredRule.map_place_findings (configured : ConfiguredRule) (doc : Document) :
    (configured.findings doc).map Finding.place =
      (((configured.rule.check doc).map (Violation.place configured.id)).filter fun place =>
        !doc.suppresses place.1 configured.id).map (Prod.mk configured.id) := by
  rw [findings, List.map_map, List.filter_map, List.map_map]
  rfl

namespace Ruleset

variable {ruleset looser : Ruleset}

theorem Loosens.sublist_lint (loosens : ruleset.Loosens looser) (text : List Char) :
    ((looser.lint text).map Finding.place).Sublist ((ruleset.lint text).map Finding.place) := by
  obtain ⟨front, back, severity, loosened, before, after⟩ := loosens
  have changed := (loosened.sublist_check (.ofText text)).filter
  simp only [lint, before, after, List.flatMap_append, List.flatMap_cons, List.map_append]
  refine (List.Sublist.refl _).append (List.Sublist.append ?_ (List.Sublist.refl _))
  rw [ConfiguredRule.map_place_findings, ConfiguredRule.map_place_findings]
  simp only [ConfiguredRule.id, loosened.id_eq]
  exact (changed _).map _

theorem Loosens.overflows (loosens : ruleset.Loosens looser) {text : List Char}
    (h : looser.overflows text = true) : ruleset.overflows text = true := by
  obtain ⟨front, back, severity, loosened, before, after⟩ := loosens
  simp only [Ruleset.overflows, before, after, List.any_append, List.any_cons,
    Bool.or_eq_true] at h ⊢
  refine h.imp_right (Or.imp_left ?_)
  intro changed
  cases loosened with
  | hardTabs options =>
    obtain ⟨line, member, long⟩ := List.any_eq_true.1 changed
    obtain ⟨outside, run⟩ := Bool.and_eq_true_iff.1 long
    refine List.any_eq_true.2 ⟨line, member, Bool.and_eq_true_iff.2 ⟨?_, run⟩⟩
    exact Bool.or_eq_true_iff.2 (.inr outside)
  | _ => exact changed

end Ruleset

/-- When one option of one rule is loosened, what is found stands where the rule reported before, so the
findings do not become more. Nor can linting fail where it did not. -/
theorem lint_loosened {ruleset looser : Ruleset} (loosens : ruleset.Loosens looser)
    (text : List Char) :
    (looser.lint text).map Finding.place ⊆ (ruleset.lint text).map Finding.place ∧
      (looser.lint text).length ≤ (ruleset.lint text).length ∧
      (looser.overflows text = true → ruleset.overflows text = true) := by
  have places := loosens.sublist_lint text
  refine ⟨places.subset, ?_, loosens.overflows⟩
  simpa only [List.length_map] using places.length_le

def shortLines (limit : Nat) : Ruleset where
  rules := [⟨.hardTabs {}, .warning⟩, ⟨.multipleBlanks {}, .error⟩,
    ⟨.lineLength { limit := limit }, .error⟩]
  ordered := (by decide : [.hardTabs, .multipleBlanks, .lineLength].Sublist RuleId.all)

/-- The first line is too long for both limits, but its last blank stands between them. -/
theorem lint_loosened_shortLines :
    (shortLines 4).Loosens (shortLines 8) ∧
      ((shortLines 4).lint "ab cd efghi\n\tx\n\n\nabc defg hi".toList).map Finding.place =
        [(.hardTabs, 2, some 1), (.multipleBlanks, 4, none), (.lineLength, 1, none),
          (.lineLength, 5, none)] ∧
      ((shortLines 8).lint "ab cd efghi\n\tx\n\n\nabc defg hi".toList).map Finding.place =
        [(.hardTabs, 2, some 1), (.multipleBlanks, 4, none), (.lineLength, 5, none)] ∧
      ((shortLines 8).lint "ab cd efghi\n\tx\n\n\nabc defg hi".toList).length ≤
        ((shortLines 4).lint "ab cd efghi\n\tx\n\n\nabc defg hi".toList).length := by
  have loosens : (shortLines 4).Loosens (shortLines 8) :=
    .intro [⟨.hardTabs {}, .warning⟩, ⟨.multipleBlanks {}, .error⟩] [] .error
      (.lineLength (.limit (by decide))) rfl rfl
  exact ⟨loosens, by decide +kernel, by decide +kernel, (lint_loosened loosens _).2.1⟩

end DocCheck
