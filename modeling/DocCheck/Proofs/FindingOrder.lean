import DocCheck.Proofs.Quotations
import DocCheck.Proofs.RegistryOrder
import DocCheck.Ruleset.Standard

set_option autoImplicit false

namespace DocCheck

open Text

/-- Of two violations, the first stands on an earlier line, or on the same line with a range that
begins further left. -/
def Violation.Before (a b : Violation) : Prop :=
  a.line < b.line ∨
    a.line = b.line ∧ ∃ left ∈ a.range, ∃ right ∈ b.range, left.column < right.column

/-- Of two findings, the first is one of an earlier rule, or of the same rule and before the other. -/
def Finding.Before (a b : Finding) : Prop :=
  a.rule.position < b.rule.position ∨
    a.rule = b.rule ∧
      (a.line < b.line ∨
        a.line = b.line ∧ ∃ left ∈ a.range, ∃ right ∈ b.range, left.column < right.column)

theorem Finding.not_before_self (finding : Finding) : ¬ finding.Before finding := by
  intro before
  rcases before with place | ⟨-, line | ⟨-, left, hl, right, hr, column⟩⟩
  · omega
  · omega
  · have same : left = right := Option.some.inj (hl.symm.trans hr)
    rw [same] at column
    omega

theorem pairwise_toList {α : Type} (r : α → α → Prop) (one : Option α) : one.toList.Pairwise r := by
  cases one with
  | none => exact .nil
  | some a => exact List.pairwise_singleton r a

theorem Line.pairwise_onHeading (line : Line) (check : Heading → Option Violation) :
    (line.onHeading check).Pairwise Violation.Before :=
  pairwise_toList _ _

theorem Line.pairwise_onProse (line : Line) (check : Line → Option Violation) :
    (line.onProse check).Pairwise Violation.Before := by
  unfold onProse
  split
  · exact .nil
  · exact pairwise_toList _ _

theorem HeadingIncrement.pairwise_checkFrom (previous : Option Nat) (line : Line)
    (heading : Option Heading) :
    (checkFrom previous (heading.toList.map fun h => (line, h))).Pairwise Violation.Before := by
  cases heading with
  | none => exact .nil
  | some heading =>
    simp only [Option.toList_some, List.map_cons, List.map_nil, checkFrom, List.append_nil]
    cases previous with
    | none => exact .nil
    | some level =>
      simp only
      split
      · exact List.pairwise_singleton ..
      · exact .nil

theorem MultipleBlanks.pairwise_checkFrom (options : MultipleBlanks) (blanks : Nat) (line : Line) :
    (options.checkFrom blanks [line]).Pairwise Violation.Before := by
  simp only [checkFrom]
  split
  · exact .nil
  · split
    · exact List.pairwise_singleton ..
    · exact .nil

/-- The runs of tabs on a line are reported from left to right. -/
theorem HardTabs.pairwise_checkLine (options : HardTabs) (line : Line) :
    (options.checkLine line).Pairwise Violation.Before := by
  unfold checkLine
  split
  · exact .nil
  · rw [List.pairwise_map]
    apply (pairwise_runsFrom (Nat.le_refl 0) line.text).imp
    intro a b apart
    have column : a.column < b.column := by omega
    exact .inr ⟨rfl, a, rfl, b, rfl, column⟩

namespace Rule

/-- Only on tabs does a rule report more than once on a line. -/
theorem pairwise_report (rule : Rule) (memory : Memory) (line : Line) :
    (rule.report memory line).Pairwise Violation.Before := by
  cases rule with
  | headingIncrement options => exact HeadingIncrement.pairwise_checkFrom _ line line.heading?
  | trailingSpaces options => exact line.pairwise_onProse _
  | hardTabs options => exact options.pairwise_checkLine line
  | multipleBlanks options => exact options.pairwise_checkFrom memory.blanks line
  | lineLength options => exact pairwise_toList _ _
  | missingSpace options => exact line.pairwise_onProse _
  | multipleSpace options => exact line.pairwise_onHeading _
  | headingStart options => exact line.pairwise_onHeading _
  | singleTitle options => exact line.pairwise_onHeading _
  | trailingPunctuation options => exact line.pairwise_onHeading _
  | fenceLanguage options => exact pairwise_toList _ _
  | finalNewline options => exact .nil

/-- Along lines with rising numbers a rule reports line by line. -/
theorem pairwise_scan (rule : Rule) (memory : Memory) {lines : List Line}
    (rising : lines.Pairwise fun a b => a.number < b.number) :
    (rule.scan memory lines).Pairwise Violation.Before := by
  induction lines generalizing memory with
  | nil => exact .nil
  | cons line rest ih =>
    obtain ⟨first, rising⟩ := List.pairwise_cons.1 rising
    rw [scan, List.pairwise_append]
    refine ⟨rule.pairwise_report memory line, ih (memory.after line) rising, ?_⟩
    intro here reported later found
    obtain ⟨other, member, about⟩ := about_of_mem_scan found
    have number : here.line = line.number := (about_of_mem_report reported).number
    apply Or.inl
    rw [number, about.number]
    exact first other member

theorem pairwise_check (rule : Rule) (text : List Char) :
    (rule.check (.ofText text)).Pairwise Violation.Before := by
  by_cases inner : rule.id = .finalNewline
  · cases rule with
    | finalNewline options =>
      simp only [check, FinalNewline.check]
      split
      · exact .nil
      · split
        · exact .nil
        · exact List.pairwise_singleton ..
    | _ => cases inner
  · rw [check_eq_scan inner]
    exact rule.pairwise_scan .none (Line.pairwise_number text)

end Rule

namespace ConfiguredRule

theorem rule_of_mem_findings {configured : ConfiguredRule} {doc : Document} {finding : Finding}
    (h : finding ∈ configured.findings doc) : finding.rule = configured.id := by
  obtain ⟨violation, -, rfl⟩ := List.mem_map.1 h
  rfl

theorem pairwise_findings (configured : ConfiguredRule) (text : List Char) :
    (configured.findings (.ofText text)).Pairwise Finding.Before := by
  rw [findings, List.pairwise_map]
  apply ((configured.rule.pairwise_check text).filter _).imp
  intro a b before
  exact .inr ⟨rfl, before⟩

end ConfiguredRule

namespace Ruleset

theorem pairwise_lint (ruleset : Ruleset) (text : List Char) :
    (ruleset.lint text).Pairwise Finding.Before := by
  rw [lint, List.pairwise_flatMap]
  refine ⟨fun configured _ => configured.pairwise_findings text, ?_⟩
  apply ruleset.ascends.imp
  intro first second place a found b later
  apply Or.inl
  rw [ConfiguredRule.rule_of_mem_findings found, ConfiguredRule.rule_of_mem_findings later]
  exact place

theorem line_of_mem_lint {ruleset : Ruleset} {text : List Char} {finding : Finding}
    (h : finding ∈ ruleset.lint text) :
    1 ≤ finding.line ∧ finding.line ≤ (lines text).length := by
  obtain ⟨configured, -, violation, reported, -, rfl⟩ := mem_lint.1 h
  obtain ⟨line, member, about⟩ := Rule.about_of_mem_check reported
  show 1 ≤ violation.line ∧ violation.line ≤ (lines text).length
  rw [about.number]
  exact ⟨(Line.getElem?_of_mem_ofText member).1, Line.number_le_of_mem_ofText member⟩

/-- The findings of an enabled rule are those that it has in the document. -/
theorem filter_lint_id {ruleset : Ruleset} {configured : ConfiguredRule}
    (enabled : configured ∈ ruleset.rules) (text : List Char) :
    ((ruleset.lint text).filter fun finding => finding.rule = configured.id) =
      configured.findings (.ofText text) := by
  have own := ruleset.filter_lint text fun id => id = configured.id
  rw [own, filter_rules_id enabled, List.flatMap_singleton]

end Ruleset

/-- The findings of a text stand in the order of the rules, those of a rule in the order of the lines,
and those on a line in the order of their columns, so no finding stands twice. Each is about a line
of the text. A rule that two rulesets configure alike finds the same under both. -/
theorem lint_ordered (ruleset : Ruleset) (text : List Char) :
    (ruleset.lint text).Pairwise Finding.Before ∧
    (ruleset.lint text).Nodup ∧
    (∀ finding ∈ ruleset.lint text, 1 ≤ finding.line ∧ finding.line ≤ (lines text).length) ∧
    ∀ other : Ruleset, ∀ configured ∈ ruleset.rules, configured ∈ other.rules →
      ((ruleset.lint text).filter fun finding => finding.rule = configured.id) =
        (other.lint text).filter fun finding => finding.rule = configured.id := by
  have ordered := ruleset.pairwise_lint text
  refine ⟨ordered, ?_, fun finding found => Ruleset.line_of_mem_lint found, ?_⟩
  · apply ordered.imp
    rintro a b before rfl
    exact a.not_before_self before
  · intro other configured here there
    rw [Ruleset.filter_lint_id here, Ruleset.filter_lint_id there]

/-- Two runs of tabs on one line and a title without a space, under rulesets that differ in all other
rules. -/
theorem lint_ordered_tabs :
    (⟨.hardTabs {}, .error⟩ : ConfiguredRule) ∈ Ruleset.all.rules ∧
    (Ruleset.all.lint "#A\tb\tc".toList).map (fun finding => (finding.rule.code, finding.line,
      finding.range.map Span.column)) =
        [("MD010", 1, some 3), ("MD010", 1, some 5), ("MD018", 1, some 1), ("MD047", 1, some 7)] ∧
    (Ruleset.all.lint "#A\tb\tc".toList).Pairwise Finding.Before ∧
    ((Ruleset.all.lint "#A\tb\tc".toList).filter fun finding => finding.rule = .hardTabs) =
      (Ruleset.embedded.lint "#A\tb\tc".toList).filter fun finding => finding.rule = .hardTabs := by
  have enabled : (⟨.hardTabs {}, .error⟩ : ConfiguredRule) ∈ Ruleset.all.rules := by decide
  have ordered := lint_ordered .all "#A\tb\tc".toList
  exact ⟨enabled, by decide +kernel, ordered.1, ordered.2.2.2 .embedded _ enabled (by decide)⟩

end DocCheck
