import DocCheck.Proofs.EditOrder
import DocCheck.Proofs.LineRules
import DocCheck.Proofs.LineScan

set_option autoImplicit false

namespace DocCheck

open Text

namespace Edit

variable {edits others : List Edit} {number : Nat}

section Own

variable (same : edits.filter (·.line = number) = others.filter (·.line = number))

include same

theorem forall_own_congr {motive : Edit → Prop} :
    (∀ other ∈ edits, other.line = number → motive other) ↔
      ∀ other ∈ others, other.line = number → motive other := by
  have own (list : List Edit) : (∀ other ∈ list, other.line = number → motive other) ↔
      ∀ other ∈ list.filter (·.line = number), motive other := by
    simp only [List.mem_filter, decide_eq_true_eq, and_imp]
  rw [own, own, same]

theorem leads_congr {edit : Edit} (here : edit.line = number) :
    Leads edits edit ↔ Leads others edit := by
  subst here
  have first (list : List Edit) : list.find? (fun other => other.line = edit.line ∧
      other.start = edit.start ∧ other.precedes edit = true) =
        (list.filter (·.line = edit.line)).find? fun other => other.line = edit.line ∧
          other.start = edit.start ∧ other.precedes edit = true := by
    rw [List.find?_filter]
    congr 1
    funext other
    by_cases own : other.line = edit.line <;> simp [own]
  unfold Leads
  rw [first edits, first others, same, forall_own_congr same]

/-- What is carried out on a line that is kept is up to the edits of that line. -/
theorem carried_congr (words : InWords edits) (words' : InWords others) (keeps : Keeps number edits) :
    carried number edits = carried number others := by
  have keeps' : Keeps number others := (forall_own_congr same).1 keeps
  apply List.reverse_injective
  apply (List.pairwise_reverse.2 (pairwise_carried words keeps)).eq_of_mem_iff
    (List.pairwise_reverse.2 (pairwise_carried words' keeps'))
  intro edit
  rw [List.mem_reverse, List.mem_reverse, mem_carried_iff words keeps, mem_carried_iff words' keeps']
  apply and_congr_right
  intro here
  rw [leads_congr same here, forall_own_congr same]

end Own

end Edit

namespace Ruleset

def without (ruleset : Ruleset) (id : RuleId) : Ruleset where
  rules := ruleset.rules.filter fun configured => configured.id ≠ id
  ordered := (List.filter_sublist.map _).trans ruleset.ordered

variable {ruleset : Ruleset} {text : List Char} {line : Line} {id : RuleId}

theorem lint_without (ruleset : Ruleset) (id : RuleId) (text : List Char) :
    (ruleset.without id).lint text = (ruleset.lint text).filter fun finding => finding.rule ≠ id :=
  (ruleset.filter_lint text fun other => other ≠ id).symm

/-- The lines that are deleted are those that are reported as blank lines too many. -/
theorem deletes_eq_reports (member : line ∈ Line.ofText text) :
    ruleset.deletes text line = ruleset.reports .multipleBlanks text line := by
  rw [Bool.eq_iff_iff, deletes_iff member, reports_iff_mends rfl member]
  constructor
  · rintro ⟨configured, enabled, left, mends⟩
    have same := (mends.of_deletes rfl).1
    refine ⟨configured, enabled, same, ?_, _, mends⟩
    rwa [ConfiguredRule.id, same] at left
  · rintro ⟨configured, enabled, same, left, edit, mends⟩
    refine ⟨configured, enabled, by rwa [ConfiguredRule.id, same], ?_⟩
    generalize configured.rule = rule at same mends
    cases mends with
    | blank prose blank found => exact .blank prose blank found
    | _ => cases same

/-- The line that is ended is the last one where the rule on the end of the last line reports it. -/
theorem ends_iff_reported (last : (Line.ofText text).getLast? = some line) :
    ruleset.ends text line = true ↔ ruleset.reported .finalNewline text ≠ [] := by
  have member := List.mem_of_getLast? last
  rw [ends_iff member]
  constructor
  · rintro ⟨configured, enabled, left, mends⟩
    have same := (mends.of_mem_insert (List.mem_singleton.2 rfl)).1
    have reports := reports_of_mends member enabled left mends
    rw [ConfiguredRule.id, same] at reports
    intro none
    rw [Ruleset.reports, none] at reports
    cases reports
  · intro some
    obtain ⟨finding, found⟩ := List.exists_mem_of_ne_nil _ some
    obtain ⟨found, same⟩ := List.mem_filter.1 found
    obtain ⟨configured, enabled, violation, reported, left, rfl⟩ := mem_lint.1 found
    have same : configured.rule.id = .finalNewline := of_decide_eq_true same
    obtain ⟨edit, carried⟩ := exists_edit_of_mem_check (by rw [same]; rfl) reported
    obtain ⟨other, there, number, mends⟩ := exists_mends reported carried
    rw [number] at left
    have asks : ruleset.Asks text other edit := ⟨configured, enabled, left, mends⟩
    clear carried reported found
    generalize configured.rule = rule at same mends
    cases mends with
    | unended here filled =>
      obtain rfl := Option.some.inj (here.symm.trans last)
      exact asks
    | _ => cases same

/-- A line is ended exactly when the end of the last line is reported and that line is kept. -/
theorem any_ends_iff :
    (ruleset.kept text).any (ruleset.ends text) = true ↔
      ruleset.reported .finalNewline text ≠ [] ∧
        ∀ last ∈ (Line.ofText text).getLast?,
          ruleset.reports .multipleBlanks text last = false := by
  rw [List.any_eq_true]
  constructor
  · rintro ⟨line, found, ends⟩
    obtain ⟨member, kept⟩ := mem_kept.1 found
    obtain ⟨last, -⟩ := getLast?_of_ends member ends
    refine ⟨(ends_iff_reported last).1 ends, fun other there => ?_⟩
    obtain rfl := Option.some.inj (last.symm.trans there)
    rw [← deletes_eq_reports member, kept]
  · rintro ⟨reported, kept⟩
    obtain ⟨last, found⟩ :=
      Option.isSome_iff_exists.1 (List.getLast?_isSome.2 (Line.ofText_ne_nil text))
    have member := List.mem_of_getLast? found
    refine ⟨last, mem_kept.2 ⟨member, ?_⟩, (ends_iff_reported found).2 reported⟩
    rw [deletes_eq_reports member, kept last found]

/-- A line without fixable findings is left as it is. -/
theorem mended_eq_self_of_not_fixable (member : line ∈ Line.ofText text)
    (none : ∀ finding ∈ ruleset.lint text, finding.line = line.number →
      finding.isFixable = false) : ruleset.mended text line = line.text := by
  refine mended_eq_self member ?_
  rintro edit ⟨configured, enabled, left, mends⟩
  obtain ⟨violation, reported, number, carried⟩ := mends.exists_violation member
  rw [← number] at left
  have fixable : configured.id.fixable = true := mends.fixable
  have silent := none _ (mem_lint.2 ⟨configured, enabled, violation, reported, left, rfl⟩) number
  simp [Finding.isFixable, Finding.ofViolation, fixable, carried] at silent

section Suppressed

variable (off : (Document.ofText text).suppresses line.number id = true)

include off

/-- A rule that is off on a line has no part in what is reported there. -/
theorem reports_without (other : RuleId) :
    (ruleset.without id).reports other text line = ruleset.reports other text line := by
  rw [Bool.eq_iff_iff, reports_iff, reports_iff]
  constructor
  · rintro ⟨configured, enabled, found⟩
    exact ⟨configured, (List.mem_filter.1 enabled).1, found⟩
  · rintro ⟨configured, enabled, same, left, found⟩
    refine ⟨configured, List.mem_filter.2 ⟨enabled, ?_⟩, same, left, found⟩
    rw [decide_eq_true_iff]
    rintro rfl
    rw [← same, ← ConfiguredRule.id, off] at left
    cases left

theorem filter_edits_without :
    ((ruleset.without id).edits text).filter (·.line = line.number) =
      (ruleset.edits text).filter (·.line = line.number) := by
  rw [edits, edits, lint_without, List.filter_filterMap, List.filter_filterMap,
    List.filterMap_filter]
  refine List.filterMap_congr fun finding found => ?_
  split
  · rfl
  · rename_i same
    obtain ⟨configured, enabled, violation, reported, left, rfl⟩ := mem_lint.1 found
    have same : (Finding.ofViolation configured violation).rule = id := by simpa using same
    obtain rfl : configured.id = id := same
    symm
    rw [Option.filter_eq_none_iff]
    intro edit carried here
    rw [Finding.ofViolation] at carried
    split at carried
    · obtain ⟨other, -, number, mends⟩ := exists_mends reported carried
      rw [decide_eq_true_iff, mends.line_eq, ← number] at here
      rw [here, off] at left
      cases left
    · cases carried

theorem mended_without (stored : Stored text) (member : line ∈ Line.ofText text)
    (kept : ruleset.reports .multipleBlanks text line = false) :
    (ruleset.without id).mended text line = ruleset.mended text line := by
  have keeps : Edit.Keeps line.number (ruleset.edits text) := by
    rw [← deletes_eq_reports member] at kept
    intro edit found here
    exact (fits_onLine stored member kept (Edit.mem_onLine.2 ⟨found, here⟩)).keeps
  have alike := Edit.carried_congr (filter_edits_without off).symm (inWords_edits stored)
    (inWords_edits stored) keeps
  unfold Edit.carried at alike
  rw [mended, mended, acting, acting, Edit.effective, Edit.effective, alike]

end Suppressed

theorem lines_repair_eq_map (stored : Stored text)
    (some : ∃ line ∈ Line.ofText text, ruleset.reports .multipleBlanks text line = false) :
    lines (repair text (ruleset.lint text)) =
      ((Line.ofText text).filter fun line => !ruleset.reports .multipleBlanks text line).map
          (ruleset.mended text) ++
        if ruleset.reported .finalNewline text ≠ [] ∧
            ∀ last ∈ (Line.ofText text).getLast?, ruleset.reports .multipleBlanks text last = false
          then [[]] else [] := by
  have kept : ruleset.kept text =
      (Line.ofText text).filter fun line => !ruleset.reports .multipleBlanks text line := by
    rw [Ruleset.kept]
    exact List.filter_congr fun line member => by rw [deletes_eq_reports member]
  have filled : ruleset.repairedLines text ≠ [] := by
    obtain ⟨line, member, stays⟩ := some
    have listed : line ∈ ruleset.kept text :=
      mem_kept.2 ⟨member, (deletes_eq_reports member).trans stays⟩
    rw [repairedLines_eq]
    exact List.append_ne_nil_of_left_ne_nil
      (List.ne_nil_of_mem (List.mem_map_of_mem listed)) _
  rw [lines_repair stored, if_neg filled, repairedLines_eq, ← kept]
  simp only [any_ends_iff]

end Ruleset

/-- Where some line is not reported as one blank line too many, the repaired text holds the lines that
are not, in their order, and one more, empty line exactly when the end of the last line is reported and
that line is not such a blank line. A line without fixable findings stays as it was. A rule that is off
on a line has no part in what becomes of the line, and where every enabled rule is off it stays. -/
theorem lines_repair_reported (ruleset : Ruleset) (text : List Char) (stored : Stored text)
    (some : ∃ line ∈ Line.ofText text, ruleset.reports .multipleBlanks text line = false) :
    lines (repair text ((ruleset.lint text).filter Finding.isFixable)) =
        (((Line.ofText text).filter fun line => !ruleset.reports .multipleBlanks text line).map
            (ruleset.mended text) ++
          if ruleset.reported .finalNewline text ≠ [] ∧
              ∀ last ∈ (Line.ofText text).getLast?, ruleset.reports .multipleBlanks text last = false
            then [[]] else []) ∧
      ∀ line ∈ Line.ofText text,
        ((∀ finding ∈ ruleset.lint text, finding.line = line.number →
            finding.isFixable = false) → ruleset.mended text line = line.text) ∧
          (∀ id, (Document.ofText text).suppresses line.number id = true →
            (ruleset.without id).reports .multipleBlanks text line =
                ruleset.reports .multipleBlanks text line ∧
              (ruleset.reports .multipleBlanks text line = false →
                (ruleset.without id).mended text line = ruleset.mended text line)) ∧
          ((∀ configured ∈ ruleset.rules,
              (Document.ofText text).suppresses line.number configured.id = true) →
            ruleset.reports .multipleBlanks text line = false ∧
              ruleset.mended text line = line.text) := by
  rw [repair_filter_isFixable]
  refine ⟨Ruleset.lines_repair_eq_map stored some, fun line member => ⟨?_, ?_, ?_⟩⟩
  · exact Ruleset.mended_eq_self_of_not_fixable member
  · exact fun id off => ⟨Ruleset.reports_without off _, Ruleset.mended_without off stored member⟩
  · intro off
    have silent (edit : Edit) : ¬ ruleset.Asks text line edit := by
      rintro ⟨configured, enabled, left, -⟩
      rw [off configured enabled] at left
      cases left
    refine ⟨?_, Ruleset.mended_eq_self member silent⟩
    rw [← Ruleset.deletes_eq_reports member, ← Bool.not_eq_true, Ruleset.deletes_iff member]
    exact silent _

def tidyingLines : Ruleset :=
  ⟨[⟨.hardTabs {}, .error⟩, ⟨.multipleBlanks {}, .error⟩, ⟨.missingSpace {}, .error⟩,
    ⟨.finalNewline {}, .error⟩], by decide⟩

/-- A tab that goes, a blank line too many, a tab on a line where every rule is off, and a last line
that lacks a space and its end. -/
def switched : List Char :=
  "\ta\n\n\n\t<!-- markdownlint-disable-line -->\n#d".toList

theorem lines_repair_reported_switched :
    lines (repair switched ((tidyingLines.lint switched).filter Finding.isFixable)) =
      [" a", "", "\t<!-- markdownlint-disable-line -->", "# d", ""].map String.toList := by
  have edits : tidyingLines.edits switched =
      [⟨1, 1, .chars 1, [' ']⟩, .deletingLine 3, .inserting 5 2 [' '], .inserting 5 3 ['\n']] := by
    decide +kernel
  have kept : ((Line.ofText switched).filter fun line =>
      !tidyingLines.reports .multipleBlanks switched line) =
        [⟨1, ['\t', 'a'], .prose⟩, ⟨2, [], .prose⟩,
          ⟨4, "\t<!-- markdownlint-disable-line -->".toList, .prose⟩, ⟨5, ['#', 'd'], .prose⟩] := by
    decide +kernel
  have first : ⟨1, ['\t', 'a'], .prose⟩ ∈ (Line.ofText switched).filter fun line =>
      !tidyingLines.reports .multipleBlanks switched line := by
    rw [kept]
    exact List.mem_cons_self ..
  obtain ⟨member, stays⟩ := List.mem_filter.1 first
  obtain ⟨made, -⟩ := lines_repair_reported tidyingLines switched (by decide)
    ⟨_, member, by simpa using stays⟩
  rw [made, kept, if_pos (by decide +kernel)]
  simp only [Ruleset.mended, Ruleset.acting, edits, List.map_cons, List.map_nil]
  cbv

end DocCheck
