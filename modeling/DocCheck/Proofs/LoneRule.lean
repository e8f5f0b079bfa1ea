import DocCheck.Proofs.Convergence
import DocCheck.Proofs.PlainEdits

set_option autoImplicit false

namespace DocCheck.Ruleset

open Text

variable {ruleset : Ruleset} {text : List Char} {line : Line}

/-- Edits that lie apart and end no line are all carried out. -/
theorem acting_eq (stored : Stored text) (member : line ∈ Line.ofText text)
    (kept : ruleset.deletes text line = false) {distinct : List Edit}
    (apart : distinct.Pairwise Edit.Apart)
    (same : ∀ edit, ruleset.Asks text line edit ↔ edit ∈ distinct)
    (inner : newline line ∉ distinct) : ruleset.acting text line = distinct := by
  have all : Edit.effective (Edit.onLine line.number (ruleset.edits text)) = distinct := by
    refine Edit.effective_eq (fun _ => fits_onLine stored member kept)
      (Edit.pairwise_start_onLine fun _ found => (fits_onLine stored member kept found).keeps)
      apart fun edit => ?_
    rw [mem_onLine_edits member, same]
  rw [acting, all, List.filter_eq_self]
  intro edit found
  rw [decide_eq_true_iff]
  rintro rfl
  exact inner found

theorem mended_eq_self (member : line ∈ Line.ofText text)
    (none : ∀ edit, ¬ ruleset.Asks text line edit) : ruleset.mended text line = line.text := by
  have idle : ruleset.acting text line = [] := by
    rw [List.eq_nil_iff_forall_not_mem]
    intro edit found
    have considered := Edit.mem_of_mem_effective (List.mem_filter.1 found).1
    exact none edit ((mem_onLine_edits member).1 considered)
  rw [mended, idle, Edit.splice]

/-- Where no rule works on whole lines, every line is mended in its place. -/
theorem lines_repair_of_off (stored : Stored text)
    (blanks : ruleset.enables .multipleBlanks = false)
    (newline : ruleset.enables .finalNewline = false) :
    lines (repair text (ruleset.lint text)) =
      (Line.ofText text).map (ruleset.mended text) := by
  rw [lines_repair_of_none_ends stored fun line => ends_eq_false_of_off newline,
    kept_eq_self blanks, if_neg (Line.ofText_ne_nil text)]

section Alone

variable {configured : ConfiguredRule} (alone : ruleset.rules = [configured])

include alone

theorem asks_iff_of_alone {edit : Edit} :
    ruleset.Asks text line edit ↔
      (Document.ofText text).suppresses line.number configured.id = false ∧
        Mends (.ofText text) line configured.rule edit := by
  simp [Asks, alone]

theorem enables_of_alone (id : RuleId) : ruleset.enables id = decide (id = configured.id) := by
  simp [enables, alone]

end Alone

end DocCheck.Ruleset
