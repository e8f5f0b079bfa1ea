import DocCheck.Edit

set_option autoImplicit false

namespace DocCheck.Edit

theorem precedes_total (a b : Edit) : (precedes a b || precedes b a) = true := by
  simp only [precedes, Bool.or_eq_true]
  grind

theorem precedes_trans (a b c : Edit) (ab : precedes a b = true) (bc : precedes b c = true) :
    precedes a c = true := by
  simp only [precedes] at *
  grind

theorem line_le_of_precedes {a b : Edit} (h : precedes a b = true) : b.line ≤ a.line := by
  simp only [precedes] at h
  grind

theorem start_le_of_precedes {a b : Edit} (h : precedes a b = true) (same : a.line = b.line)
    (kept : b.deletesLine = false) : b.start ≤ a.start := by
  simp only [precedes, start] at *
  grind

theorem dropRepeats_sublist (edits : List Edit) : (dropRepeats edits).Sublist edits := by
  fun_induction dropRepeats edits with
  | case1 a rest ih => exact ih.cons a
  | case2 a b rest _ ih => exact ih.cons_cons a
  | case3 edits _ => exact List.Sublist.refl edits

theorem mem_dropRepeats {edit : Edit} {edits : List Edit} :
    edit ∈ dropRepeats edits ↔ edit ∈ edits := by
  fun_induction dropRepeats edits with
  | case1 a rest ih => simp [ih]
  | case2 a b rest _ ih => simp [ih]
  | case3 edits _ => exact Iff.rfl

@[simp] theorem mem_schedule {edit : Edit} {edits : List Edit} :
    edit ∈ schedule edits ↔ edit ∈ edits := by
  rw [schedule, mem_dropRepeats, List.mem_mergeSort]

theorem pairwise_schedule (edits : List Edit) :
    (schedule edits).Pairwise fun a b => precedes a b = true :=
  (List.pairwise_mergeSort precedes_trans precedes_total edits).sublist (dropRepeats_sublist _)

theorem pairwise_line_schedule (edits : List Edit) :
    (schedule edits).Pairwise fun a b => b.line ≤ a.line :=
  (pairwise_schedule edits).imp line_le_of_precedes

/-- The edits of line `number`, as they are considered. -/
def onLine (number : Nat) (edits : List Edit) : List Edit :=
  (schedule edits).filter (·.line = number)

theorem mem_onLine {edit : Edit} {number : Nat} {edits : List Edit} :
    edit ∈ onLine number edits ↔ edit ∈ edits ∧ edit.line = number := by
  simp [onLine]

/-- Where no edit deletes the line, its edits are considered from right to left. -/
theorem pairwise_start_onLine {number : Nat} {edits : List Edit}
    (kept : ∀ edit ∈ onLine number edits, edit.deletesLine = false) :
    (onLine number edits).Pairwise fun a b => b.start ≤ a.start := by
  refine List.Pairwise.imp_of_mem ?_ ((pairwise_schedule edits).filter _)
  intro a b ha hb precedes
  exact start_le_of_precedes precedes ((mem_onLine.1 ha).2.trans (mem_onLine.1 hb).2.symm)
    (kept b hb)

end DocCheck.Edit
