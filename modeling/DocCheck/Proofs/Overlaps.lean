import DocCheck.Proofs.LeadingEdits
import Mathlib.Data.List.Induction

/-!
Which edits of a line are dropped. Main statement: an edit is carried out when it keeps clear of every
edit considered before it, one that was dropped included; so of the edits that a choice among those
carried out would admit, some can be lost.
-/

set_option autoImplicit false

namespace DocCheck

open Text

namespace Edit

/-- The edits of line `number` that keep it, in the order in which they are considered: from right to
left, at one column the longer insertion first, and else as they are given. -/
def ordered (number : Nat) (edits : List Edit) : List Edit :=
  (edits.filter fun edit => edit.line = number && !edit.deletesLine).mergeSort precedes

/-- Of edits considered one by one, those that keep clear of all that were considered before them. -/
def unobstructed (seen : List Edit) : List Edit → List Edit
  | [] => []
  | edit :: rest =>
    if ∀ other ∈ seen, edit.ClearOf other then edit :: unobstructed (edit :: seen) rest
    else unobstructed (edit :: seen) rest

/-- Of edits considered one by one, those that keep clear of all that were chosen before them. -/
def chosen (before : List Edit) : List Edit → List Edit
  | [] => []
  | edit :: rest =>
    if ∀ other ∈ before, edit.ClearOf other then edit :: chosen (edit :: before) rest
    else chosen before rest

section Admission

variable {edits front back : List Edit} {edit : Edit}

theorem unobstructed_append (seen front back : List Edit) :
    unobstructed seen (front ++ back) =
      unobstructed seen front ++ unobstructed (front.reverse ++ seen) back := by
  induction front generalizing seen with
  | nil => rfl
  | cons edit rest ih =>
    rw [List.cons_append, unobstructed, unobstructed, ih, List.reverse_cons, List.append_assoc,
      List.singleton_append]
    split <;> rfl

theorem chosen_append (before front back : List Edit) :
    chosen before (front ++ back) =
      chosen before front ++ chosen ((chosen before front).reverse ++ before) back := by
  induction front generalizing before with
  | nil => rfl
  | cons edit rest ih =>
    rw [List.cons_append, chosen, chosen]
    split
    · rw [ih, List.reverse_cons, List.append_assoc, List.singleton_append, List.cons_append]
    · exact ih before

theorem unobstructed_concat (front : List Edit) (edit : Edit) :
    unobstructed [] (front ++ [edit]) =
      unobstructed [] front ++ if ∀ other ∈ front, edit.ClearOf other then [edit] else [] := by
  rw [unobstructed_append, unobstructed, unobstructed]
  simp

theorem chosen_concat (front : List Edit) (edit : Edit) :
    chosen [] (front ++ [edit]) =
      chosen [] front ++ if ∀ other ∈ chosen [] front, edit.ClearOf other then [edit] else [] := by
  rw [chosen_append, chosen, chosen, chosen]
  simp

theorem chosen_sublist (before edits : List Edit) : (chosen before edits).Sublist edits := by
  fun_induction chosen before edits with
  | case1 => exact List.Sublist.slnil
  | case2 before edit rest _ ih => exact ih.cons_cons edit
  | case3 before edit rest _ ih => exact ih.cons edit

/-- What is clear of all edits before it is clear of those chosen among them. -/
theorem unobstructed_sublist {seen before : List Edit} (subset : before ⊆ seen)
    (edits : List Edit) : (unobstructed seen edits).Sublist (chosen before edits) := by
  induction edits generalizing seen before with
  | nil => exact List.Sublist.slnil
  | cons edit rest ih =>
    rw [unobstructed, chosen]
    by_cases clear : ∀ other ∈ seen, edit.ClearOf other
    · have chosen : ∀ other ∈ before, edit.ClearOf other := fun other found =>
        clear other (subset found)
      rw [if_pos clear, if_pos chosen]
      exact (ih (List.cons_subset_cons edit subset)).cons_cons edit
    · rw [if_neg clear]
      split
      · exact (ih (List.cons_subset_cons edit subset)).cons edit
      · exact ih (List.subset_cons_of_subset edit subset)

theorem clearOf_of_mem_unobstructed {seen : List Edit} (found : edit ∈ unobstructed seen edits) :
    ∀ other ∈ seen, edit.ClearOf other := by
  fun_induction unobstructed seen edits with
  | case1 => cases found
  | case2 seen first rest clear ih =>
    rcases List.mem_cons.1 found with rfl | found
    · exact clear
    · exact (List.forall_mem_cons.1 (ih found)).2
  | case3 seen first rest _ ih => exact (List.forall_mem_cons.1 (ih found)).2

theorem pairwise_unobstructed (seen edits : List Edit) :
    (unobstructed seen edits).Pairwise fun a b => b.ClearOf a := by
  fun_induction unobstructed seen edits with
  | case1 => exact List.Pairwise.nil
  | case2 seen edit rest _ ih =>
    refine List.pairwise_cons.2 ⟨?_, ih⟩
    intro other found
    exact clearOf_of_mem_unobstructed found edit (List.mem_cons_self ..)
  | case3 seen edit rest _ ih => exact ih

theorem unobstructed_eq_chosen_of_append
    (equal : unobstructed [] (front ++ back) = chosen [] (front ++ back)) :
    unobstructed [] front = chosen [] front := by
  have first : (unobstructed [] front).Sublist (chosen [] front) :=
    unobstructed_sublist (List.Subset.refl []) front
  have subset : (chosen [] front).reverse ++ [] ⊆ front.reverse ++ [] := by
    simpa using (chosen_sublist [] front).subset
  have second := (unobstructed_sublist subset back).length_le
  rw [unobstructed_append, chosen_append] at equal
  have lengths := congrArg List.length equal
  rw [List.length_append, List.length_append] at lengths
  have le := first.length_le
  apply first.eq_of_length
  omega

/-- Dropped edits obstruct nothing exactly when each edit that is clear of those carried out before it
is clear of all others before it as well. -/
theorem unobstructed_eq_chosen_iff (edits : List Edit) :
    unobstructed [] edits = chosen [] edits ↔
      ∀ front edit back, edits = front ++ edit :: back →
        (∀ other ∈ unobstructed [] front, edit.ClearOf other) →
          ∀ other ∈ front, edit.ClearOf other := by
  constructor
  · rintro equal front edit back rfl clear
    have before := unobstructed_eq_chosen_of_append equal
    rw [List.append_cons] at equal
    have here := unobstructed_eq_chosen_of_append equal
    rw [before] at clear
    rw [unobstructed_concat, chosen_concat, if_pos clear, before] at here
    by_contra obstructed
    rw [if_neg obstructed] at here
    simp at here
  · intro free
    -- From the last edit on: each is compared with all that stand before it.
    induction edits using List.reverseRecOn with
    | nil => rfl
    | append_singleton front edit ih =>
      have before : unobstructed [] front = chosen [] front := by
        apply ih
        rintro front other back rfl clear
        exact free front other (back ++ [edit]) (by simp) clear
      have alike : (∀ other ∈ front, edit.ClearOf other) ↔
          ∀ other ∈ chosen [] front, edit.ClearOf other := by
        constructor
        · intro clear other found
          exact clear other ((chosen_sublist [] front).subset found)
        · intro clear
          rw [← before] at clear
          exact free front edit [] rfl clear
      rw [unobstructed_concat, chosen_concat, before, if_congr alike rfl rfl]

/-- On edits that stand from right to left, the one considered last stands for all before it. -/
theorem applied_eq_unobstructed {length : Nat} (seen : List Edit)
    (fits : ∀ edit ∈ edits, Fits length edit)
    (sorted : edits.Pairwise fun a b => b.start ≤ a.start)
    (behind : seen.Pairwise fun a b => a.start ≤ b.start)
    (below : ∀ edit ∈ edits, ∀ other ∈ seen, edit.start ≤ other.start) :
    applied (seen.head?.map start) edits = unobstructed seen edits := by
  induction edits generalizing seen with
  | nil => rfl
  | cons edit rest ih =>
    obtain ⟨fit, fits⟩ := List.forall_mem_cons.1 fits
    obtain ⟨first, sorted⟩ := List.pairwise_cons.1 sorted
    obtain ⟨here, below⟩ := List.forall_mem_cons.1 below
    have clears : edit.clearsStart (seen.head?.map start) = true ↔
        ∀ other ∈ seen, edit.ClearOf other := by
      cases seen with
      | nil => simp [clearsStart_none]
      | cons last seen =>
        rw [List.head?_cons, Option.map_some, fit.clearsStart_iff, List.forall_mem_cons]
        refine (and_iff_left_of_imp ?_).symm
        intro clear other found
        exact clear.of_start_le ((List.pairwise_cons.1 behind).1 other found)
    have tail : applied (some edit.start) rest = unobstructed (edit :: seen) rest := by
      apply ih (edit :: seen) fits sorted (List.pairwise_cons.2 ⟨here, behind⟩)
      intro next found
      exact List.forall_mem_cons.2 ⟨first next found, below next found⟩
    rw [applied, unobstructed, tail, if_congr clears rfl rfl]

end Admission

variable {edits : List Edit} {number : Nat}

theorem mem_ordered {edit : Edit} :
    edit ∈ ordered number edits ↔
      edit ∈ edits ∧ edit.line = number ∧ edit.deletesLine = false := by
  simp [ordered]

theorem pairwise_start_ordered (number : Nat) (edits : List Edit) :
    (ordered number edits).Pairwise fun a b => b.start ≤ a.start := by
  have sorted : (ordered number edits).Pairwise fun a b => precedes a b = true :=
    List.pairwise_mergeSort precedes_trans precedes_total _
  refine List.Pairwise.imp_of_mem ?_ sorted
  intro a b left right before
  obtain ⟨-, line, -⟩ := mem_ordered.1 left
  obtain ⟨-, other, keeps⟩ := mem_ordered.1 right
  exact start_le_of_precedes before (line.trans other.symm) keeps

/-- Copies aside, the edits of a line that is kept are considered in their order. -/
theorem find?_ordered_eq_some_iff (keeps : Keeps number edits) {edit : Edit} :
    (ordered number edits).find? (·.start = edit.start) = some edit ↔
      edit.line = number ∧ Leads edits edit := by
  have own : (edits.filter fun edit => edit.line = number && !edit.deletesLine) =
      edits.filter (·.line = number) := by
    apply List.filter_congr
    intro other found
    by_cases line : other.line = number
    · simp [line, keeps other found line]
    · simp [line]
  rw [← find?_onLine_eq_some_iff]
  unfold ordered onLine schedule
  rw [own, List.find?_filter, find?_dropRepeats, find?_mergeSort_eq_some_iff precedes_trans
    precedes_total, find?_mergeSort_eq_some_iff precedes_trans precedes_total, List.find?_filter]
  simp [Bool.and_assoc]

/-- The edits of a line that are carried out are those that nothing considered before obstructs. -/
theorem carried_eq_unobstructed (words : InWords edits) (keeps : Keeps number edits) :
    carried number edits = unobstructed [] (ordered number edits) := by
  have fits : ∀ edit ∈ ordered number edits, Fits wordLimit edit := by
    intro edit found
    obtain ⟨member, line, -⟩ := mem_ordered.1 found
    exact words.fits keeps edit (mem_onLine.2 ⟨member, line⟩)
  have sorted := pairwise_start_ordered number edits
  have own : applied (Option.map start none) (ordered number edits) =
      unobstructed [] (ordered number edits) :=
    applied_eq_unobstructed [] fits sorted List.Pairwise.nil (by simp)
  have apart : (unobstructed [] (ordered number edits)).Pairwise fun a b => Apart b a := by
    rw [← own]
    exact (pairwise_applied none fits sorted (by simp)).1
  apply List.reverse_injective
  apply (List.pairwise_reverse.2 (pairwise_carried words keeps)).eq_of_mem_iff
    (List.pairwise_reverse.2 apart)
  intro edit
  rw [List.mem_reverse, List.mem_reverse, ← own, mem_applied_iff none fits sorted (by simp),
    find?_ordered_eq_some_iff keeps, mem_carried_iff words keeps]
  have same : ∀ other, other ∈ ordered number edits ↔ other ∈ edits ∧ other.line = number := by
    intro other
    rw [mem_ordered, and_congr_right_iff]
    exact fun found => and_iff_left_of_imp (keeps other found)
  simp [same, and_assoc]

/-- A text of which each line is repaired by those edits of it, in their order, that are `admitted`. A
line that an edit deletes goes. -/
def rebuilt (admitted : List Edit → List Edit) (text : List Char) (edits : List Edit) : List Char :=
  joinLines (lineEnding text) (((lines text).zipIdx 1).filterMap fun line =>
    if edits.any fun edit => edit.line = line.2 && edit.deletesLine then none
    else (admitted (ordered line.2 edits)).foldl
      (fun result edit => result.bind (edit.applyTo (lineEnding text))) (some line.1))

theorem applyAll_eq_rebuilt (words : InWords edits) (text : List Char) :
    applyAll text edits = rebuilt (unobstructed []) text edits := by
  unfold applyAll rebuilt
  simp only [survivors_schedule]
  congr 2
  funext line
  by_cases keeps : Keeps line.2 edits
  · have stays : (edits.any fun edit => edit.line = line.2 && edit.deletesLine) = false := by
      rw [List.any_eq_false]
      intro edit found
      by_cases own : edit.line = line.2
      · simp [keeps edit found own]
      · simp [own]
    have admitted := carried_eq_unobstructed words keeps
    unfold carried at admitted
    rw [stays, repairLine, foldl_step_text, admitted, if_neg Bool.false_ne_true]
  · simp only [Keeps, not_forall, Bool.not_eq_false] at keeps
    obtain ⟨edit, found, own, deletes⟩ := keeps
    have goes : (edits.any fun edit => edit.line = line.2 && edit.deletesLine) = true := by
      rw [List.any_eq_true]
      exact ⟨edit, found, by simp [own, deletes]⟩
    rw [goes, repairLine_eq_none _ (mem_onLine.2 ⟨found, own⟩) deletes, if_pos rfl]

end Edit

/-- A text is repaired by the edits that keep clear of all edits of their line considered before them,
so none overlaps another. A choice that only looks at edits carried out admits them too, and no more
exactly when no dropped edit obstructs one that is clear of those carried out. -/
theorem repair_eq_rebuilt (text : List Char) (findings : List Finding)
    (words : Edit.InWords (findings.filterMap Finding.edit)) :
    repair text findings =
        Edit.rebuilt (Edit.unobstructed []) text (findings.filterMap Finding.edit) ∧
      ∀ number own, own = Edit.ordered number (findings.filterMap Finding.edit) →
        (Edit.unobstructed [] own).Pairwise (fun a b => b.ClearOf a) ∧
          (Edit.unobstructed [] own).Sublist (Edit.chosen [] own) ∧
          (Edit.unobstructed [] own = Edit.chosen [] own ↔
            ∀ front edit back, own = front ++ edit :: back →
              (∀ other ∈ Edit.unobstructed [] front, edit.ClearOf other) →
                ∀ other ∈ front, edit.ClearOf other) := by
  refine ⟨Edit.applyAll_eq_rebuilt words text, ?_⟩
  intro number own _
  exact ⟨Edit.pairwise_unobstructed [] own, Edit.unobstructed_sublist (List.Subset.refl []) own,
    Edit.unobstructed_eq_chosen_iff own⟩

/-- Three deletions on one line. The second one overlaps the first and is dropped; the third one is
clear of the first alone. -/
def chained : List Finding :=
  [.deleting 1 7 1, .deleting 1 5 3, .deleting 1 4 2].map .carrying

/-- The third deletion is lost, although a choice among those carried out admits it. -/
theorem repair_eq_rebuilt_chained :
    Edit.InWords (chained.filterMap Finding.edit) ∧
      repair "abcdefghij".toList chained = "abcdefhij".toList ∧
      Edit.unobstructed [] (Edit.ordered 1 (chained.filterMap Finding.edit)) ≠
        Edit.chosen [] (Edit.ordered 1 (chained.filterMap Finding.edit)) ∧
      Edit.rebuilt (Edit.chosen []) "abcdefghij".toList (chained.filterMap Finding.edit) =
        "abcfhij".toList := by
  have words : Edit.InWords (chained.filterMap Finding.edit) := by decide +kernel
  obtain ⟨repaired, lines⟩ := repair_eq_rebuilt "abcdefghij".toList chained words
  have own : Edit.ordered 1 (chained.filterMap Finding.edit) =
      [.deleting 1 7 1, .deleting 1 5 3, .deleting 1 4 2] := by cbv
  obtain ⟨-, -, free⟩ := lines 1 _ own.symm
  refine ⟨words, repaired.trans (by cbv), ?_, by cbv⟩
  rw [own]
  intro equal
  have clear := free.1 equal [.deleting 1 7 1, .deleting 1 5 3] (.deleting 1 4 2) [] rfl
  revert clear
  decide +kernel

end DocCheck
