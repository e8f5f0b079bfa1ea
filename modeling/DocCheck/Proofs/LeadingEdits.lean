import DocCheck.Lint
import DocCheck.Proofs.Splice
import Mathlib.Data.List.Permutation
import Mathlib.Data.List.Sort

set_option autoImplicit false

namespace DocCheck

open Text

section StableSort

variable {α : Type} {le : α → α → Bool} {p : α → Bool}

/-- The first entry with a property, after one more entry is put in front of those to sort. -/
theorem find?_mergeSort_cons (trans : ∀ a b c, le a b = true → le b c = true → le a c = true)
    (total : ∀ a b, (le a b || le b a) = true) (a : α) (as : List α) :
    ((a :: as).mergeSort le).find? p =
      match p a, (as.mergeSort le).find? p with
      | false, found => found
      | true, none => some a
      | true, some b => if le a b then some a else some b := by
  obtain ⟨front, back, whole, rest, before⟩ := List.mergeSort_cons trans total a as
  have sorted := List.pairwise_mergeSort trans total (a :: as)
  rw [whole, List.pairwise_append, List.pairwise_cons] at sorted
  obtain ⟨-, ⟨behind, -⟩, -⟩ := sorted
  rw [whole, rest, List.find?_append, List.find?_append, List.find?_cons]
  cases listed : p a with
  | false => rfl
  | true =>
    cases first : front.find? p with
    | some b =>
      have later := before b (List.mem_of_find?_eq_some first)
      simp_all
    | none =>
      cases second : back.find? p with
      | none => rfl
      | some b =>
        have here := behind b (List.mem_of_find?_eq_some second)
        simp [here]

theorem of_find?_mergeSort (trans : ∀ a b c, le a b = true → le b c = true → le a c = true)
    (total : ∀ a b, (le a b || le b a) = true) {as : List α} {a : α}
    (h : (as.mergeSort le).find? p = some a) :
    as.find? (fun b => p b && le b a) = some a ∧ ∀ b ∈ as, p b = true → le a b = true := by
  have refl (b : α) : le b b = true := by simpa using total b b
  induction as generalizing a with
  | nil => simp at h
  | cons b as ih =>
    rw [find?_mergeSort_cons trans total] at h
    rw [List.find?_cons, List.forall_mem_cons]
    cases listed : p b with
    | false =>
      simp only [listed] at h
      simpa using ih h
    | true =>
      simp only [listed] at h
      cases found : (as.mergeSort le).find? p with
      | none =>
        simp only [found, Option.some.injEq] at h
        subst h
        have absent : ∀ c ∈ as, p c = false := by simpa using found
        refine ⟨by simp [refl], fun _ => refl b, ?_⟩
        intro c member has
        rw [absent c member] at has
        cases has
      | some c =>
        simp only [found] at h
        obtain ⟨first, least⟩ := ih found
        by_cases before : le b c = true
        · obtain rfl : b = a := by simpa [before] using h
          refine ⟨by simp [refl], fun _ => refl b, ?_⟩
          intro d member has
          exact trans b c d before (least d member has)
        · obtain rfl : c = a := by simpa [before] using h
          have behind : le c b = true := by
            have either := total b c
            simpa [before] using either
          refine ⟨by simpa [before] using first, fun _ => behind, least⟩

/-- The first entry with a property in a stably sorted list is, of those that no other one with the
property has to precede, the first in the list that was sorted. -/
theorem find?_mergeSort_eq_some_iff
    (trans : ∀ a b c, le a b = true → le b c = true → le a c = true)
    (total : ∀ a b, (le a b || le b a) = true) {as : List α} {a : α} :
    (as.mergeSort le).find? p = some a ↔
      as.find? (fun b => p b && le b a) = some a ∧ ∀ b ∈ as, p b = true → le a b = true := by
  refine ⟨of_find?_mergeSort trans total, ?_⟩
  rintro ⟨first, least⟩
  have member : a ∈ as := List.mem_of_find?_eq_some first
  have has : p a = true := by
    have both := List.find?_some first
    simp_all
  cases found : (as.mergeSort le).find? p with
  | none =>
    rw [List.find?_eq_none] at found
    exact absurd has (found a (List.mem_mergeSort.2 member))
  | some b =>
    -- Both come before all others, so they tie with the same entries.
    obtain ⟨other, lower⟩ := of_find?_mergeSort trans total found
    have inside : b ∈ as := List.mem_of_find?_eq_some other
    have holds : p b = true := List.find?_some found
    have ab := least b inside holds
    have ba := lower a member has
    have tie : (fun c => p c && le c a) = fun c => p c && le c b := by
      funext c
      have iff : le c a = true ↔ le c b = true :=
        ⟨fun before => trans c a b before ab, fun before => trans c b a before ba⟩
      rw [Bool.eq_iff_iff.2 iff]
    rw [tie, other] at first
    exact first

end StableSort

namespace Edit

/-- Where each edit that keeps its line ends is a word. -/
def InWords (edits : List Edit) : Prop :=
  ∀ edit ∈ edits, edit.deletesLine = false → edit.finish < wordLimit

instance (edits : List Edit) : Decidable (InWords edits) :=
  inferInstanceAs (Decidable (∀ edit ∈ edits, edit.deletesLine = false → edit.finish < wordLimit))

/-- What the edit removes, or one character if it removes none, lies before the start of the other. -/
def ClearOf (edit other : Edit) : Prop :=
  edit.start + max edit.width 1 ≤ other.start

instance (edit other : Edit) : Decidable (edit.ClearOf other) :=
  inferInstanceAs (Decidable (edit.start + max edit.width 1 ≤ other.start))

theorem start_lt_of_clearOf {edit other : Edit} (h : edit.ClearOf other) :
    edit.start < other.start := by
  unfold ClearOf at h
  omega

theorem ClearOf.of_start_le {edit other next : Edit} (h : edit.ClearOf other)
    (le : other.start ≤ next.start) : edit.ClearOf next := by
  unfold ClearOf at *
  omega

theorem Fits.clearsStart_iff {length : Nat} {edit other : Edit} (h : Fits length edit) :
    edit.clearsStart (some other.start) = true ↔ edit.ClearOf other := by
  have sum : edit.finish = edit.start + edit.width := rfl
  rw [h.clearsStart]
  unfold ClearOf
  omega

theorem mem_applied_cons_of_ne {first edit : Edit} (h : edit ≠ first) (last : Option Nat)
    (rest : List Edit) :
    edit ∈ applied last (first :: rest) ↔ edit ∈ applied (some first.start) rest := by
  rw [applied]
  split
  · rw [List.mem_cons, or_iff_right h]
  · exact Iff.rfl

theorem mem_applied_cons_of_not_mem {first edit : Edit} {rest : List Edit}
    (h : edit ∉ applied (some first.start) rest) (last : Option Nat) :
    edit ∈ applied last (first :: rest) ↔ edit = first ∧ first.clearsStart last = true := by
  rw [applied]
  split
  · rename_i clear
    rw [List.mem_cons, or_iff_left h, and_iff_left clear]
  · rename_i overlaps
    exact iff_of_false h fun both => overlaps both.2

/-- Of edits that stand from right to left, one is carried out exactly when it is the first with its
start and every edit further right leaves it room. -/
theorem mem_applied_iff {edits : List Edit} {length : Nat} (last : Option Edit)
    (fits : ∀ edit ∈ edits, Fits length edit)
    (sorted : edits.Pairwise fun a b => b.start ≤ a.start)
    (below : ∀ right ∈ last, ∀ edit ∈ edits, edit.start ≤ right.start) {edit : Edit} :
    edit ∈ applied (last.map start) edits ↔
      edits.find? (·.start = edit.start) = some edit ∧ (∀ right ∈ last, edit.ClearOf right) ∧
        ∀ other ∈ edits, edit.start < other.start → edit.ClearOf other := by
  induction edits generalizing last with
  | nil => simp [applied]
  | cons first rest ih =>
    obtain ⟨fit, fits⟩ := List.forall_mem_cons.1 fits
    obtain ⟨bound, sorted⟩ := List.pairwise_cons.1 sorted
    have behind := ih (some first) fits sorted (by simpa using bound)
    by_cases same : first.start = edit.start
    · -- Behind the first edit with a start, none with that start has room.
      have hidden : edit ∉ applied (some first.start) rest := by
        intro found
        have left := start_lt_of_clearOf ((behind.1 found).2.1 first rfl)
        omega
      have clears : first.clearsStart (last.map start) = true ↔
          ∀ right ∈ last, first.ClearOf right := by
        cases last with
        | none => simp [clearsStart_none]
        | some right => simpa using fit.clearsStart_iff
      have last : ∀ other ∈ first :: rest, ¬ edit.start < other.start := by
        intro other found
        rcases List.mem_cons.1 found with rfl | found
        · omega
        · have := bound other found
          omega
      have leads : (first :: rest).find? (·.start = edit.start) = some first := by simp [same]
      rw [mem_applied_cons_of_not_mem hidden, clears, leads, Option.some.injEq]
      constructor
      · rintro ⟨rfl, clear⟩
        exact ⟨rfl, clear, fun other found less => absurd less (last other found)⟩
      · rintro ⟨rfl, clear, -⟩
        exact ⟨rfl, clear⟩
    · have other : edit ≠ first := fun equal => same (congrArg start equal).symm
      have later : (first :: rest).find? (·.start = edit.start) =
          rest.find? (·.start = edit.start) := by simp [same]
      rw [mem_applied_cons_of_ne other, later]
      constructor
      · intro found
        obtain ⟨leads, clear, rights⟩ := behind.1 found
        have room := clear first rfl
        refine ⟨leads, ?_, List.forall_mem_cons.2 ⟨fun _ => room, rights⟩⟩
        intro right marked
        exact room.of_start_le (below right marked first (List.mem_cons_self ..))
      · rintro ⟨leads, -, rights⟩
        obtain ⟨here, there⟩ := List.forall_mem_cons.1 rights
        have bounded := bound edit (List.mem_of_find?_eq_some leads)
        refine behind.2 ⟨leads, ?_, there⟩
        intro right marked
        obtain rfl := Option.some.inj marked
        apply here
        omega

theorem find?_dropRepeats (p : Edit → Bool) (edits : List Edit) :
    (dropRepeats edits).find? p = edits.find? p := by
  fun_induction dropRepeats edits with
  | case1 a rest ih =>
    rw [ih]
    cases has : p a <;> simp [has]
  | case2 a b rest _ ih => rw [List.find?_cons, ih, List.find?_cons (a := a)]
  | case3 edits _ => rfl

/-- The edits of line `number` that are carried out, from right to left. -/
def carried (number : Nat) (edits : List Edit) : List Edit :=
  applied none (onLine number edits)

/-- Of the edits of its line that start where it does, the edit is the one to consider first. -/
def Leads (edits : List Edit) (edit : Edit) : Prop :=
  edits.find? (fun other => other.line = edit.line ∧ other.start = edit.start ∧
      other.precedes edit = true) = some edit ∧
    ∀ other ∈ edits, other.line = edit.line → other.start = edit.start → edit.precedes other = true

variable {edits others : List Edit} {edit : Edit} {number : Nat}

theorem find?_onLine_eq_some_iff :
    (onLine number edits).find? (·.start = edit.start) = some edit ↔
      edit.line = number ∧ Leads edits edit := by
  rw [onLine, schedule, List.find?_filter, find?_dropRepeats,
    find?_mergeSort_eq_some_iff precedes_trans precedes_total]
  simp only [Leads, Bool.decide_and, decide_eq_true_eq, Bool.decide_eq_true, Bool.and_assoc]
  constructor
  · rintro ⟨first, least⟩
    have here := List.find?_some first
    simp only [Bool.and_eq_true, decide_eq_true_eq] at here
    obtain ⟨rfl, -⟩ := here
    refine ⟨rfl, first, ?_⟩
    intro other found line start
    exact least other found (by simp [line, start])
  · rintro ⟨rfl, first, least⟩
    refine ⟨first, ?_⟩
    intro other found both
    obtain ⟨line, start⟩ : other.line = edit.line ∧ other.start = edit.start := by simpa using both
    exact least other found line start

/-- No edit of line `number` deletes it. -/
def Keeps (number : Nat) (edits : List Edit) : Prop :=
  ∀ edit ∈ edits, edit.line = number → edit.deletesLine = false

theorem InWords.fits (words : InWords edits) (keeps : Keeps number edits) :
    ∀ edit ∈ onLine number edits, Fits wordLimit edit := by
  intro edit found
  obtain ⟨member, line⟩ := mem_onLine.1 found
  have kept := keeps edit member line
  have word := words edit member kept
  have le : edit.start ≤ edit.finish := Nat.le_add_right ..
  exact ⟨kept, by omega, word⟩

theorem pairwise_start_of_keeps (keeps : Keeps number edits) :
    (onLine number edits).Pairwise fun a b => b.start ≤ a.start := by
  apply pairwise_start_onLine
  intro edit found
  obtain ⟨member, line⟩ := mem_onLine.1 found
  exact keeps edit member line

theorem pairwise_carried (words : InWords edits) (keeps : Keeps number edits) :
    (carried number edits).Pairwise fun a b => Apart b a :=
  (pairwise_applied none (words.fits keeps) (pairwise_start_of_keeps keeps) (by simp)).1

/-- An edit of a line that is kept is carried out when it leads and keeps clear of all edits of the
line that start further right. -/
theorem mem_carried_iff (words : InWords edits) (keeps : Keeps number edits) :
    edit ∈ carried number edits ↔ edit.line = number ∧ Leads edits edit ∧
      ∀ other ∈ edits, other.line = number → edit.start < other.start → edit.ClearOf other := by
  have applied : edit ∈ applied (Option.map start none) (onLine number edits) ↔ _ :=
    mem_applied_iff none (words.fits keeps) (pairwise_start_of_keeps keeps) (by simp)
  rw [Option.map_none] at applied
  rw [carried, applied, find?_onLine_eq_some_iff, and_assoc]
  simp [mem_onLine]

/-- Two batches that hold the same edits repair a text alike if on each line that is kept the same
edits lead. -/
theorem applyAll_congr (same : ∀ edit, edit ∈ edits ↔ edit ∈ others) (words : InWords edits)
    (leads : ∀ number, Keeps number edits → ∀ edit, edit.line = number →
      (Leads edits edit ↔ Leads others edit)) (text : List Char) :
    applyAll text edits = applyAll text others := by
  have each (ending : LineEnding) (number : Nat) (line : List Char) :
      repairLine ending (onLine number edits) line =
        repairLine ending (onLine number others) line := by
    by_cases keeps : Keeps number edits
    · have words' : InWords others := fun edit found => words edit ((same edit).2 found)
      have keeps' : Keeps number others := fun edit found => keeps edit ((same edit).2 found)
      have alike : carried number edits = carried number others := by
        apply List.reverse_injective
        apply (List.pairwise_reverse.2 (pairwise_carried words keeps)).eq_of_mem_iff
          (List.pairwise_reverse.2 (pairwise_carried words' keeps'))
        intro edit
        rw [List.mem_reverse, List.mem_reverse, mem_carried_iff words keeps,
          mem_carried_iff words' keeps']
        simp only [same]
        apply and_congr_right
        intro line
        rw [leads number keeps edit line]
      unfold carried at alike
      rw [repairLine, repairLine, foldl_step_text, foldl_step_text, alike]
    · simp only [Keeps, not_forall, Bool.not_eq_false] at keeps
      obtain ⟨edit, found, line, deletes⟩ := keeps
      rw [repairLine_eq_none ending (mem_onLine.2 ⟨found, line⟩) deletes,
        repairLine_eq_none ending (mem_onLine.2 ⟨(same edit).1 found, line⟩) deletes]
  unfold applyAll
  simp only [survivors_schedule, each]

/-- Copies at the end change nothing in what leads. -/
theorem leads_append_iff {more : List Edit} (copies : ∀ edit ∈ more, edit ∈ edits) :
    Leads (edits ++ more) edit ↔ Leads edits edit := by
  have same : ∀ other, other ∈ edits ++ more ↔ other ∈ edits := by
    intro other
    rw [List.mem_append, or_iff_left_of_imp (copies other)]
  have first (p : Edit → Bool) : (edits ++ more).find? p = edits.find? p := by
    rw [List.find?_append]
    cases found : edits.find? p with
    | some _ => rfl
    | none =>
      rw [List.find?_eq_none] at found
      rw [Option.none_or, List.find?_eq_none]
      intro other there
      exact found other (copies other there)
  unfold Leads
  simp only [same, first]

end Edit

def Finding.carrying (edit : Edit) : Finding :=
  ⟨edit.line, .trailingSpaces, none, none, none, .error, some edit⟩

/-- Findings whose edits are copies of edits at hand change nothing in the repaired text. -/
theorem repair_append_of_subset (text : List Char) (findings more : List Finding)
    (words : Edit.InWords (findings.filterMap Finding.edit))
    (copies : ∀ edit ∈ more.filterMap Finding.edit, edit ∈ findings.filterMap Finding.edit) :
    repair text (findings ++ more) = repair text findings := by
  unfold repair
  rw [List.filterMap_append]
  apply Eq.symm
  apply Edit.applyAll_congr _ words
  · intro number _ edit _
    exact (Edit.leads_append_iff copies).symm
  · intro edit
    rw [List.mem_append, or_iff_left_of_imp (copies edit)]

/-- Edits that tie in the order of application: two at one column, two at the columns zero and one that
share a start, and two that delete a line. Others name no line of the text. -/
def tied : List Finding :=
  [.deleting 1 3 1, .deleting 1 3 2, .inserting 1 0 ['>'], .inserting 1 1 ['<'], .deletingLine 2,
    ⟨2, 4, .wholeLine, ['x']⟩, .inserting 3 9 ['!'], .deleting 0 1 1, .deleting 9 1 1].map .carrying

theorem repair_append_of_subset_tied :
    Edit.InWords (tied.filterMap Finding.edit) ∧
      (∀ edit ∈ tied.reverse.filterMap Finding.edit, edit ∈ tied.filterMap Finding.edit) ∧
      repair "abcdef\r\n\r\nz".toList (tied ++ tied.reverse) = "<abdef\r\nz!".toList := by
  have words : Edit.InWords (tied.filterMap Finding.edit) := by decide +kernel
  have copies : ∀ edit ∈ tied.reverse.filterMap Finding.edit,
      edit ∈ tied.filterMap Finding.edit := by decide +kernel
  exact ⟨words, copies,
    (repair_append_of_subset _ tied tied.reverse words copies).trans (by cbv)⟩

end DocCheck
