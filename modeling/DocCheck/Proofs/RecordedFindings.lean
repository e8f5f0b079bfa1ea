import DocCheck.Lint
import Mathlib.Data.List.Induction
import Mathlib.Data.String.Basic

set_option autoImplicit false

namespace DocCheck

namespace Named

variable {α : Type}

/-- The entries stand in the order of their names, and no name stands twice. -/
def Ordered (entries : List (String × α)) : Prop :=
  entries.Pairwise fun a b => a.1 < b.1

theorem Ordered.cons {entry : String × α} {entries : List (String × α)} :
    Ordered (entry :: entries) ↔ (∀ later ∈ entries, entry.1 < later.1) ∧ Ordered entries :=
  List.pairwise_cons

/-- What was under the name is gone, and all the rest stays. -/
theorem mem_put {name : String} {value : α} {entries : List (String × α)}
    (ordered : Ordered entries) {entry : String × α} :
    entry ∈ put name value entries ↔
      entry = (name, value) ∨ entry ∈ entries ∧ entry.1 ≠ name := by
  induction entries with
  | nil => simp [put]
  | cons first rest ih =>
    obtain ⟨other, old⟩ := first
    obtain ⟨behind, ordered⟩ := Ordered.cons.1 ordered
    rw [put]
    split
    · rename_i before
      have differ : ∀ entry ∈ (other, old) :: rest, entry.1 ≠ name := by
        refine List.forall_mem_cons.2 ⟨ne_of_gt before, fun later found => ?_⟩
        exact ne_of_gt (lt_trans before (behind later found))
      rw [List.mem_cons, and_iff_left_of_imp (differ entry)]
    · split
      · rename_i same
        subst same
        have differ : ∀ entry ∈ rest, entry.1 ≠ name := fun later found =>
          ne_of_gt (behind later found)
        rw [List.mem_cons, List.mem_cons, or_and_right, and_iff_left_of_imp (differ entry)]
        have replaced : ¬ (entry = (name, old) ∧ entry.1 ≠ name) := by
          rintro ⟨rfl, other⟩
          exact other rfl
        simp only [replaced, false_or]
      · rename_i differ
        rw [List.mem_cons, ih ordered, List.mem_cons, or_and_right, or_left_comm]
        have stays : entry = (other, old) → entry.1 ≠ name := by
          rintro rfl
          exact Ne.symm differ
        rw [and_iff_left_of_imp stays]

theorem Ordered.put {entries : List (String × α)} (ordered : Ordered entries) (name : String)
    (value : α) : Ordered (put name value entries) := by
  induction entries with
  | nil => exact List.pairwise_singleton ..
  | cons first rest ih =>
    obtain ⟨other, old⟩ := first
    have whole := ordered
    obtain ⟨behind, ordered⟩ := Ordered.cons.1 ordered
    rw [Named.put]
    split
    · rename_i before
      refine Ordered.cons.2 ⟨List.forall_mem_cons.2 ⟨before, fun later found => ?_⟩, whole⟩
      exact lt_trans before (behind later found)
    · rename_i notBefore
      split
      · rename_i same
        exact Ordered.cons.2 ⟨same ▸ behind, ordered⟩
      · rename_i differ
        refine Ordered.cons.2 ⟨fun later found => ?_, ih ordered⟩
        rcases (mem_put ordered).1 found with rfl | ⟨found, -⟩
        · exact lt_of_le_of_ne (not_lt.1 notBefore) (Ne.symm differ)
        · exact behind later found

end Named

/-- A text that is linted by a ruleset, for its findings to be recorded under a name. -/
structure Insertion where
  name : String
  ruleset : Ruleset
  text : List Char

namespace Insertion

def findings (insertion : Insertion) : List Finding :=
  insertion.ruleset.lint insertion.text

def last? (name : String) (insertions : List Insertion) : Option Insertion :=
  (insertions.filter (·.name = name)).getLast?

theorem last?_append_of_eq (insertions : List Insertion) (insertion : Insertion) :
    last? insertion.name (insertions ++ [insertion]) = some insertion := by
  rw [last?, List.filter_append, List.filter_cons_of_pos (by simp), List.filter_nil,
    List.getLast?_concat]

theorem last?_append_of_ne {name : String} (insertions : List Insertion) {insertion : Insertion}
    (differ : name ≠ insertion.name) :
    last? name (insertions ++ [insertion]) = last? name insertions := by
  rw [last?, List.filter_append, List.filter_cons_of_neg (by simpa using Ne.symm differ),
    List.filter_nil, List.append_nil, last?]

theorem mem_of_last? {name : String} {insertions : List Insertion} {insertion : Insertion}
    (h : last? name insertions = some insertion) :
    insertion ∈ insertions ∧ insertion.name = name := by
  have found := List.mem_filter.1 (List.mem_of_getLast? h)
  exact ⟨found.1, of_decide_eq_true found.2⟩

end Insertion

namespace Results

def ofInsertions (insertions : List Insertion) : Results :=
  insertions.foldl (fun results insertion => results.insert insertion.name insertion.findings) {}

theorem ofInsertions_append (insertions : List Insertion) (insertion : Insertion) :
    (ofInsertions (insertions ++ [insertion])).documents =
      Named.put insertion.name insertion.findings (ofInsertions insertions).documents := by
  rw [ofInsertions, List.foldl_concat, insert, ofInsertions]

theorem ordered_ofInsertions (insertions : List Insertion) :
    Named.Ordered (ofInsertions insertions).documents := by
  induction insertions using List.reverseRecOn with
  | nil => exact List.Pairwise.nil
  | append_singleton insertions insertion ih =>
    rw [ofInsertions_append]
    exact ih.put insertion.name insertion.findings

/-- Under each name stand the findings of the last insertion under it. -/
theorem mem_documents_ofInsertions {insertions : List Insertion} {name : String}
    {findings : List Finding} :
    (name, findings) ∈ (ofInsertions insertions).documents ↔
      (Insertion.last? name insertions).map Insertion.findings = some findings := by
  induction insertions using List.reverseRecOn with
  | nil => simp [ofInsertions, Insertion.last?]
  | append_singleton insertions insertion ih =>
    rw [ofInsertions_append, Named.mem_put (ordered_ofInsertions insertions), ih]
    by_cases same : name = insertion.name
    · subst same
      rw [Insertion.last?_append_of_eq]
      simp [eq_comm]
    · rw [Insertion.last?_append_of_ne insertions same]
      simp [same]

theorem exists_of_mem_findings {insertions : List Insertion} {finding : Finding}
    (h : finding ∈ (ofInsertions insertions).findings) :
    ∃ insertion ∈ insertions, finding ∈ insertion.findings := by
  obtain ⟨⟨name, findings⟩, member, found⟩ := List.mem_flatMap.1 h
  obtain ⟨insertion, last, rfl⟩ :=
    Option.map_eq_some_iff.1 (mem_documents_ofInsertions.1 member)
  exact ⟨insertion, (Insertion.mem_of_last? last).1, found⟩

end Results

end DocCheck
