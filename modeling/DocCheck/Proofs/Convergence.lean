import DocCheck.Proofs.Answer
import DocCheck.Proofs.LineWeight
import Mathlib.Order.WellFounded

set_option autoImplicit false

namespace DocCheck

open Text

def total {α : Type} (measure : α → Nat) : List α → Nat
  | [] => 0
  | a :: as => measure a + total measure as

section Totals

variable {α β : Type} {f g : α → Nat}

theorem total_append (f : α → Nat) (as bs : List α) :
    total f (as ++ bs) = total f as + total f bs := by
  induction as with
  | nil => simp [total]
  | cons a as ih => simp [total, ih, Nat.add_assoc]

theorem total_map (f : α → Nat) (g : β → α) (bs : List β) :
    total f (bs.map g) = total (fun b => f (g b)) bs := by
  induction bs with
  | nil => rfl
  | cons b bs ih => rw [List.map_cons, total, total, ih]

theorem total_flatMap (f : α → Nat) (g : β → List α) (bs : List β) :
    total f (bs.flatMap g) = total (fun b => total f (g b)) bs := by
  induction bs with
  | nil => rfl
  | cons b bs ih => rw [List.flatMap_cons, total_append, ih, total]

theorem total_add_two (f : α → Nat) (as : List α) :
    total (fun a => f a + 2) as = total f as + 2 * as.length := by
  induction as with
  | nil => rfl
  | cons a as ih =>
    rw [total, total, ih, List.length_cons]
    omega

theorem total_le {as : List α} (h : ∀ a ∈ as, f a ≤ g a) : total f as ≤ total g as := by
  induction as with
  | nil => exact Nat.le_refl 0
  | cons a as ih =>
    obtain ⟨head, tail⟩ := List.forall_mem_cons.1 h
    have := ih tail
    rw [total, total]
    omega

theorem eq_of_total_le {as : List α} (h : ∀ a ∈ as, f a ≤ g a) (sum : total g as ≤ total f as) :
    ∀ a ∈ as, f a = g a := by
  induction as with
  | nil => simp
  | cons a as ih =>
    obtain ⟨head, tail⟩ := List.forall_mem_cons.1 h
    have rest := total_le tail
    rw [total, total] at sum
    exact List.forall_mem_cons.2 ⟨by omega, ih tail (by omega)⟩

end Totals

namespace Ruleset

variable {ruleset : Ruleset} {text : List Char} {line : Line}

/-- The pass makes of each line what its parts measure, where an empty line measures nothing. -/
theorem total_repair {measure : List Char → Nat} (nothing : measure [] = 0)
    (stored : Stored text) :
    total measure (lines (repair text (ruleset.lint text))) =
      total (fun line => total measure (ruleset.parts text line)) (Line.ofText text) := by
  rw [← total_flatMap, lines_repair stored, repairedLines]
  split
  · rename_i none
    rw [none]
    simp [total, nothing]
  · rfl

theorem total_parts {measure : List Char → Nat} (nothing : measure [] = 0) :
    total measure (ruleset.parts text line) =
      if ruleset.deletes text line then 0 else measure (ruleset.mended text line) := by
  rw [parts]
  split
  · rfl
  · split <;> simp [total, nothing]

theorem total_lines (measure : List Char → Nat) (text : List Char) :
    total measure (lines text) = total (fun line => measure line.text) (Line.ofText text) := by
  rw [← Line.map_text_ofText, total_map]

theorem marks_parts_le (stored : Stored text) (member : line ∈ Line.ofText text) :
    total marks (ruleset.parts text line) ≤ marks line.text := by
  rw [total_parts rfl]
  split
  · exact Nat.zero_le _
  · rename_i kept
    have := ruleset.marks_mended stored member (by simpa using kept)
    omega

/-- The pass leaves the line, or it deletes an empty line. -/
def Settled (ruleset : Ruleset) (text : List Char) (line : Line) : Prop :=
  if ruleset.deletes text line then line.text = [] else ruleset.mended text line = line.text

theorem weight_nil : weight [] = 0 := by
  decide

/-- Where the marks stay, a line becomes lighter or is settled. -/
theorem weight_parts (stored : Stored text) (member : line ∈ Line.ofText text)
    (same : total marks (ruleset.parts text line) = marks line.text) :
    total weight (ruleset.parts text line) < weight line.text ∨ Settled ruleset text line := by
  rw [total_parts rfl] at same
  rw [total_parts weight_nil, Settled]
  cases gone : ruleset.deletes text line with
  | true =>
    simp only [if_true]
    rcases empty : line.text with _ | ⟨c, rest⟩
    · exact .inr rfl
    · left
      simp only [weight, List.length_cons]
      omega
  | false =>
    simp only [gone, Bool.false_eq_true, if_false] at same ⊢
    exact weight_mended stored member gone (Nat.le_of_eq same.symm)

theorem total_parts_of_settled {measure : List Char → Nat} (nothing : measure [] = 0)
    (settled : Settled ruleset text line) :
    total measure (ruleset.parts text line) = measure line.text := by
  rw [total_parts nothing]
  rw [Settled] at settled
  split at settled
  · rename_i gone
    rw [if_pos gone, settled, nothing]
  · rename_i kept
    rw [if_neg kept, settled]

theorem total_marks_repair_le (stored : Stored text) :
    total marks (lines (repair text (ruleset.lint text))) ≤ total marks (lines text) := by
  rw [total_repair rfl stored, total_lines]
  exact total_le fun line member => marks_parts_le stored member

theorem marks_parts_eq (stored : Stored text)
    (same : total marks (lines (repair text (ruleset.lint text))) = total marks (lines text)) :
    ∀ line ∈ Line.ofText text, total marks (ruleset.parts text line) = marks line.text := by
  rw [total_repair rfl stored, total_lines] at same
  exact eq_of_total_le (fun line member => marks_parts_le stored member) (Nat.le_of_eq same.symm)

theorem weight_parts_le (stored : Stored text)
    (same : total marks (lines (repair text (ruleset.lint text))) = total marks (lines text)) :
    ∀ line ∈ Line.ofText text, total weight (ruleset.parts text line) ≤ weight line.text := by
  intro line member
  rcases weight_parts stored member (marks_parts_eq stored same line member) with lighter | settled
  · exact Nat.le_of_lt lighter
  · exact Nat.le_of_eq (total_parts_of_settled weight_nil settled)

theorem total_weight_repair_le (stored : Stored text)
    (same : total marks (lines (repair text (ruleset.lint text))) = total marks (lines text)) :
    total weight (lines (repair text (ruleset.lint text))) ≤ total weight (lines text) := by
  rw [total_repair weight_nil stored, total_lines]
  exact total_le (weight_parts_le stored same)

/-- Where the marks and the weight of the text stay, every line is settled. -/
theorem settled_of_totals (stored : Stored text)
    (same : total marks (lines (repair text (ruleset.lint text))) = total marks (lines text))
    (even : total weight (lines (repair text (ruleset.lint text))) = total weight (lines text)) :
    ∀ line ∈ Line.ofText text, Settled ruleset text line := by
  rw [total_repair weight_nil stored, total_lines] at even
  intro line member
  have equal := eq_of_total_le (weight_parts_le stored same) (Nat.le_of_eq even.symm) line member
  rcases weight_parts stored member (marks_parts_eq stored same line member) with lighter | settled
  · omega
  · exact settled

theorem mended_of_empty (stored : Stored text) (member : line ∈ Line.ofText text)
    (kept : ruleset.deletes text line = false) (empty : line.text = []) :
    ruleset.mended text line = [] := by
  have none : ruleset.acting text line = [] := by
    rw [List.eq_nil_iff_forall_not_mem]
    intro edit found
    have inside := (acts_of_mem_acting stored member kept found).start_lt
    rw [empty] at inside
    exact absurd inside (Nat.not_lt_zero _)
  rw [mended, none, empty]
  rfl

/-- One, unless the last line is empty. -/
def lastOpen (text : List Char) : Nat :=
  if Ended text then 0 else 1

/-- What the rules on whole lines bring down. -/
def stage (ruleset : Ruleset) (text : List Char) : Nat :=
  if ruleset.enables .finalNewline then lastOpen text else (lines text).length

theorem map_mended_of_settled (settled : ∀ line ∈ Line.ofText text, Settled ruleset text line)
    (all : ruleset.kept text = Line.ofText text) :
    (ruleset.kept text).map (ruleset.mended text) = lines text := by
  rw [← Line.map_text_ofText]
  conv => rhs; rw [← all]
  apply List.map_congr_left
  intro line found
  obtain ⟨member, kept⟩ := mem_kept.1 found
  have same := settled line member
  rwa [Settled, kept, if_neg Bool.false_ne_true] at same

/-- Where no last line is ended, lines can only go. -/
theorem length_repair (stored : Stored text) (off : ruleset.enables .finalNewline = false) :
    (lines (repair text (ruleset.lint text))).length ≤ (lines text).length ∧
      ((lines text).length ≤ (lines (repair text (ruleset.lint text))).length →
        (∀ line ∈ Line.ofText text, Settled ruleset text line) →
        lines (repair text (ruleset.lint text)) = lines text) := by
  have fewer : (ruleset.kept text).length ≤ (lines text).length := by
    rw [← Line.length_ofText]
    exact List.length_filter_le _ _
  have some : 0 < (lines text).length := List.length_pos_iff.2 (lines_ne_nil text)
  rw [lines_repair_of_none_ends stored fun line => ends_eq_false_of_off off]
  split
  · rename_i empty
    refine ⟨some, fun short settled => ?_⟩
    have one : (Line.ofText text).length = 1 := by
      rw [Line.length_ofText]
      exact Nat.le_antisymm short some
    obtain ⟨line, only⟩ := List.length_eq_one_iff.1 one
    have member : line ∈ Line.ofText text := by simp [only]
    have gone : ruleset.deletes text line = true := by
      rw [← Bool.not_eq_false]
      intro stays
      have found := mem_kept.2 ⟨member, stays⟩
      rw [empty] at found
      cases found
    have blank := settled line member
    rw [Settled, if_pos gone] at blank
    rw [← Line.map_text_ofText, only, List.map_singleton, blank]
  · rw [List.length_map]
    refine ⟨fewer, fun long settled => map_mended_of_settled settled ?_⟩
    rw [← Line.length_ofText] at long
    exact List.filter_sublist.eq_of_length_le long

theorem kept_eq_self (off : ruleset.enables .multipleBlanks = false) :
    ruleset.kept text = Line.ofText text := by
  rw [kept, List.filter_eq_self]
  intro line member
  rw [deletes_eq_false_of_off off member]
  rfl

/-- The pass that ends the last line closes the text. -/
theorem lastOpen_repair_of_ends (stored : Stored text)
    (ends : (ruleset.kept text).any (ruleset.ends text) = true) :
    lastOpen text = 1 ∧ lastOpen (repair text (ruleset.lint text)) = 0 := by
  obtain ⟨line, found, ended⟩ := List.any_eq_true.1 ends
  obtain ⟨last, nonempty⟩ := getLast?_of_ends (mem_kept.1 found).1 ended
  have made : lines (repair text (ruleset.lint text)) =
      (ruleset.kept text).map (ruleset.mended text) ++ [[]] := by
    rw [lines_repair stored, repairedLines_eq, if_pos ends, if_neg (by simp)]
  constructor
  · simp [lastOpen, Ended, Line.getLast?_lines, last, nonempty]
  · simp [lastOpen, Ended, made]

/-- Where no line is deleted, the last line can only become empty. -/
theorem lastOpen_repair (stored : Stored text) (off : ruleset.enables .multipleBlanks = false) :
    lastOpen (repair text (ruleset.lint text)) ≤ lastOpen text ∧
      (lastOpen text ≤ lastOpen (repair text (ruleset.lint text)) →
        (∀ line ∈ Line.ofText text, Settled ruleset text line) →
        lines (repair text (ruleset.lint text)) = lines text) := by
  have all : ruleset.kept text = Line.ofText text := kept_eq_self off
  by_cases ends : (ruleset.kept text).any (ruleset.ends text) = true
  · obtain ⟨before, after⟩ := lastOpen_repair_of_ends stored ends
    omega
  · have none : ∀ line ∈ Line.ofText text, ruleset.ends text line = false := by
      intro line member
      rw [← Bool.not_eq_true]
      exact fun ended => ends (List.any_eq_true.2 ⟨line, all ▸ member, ended⟩)
    have made : lines (repair text (ruleset.lint text)) =
        (ruleset.kept text).map (ruleset.mended text) := by
      rw [lines_repair_of_none_ends stored none, if_neg]
      rw [all]
      exact Line.ofText_ne_nil text
    refine ⟨?_, fun _ settled => ?_⟩
    · simp only [lastOpen, Ended, made, all, Line.getLast?_lines, List.getLast?_map]
      rcases last : (Line.ofText text).getLast? with _ | line
      · exact Nat.le_refl _
      · have member := List.mem_of_getLast? last
        by_cases empty : line.text = []
        · simp [empty, mended_of_empty stored member (deletes_eq_false_of_off off member) empty]
        · simp only [Option.map_some, Option.some.injEq, empty, if_false]
          split <;> omega
    · rw [made, map_mended_of_settled settled all]

theorem stage_repair (ruleset : Ruleset) (stored : Stored text)
    (apart : ¬ (ruleset.enables .multipleBlanks = true ∧ ruleset.enables .finalNewline = true)) :
    ruleset.stage (repair text (ruleset.lint text)) ≤ ruleset.stage text ∧
      (ruleset.stage text ≤ ruleset.stage (repair text (ruleset.lint text)) →
        (∀ line ∈ Line.ofText text, Settled ruleset text line) →
        lines (repair text (ruleset.lint text)) = lines text) := by
  rw [stage, stage]
  split
  · rename_i on
    exact lastOpen_repair stored (by simpa [on] using apart)
  · rename_i off
    exact length_repair stored (by simpa using off)

theorem joinLines_lines_repair (ruleset : Ruleset) (stored : Stored text) :
    joinLines (lineEnding text) (lines (repair text (ruleset.lint text))) =
      repair text (ruleset.lint text) := by
  rw [lines_repair stored, repair_eq_joinLines stored]
  split
  · rename_i none
    rw [none]
    rfl
  · rfl

instance (text : List Char) : Decidable (Uniform text) :=
  inferInstanceAs (Decidable (joinLines (lineEnding text) (lines text) = text))

/-- What goes down from one fix pass to the next: the characters other than spaces, what the rules
on whole lines repair, the weight of the lines, and line breaks of more than one kind. -/
def rank (ruleset : Ruleset) (text : List Char) : Nat × Nat × Nat × Nat :=
  (total marks (lines text), ruleset.stage text, total weight (lines text),
    if Uniform text then 0 else 1)

def Below : Nat × Nat × Nat × Nat → Nat × Nat × Nat × Nat → Prop :=
  Prod.Lex (· < ·) (Prod.Lex (· < ·) (Prod.Lex (· < ·) (· < ·)))

theorem wellFounded_below : WellFounded Below :=
  (Prod.lex Nat.lt_wfRel (Prod.lex Nat.lt_wfRel (Prod.lex Nat.lt_wfRel Nat.lt_wfRel))).wf

/-- A first measure that does not go up leaves the rest to the next one. -/
theorem lex_of_le {β : Type} {below : β → β → Prop} {m n : Nat} {a b : β} (le : m ≤ n)
    (next : m = n → below a b) : Prod.Lex (· < ·) below (m, a) (n, b) := by
  rcases Nat.lt_or_eq_of_le le with less | same
  · exact Prod.Lex.left _ _ less
  · exact Prod.lex_def.2 (.inr ⟨same, next same⟩)

/-- A pass that changes the text lowers its rank. -/
theorem rank_repair (stored : Stored text)
    (apart : ¬ (ruleset.enables .multipleBlanks = true ∧ ruleset.enables .finalNewline = true))
    (changed : repair text (ruleset.lint text) ≠ text) :
    Below (ruleset.rank (repair text (ruleset.lint text))) (ruleset.rank text) := by
  obtain ⟨stage_le, lines_eq⟩ := ruleset.stage_repair stored apart
  refine lex_of_le (total_marks_repair_le stored) fun marks_eq => lex_of_le stage_le fun stage_eq =>
    lex_of_le (total_weight_repair_le stored marks_eq) fun weight_eq => ?_
  -- The lines are those that were there, so only line breaks changed.
  have settled := settled_of_totals stored marks_eq weight_eq
  have whole := ruleset.joinLines_lines_repair stored
  rw [lines_eq (Nat.le_of_eq stage_eq.symm) settled] at whole
  have mixed : ¬ Uniform text := fun uniform => changed (whole.symm.trans uniform)
  rw [if_pos (uniform_repair stored), if_neg mixed]
  exact Nat.zero_lt_one

end Ruleset

end DocCheck
