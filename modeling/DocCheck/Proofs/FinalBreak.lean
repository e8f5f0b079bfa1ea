import DocCheck.Proofs.Answer
import DocCheck.Proofs.PlainEdits

set_option autoImplicit false

namespace DocCheck

open Text

namespace HardTabs

theorem expandFrom_eq_nil {options : HardTabs} {tabs : Nat} {text : List Char} :
    options.expandFrom tabs text = [] ↔
      ∃ count, text = List.replicate count '\t' ∧ options.spaces (tabs + count) = [] := by
  fun_induction expandFrom options tabs text with
  | case1 tabs =>
    constructor
    · exact fun none => ⟨0, rfl, none⟩
    · rintro ⟨count, eq, none⟩
      obtain rfl : count = 0 := by simpa using eq.symm
      exact none
  | case2 tabs rest ih =>
    rw [ih]
    constructor
    · rintro ⟨count, rfl, none⟩
      exact ⟨count + 1, rfl, by rwa [show tabs + (count + 1) = tabs + 1 + count by omega]⟩
    · rintro ⟨count, eq, none⟩
      cases count with
      | zero => cases eq
      | succ count =>
        refine ⟨count, (List.cons.inj eq).2, ?_⟩
        rwa [show tabs + 1 + count = tabs + (count + 1) by omega]
  | case3 tabs c rest other =>
    constructor
    · intro none
      simp at none
    · rintro ⟨count, eq, -⟩
      cases count with
      | zero => cases eq
      | succ count => exact absurd (List.cons.inj eq).1 other

theorem expand_eq_nil {options : HardTabs} {text : List Char} :
    options.expand text = [] ↔
      ∃ count, text = List.replicate count '\t' ∧ options.spaces count = [] := by
  rw [expand, expandFrom_eq_nil]
  simp only [Nat.zero_add]

end HardTabs

namespace Ruleset

variable {ruleset : Ruleset} {text : List Char} {line : Line}

/-- The line is a run of tabs and a run of spaces, either may be empty, and the pass removes both:
it puts no space in the place of the tabs. -/
def Emptied (ruleset : Ruleset) (text : List Char) (line : Line) : Prop :=
  ∃ tabs spaces, line.text = List.replicate tabs '\t' ++ List.replicate spaces ' ' ∧
    (0 < tabs → ∃ options, ruleset.tabs? text line = some options ∧ options.spaces tabs = []) ∧
    (0 < spaces → ruleset.trims text line = true)

theorem untabbed_eq_nil {part : List Char} :
    ruleset.untabbed text line part = [] ↔
      ∃ tabs, part = List.replicate tabs '\t' ∧
        (0 < tabs → ∃ options, ruleset.tabs? text line = some options ∧
          options.spaces tabs = []) := by
  rw [untabbed]
  split
  · rename_i none
    constructor
    · rintro rfl
      exact ⟨0, rfl, fun positive => absurd positive (Nat.lt_irrefl 0)⟩
    · rintro ⟨tabs, rfl, checked⟩
      cases tabs with
      | zero => rfl
      | succ tabs =>
        obtain ⟨options, some, -⟩ := checked (Nat.succ_pos tabs)
        rw [none] at some
        cases some
  · rename_i options eq
    rw [HardTabs.expand_eq_nil]
    constructor
    · rintro ⟨tabs, rfl, none⟩
      exact ⟨tabs, rfl, fun _ => ⟨options, eq, none⟩⟩
    · rintro ⟨tabs, rfl, checked⟩
      refine ⟨tabs, rfl, ?_⟩
      cases tabs with
      | zero => exact options.spaces_zero
      | succ tabs =>
        obtain ⟨others, same, none⟩ := checked (Nat.succ_pos tabs)
        rw [eq] at same
        rwa [Option.some.inj same]

theorem trimEnd_tabs_append_spaces (tabs spaces : Nat) :
    trimEnd (· == ' ') (List.replicate tabs '\t' ++ List.replicate spaces ' ') =
      List.replicate tabs '\t' := by
  rw [trimEnd_append_of_all (by simp), trimEnd_eq_self]
  intro c last
  rw [List.eq_of_mem_replicate (List.mem_of_getLast? last)]
  rfl

theorem emptied_iff :
    Emptied ruleset text line ↔
      ruleset.untabbed text line (ruleset.trimmed text line) = [] := by
  rw [untabbed_eq_nil, trimmed]
  constructor
  · rintro ⟨tabs, spaces, eq, checked, trims⟩
    refine ⟨tabs, ?_, checked⟩
    split
    · rw [eq, trimEnd_tabs_append_spaces]
    · rename_i stay
      have none : spaces = 0 := by
        by_cases positive : 0 < spaces
        · exact absurd (trims positive) stay
        · omega
      rw [eq, none, List.replicate_zero, List.append_nil]
  · rintro ⟨tabs, eq, checked⟩
    split at eq
    · rename_i trims
      refine ⟨tabs, (tailOf (· == ' ') line.text).length, ?_, checked, fun _ => trims⟩
      rw [← eq, ← tailOf_beq_eq_replicate, trimEnd_append_tailOf]
    · refine ⟨tabs, 0, ?_, checked, fun positive => absurd positive (Nat.lt_irrefl 0)⟩
      rw [eq, List.replicate_zero, List.append_nil]

/-- Nothing is left of exactly the lines that are emptied. -/
theorem mended_eq_nil (stored : Stored text) (member : line ∈ Line.ofText text)
    (kept : ruleset.deletes text line = false) :
    ruleset.mended text line = [] ↔ Emptied ruleset text line := by
  rcases plain_or_hashLine line.text with plain | ⟨indent, level, rest, eq, positive, head⟩
  · rw [mended_plain stored member kept plain, emptied_iff]
  · obtain ⟨_, right, spaces, -, -, -, -, mended⟩ :=
      mended_hashLine stored member kept eq positive head
    constructor
    · intro none
      have length := congrArg List.length mended
      rw [none, length_hashLine, List.length_nil] at length
      omega
    · rintro ⟨tabs, spaces, blank, -⟩
      have hash : '#' ∈ line.text := by
        rw [eq, hashLine]
        simp
        omega
      rw [blank] at hash
      simp at hash

theorem lines_repair_of_ended (stored : Stored text) (ended : Ended text) :
    lines (repair text (ruleset.lint text)) =
      if ruleset.kept text = [] then [[]]
      else (ruleset.kept text).map (ruleset.mended text) := by
  refine lines_repair_of_none_ends stored fun line member => ?_
  rw [← Bool.not_eq_true]
  intro ends
  obtain ⟨last, nonempty⟩ := getLast?_of_ends member ends
  rw [Ended, Line.getLast?_lines, last] at ended
  exact nonempty (Option.some.inj ended)

end Ruleset

/-- A fixed text that was made of a text with a line break at its end has one too exactly when no
line is kept or the last line that is kept is emptied. -/
theorem ended_fixedText_iff (ruleset : Ruleset) (submission : Submission) (fixed : List Char)
    (stored : Stored submission.text) (ended : Ended submission.text)
    (h : (Engine.standard.answer (m := Id) ruleset submission true).fixedText = some fixed) :
    Ended fixed ↔
      ∀ line ∈ (ruleset.kept submission.text).getLast?,
        ruleset.Emptied submission.text line := by
  obtain ⟨rfl, -⟩ := Engine.standard_fixedText h
  rw [Ended, Ruleset.lines_repair_of_ended stored ended]
  split
  · rename_i none
    simp [none]
  · rename_i some
    obtain ⟨line, last⟩ := Option.isSome_iff_exists.1 (List.getLast?_isSome.2 some)
    obtain ⟨member, kept⟩ := Ruleset.mem_kept.1 (List.mem_of_getLast? last)
    rw [List.getLast?_map, last]
    simp only [Option.map_some, Option.some.injEq, Option.mem_def, forall_eq']
    exact Ruleset.mended_eq_nil stored member kept

def blanksAndEnd : Ruleset :=
  ⟨[⟨.multipleBlanks {}, .error⟩, ⟨.finalNewline {}, .error⟩], by decide⟩

/-- Of two blank lines at the end the second one is deleted, and the space on the first one ends the
text. The next request adds the line break again. -/
theorem ended_fixedText_iff_space :
    (Engine.standard.answer (m := Id) blanksAndEnd ⟨"readme", "a\n \n".toList⟩ true).fixedText =
        some "a\n ".toList ∧
      ¬ Ended "a\n ".toList ∧
      (Engine.standard.answer (m := Id) blanksAndEnd ⟨"readme", "a\n ".toList⟩ true).fixedText =
        some "a\n \n".toList := by
  have fixed : (Engine.standard.answer (m := Id) blanksAndEnd
      ⟨"readme", "a\n \n".toList⟩ true).fixedText = some "a\n ".toList := by cbv
  refine ⟨fixed, fun ended => ?_, by cbv⟩
  obtain ⟨tabs, spaces, eq, -, trims⟩ := (ended_fixedText_iff blanksAndEnd
    ⟨"readme", "a\n \n".toList⟩ _ (by decide) (by decide) fixed).1 ended ⟨2, [' '], .prose⟩ (by cbv)
  have stays : blanksAndEnd.trims "a\n \n".toList ⟨2, [' '], .prose⟩ = false := by
    decide +kernel
  have length := congrArg List.length eq
  simp only [List.length_append, List.length_replicate, List.length_singleton] at length
  by_cases positive : 0 < spaces
  · rw [trims positive] at stays
    cases stays
  · obtain rfl : spaces = 0 := by omega
    obtain rfl : tabs = 1 := by omega
    cases eq

end DocCheck
