import DocCheck.Proofs.LoneRule
import DocCheck.Proofs.TabWidth

set_option autoImplicit false

namespace DocCheck

open Text

theorem HardTabs.replicate_isInfix {text : List Char} {run : Span} (h : run ∈ runsFrom 0 0 text) :
    List.replicate run.length '\t' <:+: text := by
  rw [← cut_eq_replicate h, cut]
  exact (List.take_prefix _ _).isInfix.trans (List.drop_suffix _ _).isInfix

/-- For no stretch of tabs on a line of the text do the spaces come to `limit` or more. -/
def HardTabs.StaysBelow (options : HardTabs) (limit : Nat) (text : List Char) : Prop :=
  ∀ line ∈ lines text, ∀ count, List.replicate count '\t' <:+: line →
    count * options.spacesPerTab < limit

/-- No stretch is longer than its line. -/
theorem HardTabs.staysBelow_of_length {options : HardTabs} {limit : Nat} {text : List Char}
    (short : ∀ line ∈ lines text, line.length * options.spacesPerTab < limit) :
    options.StaysBelow limit text := by
  intro line found count inside
  have length := inside.length_le
  rw [List.length_replicate] at length
  exact Nat.lt_of_le_of_lt (Nat.mul_le_mul_right _ length) (short line found)

/-- Inline comments leave the rule on tabs on for the line, and it is prose or code is checked. -/
def HardTabs.Checks (options : HardTabs) (text : List Char) (line : Line) : Prop :=
  (Document.ofText text).suppresses line.number .hardTabs = false ∧
    (line.kind.isCode = true → options.inCode = true)

instance (options : HardTabs) (text : List Char) (line : Line) :
    Decidable (options.Checks text line) :=
  inferInstanceAs (Decidable (_ ∧ _))

namespace Ruleset

variable {ruleset : Ruleset} {text : List Char} {line : Line} {options : HardTabs}
  {severity : Severity}

section Alone

variable (alone : ruleset.rules = [⟨.hardTabs options, severity⟩])

include alone

theorem tabs?_of_alone :
    ruleset.tabs? text line = if options.Checks text line then some options else none := by
  have only : ruleset.tabs? text line =
      ConfiguredRule.tabs? ⟨.hardTabs options, severity⟩ (.ofText text) line := by
    rw [tabs?, alone]
    simp
  have checks : options.Checks text line ↔
      ¬ ((Document.ofText text).suppresses line.number .hardTabs = true ∨
        line.kind.isCode = true ∧ ¬ options.inCode = true) := by
    simp [HardTabs.Checks]
  simp only [only, ConfiguredRule.tabs?, checks, ite_not]

theorem asks_iff_mem_fills {edit : Edit} :
    ruleset.Asks text line edit ↔ edit ∈ ruleset.fills text line := by
  refine ⟨fun asks => ?_, asks_of_mem_fills⟩
  obtain ⟨left, mends⟩ := (asks_iff_of_alone alone).1 asks
  cases mends with
  | tabs checked found =>
    refine mem_fills.2 ⟨options, tabs?_eq_some.2 ⟨_, alone ▸ List.mem_singleton.2 rfl, ?_⟩, _, found,
      rfl⟩
    exact ConfiguredRule.tabs?_eq_some.2 ⟨rfl, left, checked⟩

theorem mended_of_tabsAlone (stored : Stored text) (member : line ∈ Line.ofText text) :
    ruleset.mended text line = ruleset.untabbed text line line.text := by
  have kept : ruleset.deletes text line = false :=
    deletes_eq_false_of_off (by rw [enables_of_alone alone]; rfl) member
  have inner : newline line ∉ ruleset.fills text line := fun found =>
    absurd (finish_le_of_mem_fills found).1 (Nat.lt_irrefl _)
  rw [mended, acting_eq stored member kept (ruleset.pairwise_fills text line)
    (fun edit => asks_iff_mem_fills alone) inner, splice_fills _ 0 (by simp)]

theorem mended_eq_widen (stored : Stored text) (member : line ∈ Line.ofText text)
    (words : options.StaysBelow wordLimit text) :
    ruleset.mended text line =
      if options.Checks text line then widen options.spacesPerTab line.text else line.text := by
  have whole := options.expandFrom_eq_widen
    fun (run : Span) (found : run ∈ HardTabs.runsFrom 0 0 line.text) =>
      words line.text (Line.text_mem_lines member) run.length (HardTabs.replicate_isInfix found)
  rw [Nat.zero_mul, List.replicate_zero, List.nil_append] at whole
  rw [mended_of_tabsAlone alone stored member, untabbed, tabs?_of_alone alone]
  split
  · rename_i none
    split at none
    · cases none
    · rename_i unchecked
      rw [if_neg unchecked]
  · rename_i others eq
    split at eq
    · rename_i checked
      rw [if_pos checked, ← Option.some.inj eq, HardTabs.expand, whole]
    · cases eq

theorem overflows_eq_false (room : options.StaysBelow signedWordLimit text) :
    ruleset.overflows text = false := by
  simp only [overflows, alone, List.any_cons, List.any_nil, Bool.or_false, HardTabs.overflows]
  rw [List.any_eq_false]
  intro line member
  rw [Bool.and_eq_true, not_and, List.any_eq_true]
  rintro - ⟨run, found, beyond⟩
  have less := room line.text (Line.text_mem_lines member) run.length
    (HardTabs.replicate_isInfix found)
  have most := Nat.mod_le (run.length * options.spacesPerTab) wordLimit
  have beyond := of_decide_eq_true beyond
  omega

end Alone

end Ruleset

/-- The rule on tabs alone makes of each tab of a line that it checks as many spaces as its options
say, and it changes no other line, where the spaces for each run of tabs are a word in number. Linting
does not fail where they are a signed word. -/
theorem lines_repair_hardTabs (ruleset : Ruleset) (options : HardTabs) (severity : Severity)
    (alone : ruleset.rules = [⟨.hardTabs options, severity⟩]) (text : List Char)
    (stored : Stored text) (words : options.StaysBelow wordLimit text) :
    lines (repair text (ruleset.lint text)) =
        ((Line.ofText text).map fun line =>
          if options.Checks text line then widen options.spacesPerTab line.text else line.text) ∧
      (options.StaysBelow signedWordLimit text → ruleset.overflows text = false) := by
  refine ⟨?_, Ruleset.overflows_eq_false alone⟩
  rw [Ruleset.lines_repair_of_off stored (by rw [Ruleset.enables_of_alone alone]; rfl)
    (by rw [Ruleset.enables_of_alone alone]; rfl)]
  exact List.map_congr_left fun line member => Ruleset.mended_eq_widen alone stored member words

def twoSpaces : HardTabs :=
  { inCode := false, spacesPerTab := 2 }

/-- The rule on tabs is off on the second line, and the fourth one is code. -/
def tabbed : List Char :=
  "\t\u00e9\t\tx\r\n<!-- markdownlint-disable-line -->\ty\n~~~\n\tz\n~~~\n\t#".toList

theorem lines_repair_hardTabs_tabbed :
    lines (repair tabbed (Ruleset.lint ⟨[⟨.hardTabs twoSpaces, .error⟩], by decide⟩ tabbed)) =
        ["  \u00e9    x".toList, "<!-- markdownlint-disable-line -->\ty".toList, "~~~".toList,
          "\tz".toList, "~~~".toList, "  #".toList] ∧
      Ruleset.overflows ⟨[⟨.hardTabs twoSpaces, .error⟩], by decide⟩ tabbed = false := by
  obtain ⟨made, holds⟩ := lines_repair_hardTabs ⟨[⟨.hardTabs twoSpaces, .error⟩], by decide⟩
    twoSpaces .error rfl tabbed (by decide)
    (HardTabs.staysBelow_of_length (by decide +kernel))
  exact ⟨made.trans (by decide +kernel),
    holds (HardTabs.staysBelow_of_length (by decide +kernel))⟩

end DocCheck
