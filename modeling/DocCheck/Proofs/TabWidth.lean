import DocCheck.Proofs.PlainEdits
import DocCheck.Proofs.VisibleText

set_option autoImplicit false

namespace DocCheck

open Text

/-- The text with `width` spaces in the place of each tab. -/
def Text.widen (width : Nat) (text : List Char) : List Char :=
  text.flatMap fun c => if c = '\t' then List.replicate width ' ' else [c]

namespace Text

variable {width : Nat}

@[simp] theorem widen_nil : widen width [] = [] :=
  rfl

theorem widen_tab (rest : List Char) :
    widen width ('\t' :: rest) = List.replicate width ' ' ++ widen width rest :=
  rfl

theorem widen_cons {c : Char} (h : c ≠ '\t') (rest : List Char) :
    widen width (c :: rest) = c :: widen width rest := by
  rw [widen, List.flatMap_cons, if_neg h, List.singleton_append, widen]

@[simp] theorem widen_append (front back : List Char) :
    widen width (front ++ back) = widen width front ++ widen width back :=
  List.flatMap_append

theorem widen_eq_self {text : List Char} (h : '\t' ∉ text) : widen width text = text := by
  induction text with
  | nil => rfl
  | cons c text ih =>
    obtain ⟨here, there⟩ := not_or.1 (mt List.mem_cons.2 h)
    rw [widen_cons (Ne.symm here), ih there]

end Text

namespace HardTabs

variable (options : HardTabs)

theorem spaces_eq_replicate {count : Nat} (word : count * options.spacesPerTab < wordLimit) :
    options.spaces count = List.replicate (count * options.spacesPerTab) ' ' := by
  rw [spaces, Nat.mod_eq_of_lt word]

theorem expandFrom_eq_widen {before tabs : Nat} {text : List Char}
    (words : ∀ run ∈ runsFrom before tabs text, run.length * options.spacesPerTab < wordLimit) :
    options.expandFrom tabs text =
      List.replicate (tabs * options.spacesPerTab) ' ' ++ widen options.spacesPerTab text := by
  fun_induction runsFrom before tabs text with
  | case1 before tabs positive =>
    rw [expandFrom, options.spaces_eq_replicate (words _ (List.mem_singleton.2 rfl)), widen_nil,
      List.append_nil]
  | case2 before tabs zero =>
    obtain rfl : tabs = 0 := by omega
    simp [expandFrom]
  | case3 before tabs rest ih =>
    rw [expandFrom, ih words, widen_tab, ← List.append_assoc, List.replicate_append_replicate,
      Nat.succ_mul]
  | case4 before tabs c rest h positive ih =>
    obtain ⟨here, there⟩ := List.forall_mem_cons.1 words
    have tail := ih there
    rw [Nat.zero_mul, List.replicate_zero, List.nil_append] at tail
    rw [expandFrom_cons options h, expand, tail, options.spaces_eq_replicate here, widen_cons h]
  | case5 before tabs c rest h zero ih =>
    obtain rfl : tabs = 0 := by omega
    have tail := ih words
    rw [Nat.zero_mul, List.replicate_zero, List.nil_append] at tail
    rw [expandFrom_cons options h, expand, tail, spaces_zero, widen_cons h, Nat.zero_mul]
    rfl

theorem not_mem_of_runsFrom_eq_nil {before tabs : Nat} {text : List Char}
    (h : runsFrom before tabs text = []) : tabs = 0 ∧ '\t' ∉ text := by
  fun_induction runsFrom before tabs text with
  | case1 => cases h
  | case2 before tabs zero => exact ⟨by omega, by simp⟩
  | case3 before tabs rest ih => exact absurd (ih h).1 (Nat.succ_ne_zero tabs)
  | case4 => cases h
  | case5 before tabs c rest plain zero ih =>
    have none := (ih h).2
    refine ⟨by omega, ?_⟩
    intro found
    rcases List.mem_cons.1 found with tab | found
    · exact plain tab.symm
    · exact none found

end HardTabs

def ConfiguredRule.hardTabs? (configured : ConfiguredRule) : Option HardTabs :=
  match configured.rule with
  | .hardTabs options => some options
  | _ => none

theorem ConfiguredRule.hardTabs?_eq_some {configured : ConfiguredRule} {options : HardTabs} :
    configured.hardTabs? = some options ↔ configured.rule = .hardTabs options := by
  rw [hardTabs?]
  split
  · rename_i others eq
    rw [eq, Rule.hardTabs.injEq, Option.some.injEq]
  · rename_i other
    exact ⟨nofun, fun eq => absurd eq (other options)⟩

namespace Ruleset

variable {ruleset : Ruleset} {text : List Char} {line : Line} {options : HardTabs}

/-- The options of the rule on tabs, if it is enabled. -/
def hardTabs? (ruleset : Ruleset) : Option HardTabs :=
  ruleset.rules.findSome? ConfiguredRule.hardTabs?

/-- A ruleset holds the rule on tabs once. -/
theorem hardTabs?_of_mem {configured : ConfiguredRule} (enabled : configured ∈ ruleset.rules)
    (eq : configured.rule = .hardTabs options) : ruleset.hardTabs? = some options := by
  have own := ConfiguredRule.hardTabs?_eq_some.2 eq
  have found : ruleset.hardTabs?.isSome = true :=
    List.findSome?_isSome_iff.2 ⟨configured, enabled, by rw [own]; rfl⟩
  obtain ⟨others, first⟩ := Option.isSome_iff_exists.1 found
  obtain ⟨other, listed, theirs⟩ := List.exists_of_findSome?_eq_some first
  have same : other = configured := by
    apply eq_of_id_eq listed enabled
    rw [ConfiguredRule.id, ConfiguredRule.id, ConfiguredRule.hardTabs?_eq_some.1 theirs, eq, Rule.id,
      Rule.id]
  rw [first, ← theirs, same, own]

/-- The rule on tabs is off, or it puts at least one space in the place of each tab, and for no run of
tabs of the text more spaces than a word counts. -/
def FillsTabs (ruleset : Ruleset) (text : List Char) : Prop :=
  ∀ options ∈ ruleset.hardTabs?, 1 ≤ options.spacesPerTab ∧
    ∀ line ∈ Line.ofText text, ∀ run ∈ HardTabs.runsFrom 0 0 line.text,
      run.length * options.spacesPerTab < wordLimit

instance (ruleset : Ruleset) (text : List Char) : Decidable (ruleset.FillsTabs text) :=
  inferInstanceAs (Decidable (∀ options ∈ ruleset.hardTabs?, 1 ≤ options.spacesPerTab ∧
    ∀ line ∈ Line.ofText text, ∀ run ∈ HardTabs.runsFrom 0 0 line.text,
      run.length * options.spacesPerTab < wordLimit))

theorem FillsTabs.spaces_ne_nil (filled : ruleset.FillsTabs text) (member : line ∈ Line.ofText text)
    (enabled : ruleset.hardTabs? = some options) {run : Span}
    (found : run ∈ HardTabs.runsFrom 0 0 line.text) : options.spaces run.length ≠ [] := by
  obtain ⟨wide, words⟩ := filled options enabled
  have positive := (HardTabs.bounds_of_mem_runsFrom (Nat.le_refl 0) found).2.1
  have some := Nat.mul_pos positive wide
  rw [options.spaces_eq_replicate (words line member run found), ← List.length_pos_iff,
    List.length_replicate]
  exact some

theorem hardTabs?_of_tabs? (checks : ruleset.tabs? text line = some options) :
    ruleset.hardTabs? = some options := by
  obtain ⟨configured, enabled, checks⟩ := tabs?_eq_some.1 checks
  exact hardTabs?_of_mem enabled (ConfiguredRule.tabs?_eq_some.1 checks).1

def tabWidth (ruleset : Ruleset) : Nat :=
  ruleset.hardTabs?.elim 0 HardTabs.spacesPerTab

theorem FillsTabs.tabWidth_pos (filled : ruleset.FillsTabs text)
    (enabled : ruleset.hardTabs? = some options) : 1 ≤ ruleset.tabWidth := by
  rw [tabWidth, enabled]
  exact (filled options enabled).1

/-- A part of the line with its tabs widened, if the rule on tabs reports the line. -/
def widened (ruleset : Ruleset) (text : List Char) (line : Line) (part : List Char) : List Char :=
  if ruleset.reports .hardTabs text line then widen ruleset.tabWidth part else part

@[simp] theorem widened_nil : ruleset.widened text line [] = [] := by
  rw [widened]
  split <;> rfl

@[simp] theorem widened_append (front back : List Char) :
    ruleset.widened text line (front ++ back) =
      ruleset.widened text line front ++ ruleset.widened text line back := by
  rw [widened, widened, widened]
  split
  · exact widen_append front back
  · rfl

/-- The rule on tabs reports a line that it checks and that holds a tab. -/
theorem reports_hardTabs_of_mem (member : line ∈ Line.ofText text)
    (checks : ruleset.tabs? text line = some options) (tab : '\t' ∈ line.text) :
    ruleset.reports .hardTabs text line = true := by
  obtain ⟨configured, enabled, checks⟩ := tabs?_eq_some.1 checks
  obtain ⟨eq, left, checked⟩ := ConfiguredRule.tabs?_eq_some.1 checks
  have some : HardTabs.runsFrom 0 0 line.text ≠ [] := fun none =>
    (HardTabs.not_mem_of_runsFrom_eq_nil none).2 tab
  obtain ⟨run, found⟩ := List.exists_mem_of_ne_nil _ some
  have id : configured.id = .hardTabs := by rw [ConfiguredRule.id, eq, Rule.id]
  rw [← id]
  have mends : Mends (.ofText text) line configured.rule (options.fill line.number run) := by
    rw [eq]
    exact .tabs checked found
  exact reports_of_mends member enabled (by rw [id, left]) mends

theorem tabs?_of_reports (member : line ∈ Line.ofText text)
    (h : ruleset.reports .hardTabs text line = true) :
    ∃ options, ruleset.tabs? text line = some options := by
  obtain ⟨configured, enabled, id, left, edit, mends⟩ := (reports_iff_mends rfl member).1 h
  generalize eq : configured.rule = rule at mends id
  cases mends with
  | @tabs options run checked found =>
    exact ⟨options, tabs?_eq_some.2 ⟨configured, enabled,
      ConfiguredRule.tabs?_eq_some.2 ⟨eq, left, checked⟩⟩⟩
  | _ => cases id

/-- Where the text is filled, expanding the tabs of a part widens them. -/
theorem FillsTabs.untabbed_eq_widened (filled : ruleset.FillsTabs text)
    (member : line ∈ Line.ofText text) (before : Nat) {part : List Char}
    (inside : ∀ c ∈ part, c ∈ line.text)
    (runs : ∀ run ∈ HardTabs.runsFrom before 0 part, run ∈ HardTabs.runsFrom 0 0 line.text) :
    ruleset.untabbed text line part = ruleset.widened text line part := by
  cases checks : ruleset.tabs? text line with
  | none =>
    have silent : ruleset.reports .hardTabs text line = false := by
      rw [← Bool.not_eq_true]
      intro reports
      obtain ⟨options, checked⟩ := tabs?_of_reports member reports
      rw [checks] at checked
      cases checked
    simp only [untabbed, checks, widened, silent, Bool.false_eq_true, if_false]
  | some options =>
    have enabled := hardTabs?_of_tabs? checks
    have expanded : options.expand part = widen options.spacesPerTab part := by
      have whole := options.expandFrom_eq_widen fun run found =>
        (filled options enabled).2 line member run (runs run found)
      rwa [Nat.zero_mul, List.replicate_zero, List.nil_append] at whole
    have width : ruleset.tabWidth = options.spacesPerTab := by rw [tabWidth, enabled]; rfl
    simp only [untabbed, checks, widened, expanded, width]
    split
    · rfl
    · rename_i silent
      apply widen_eq_self
      intro tab
      exact silent (reports_hardTabs_of_mem member checks (inside '\t' tab))

end Ruleset

end DocCheck
