import DocCheck.Proofs.Answer
import DocCheck.Proofs.GuardedEdits
import DocCheck.Proofs.GuardedRules
import DocCheck.Proofs.RepairedSize
import DocCheck.Proofs.TabsAlone
import DocCheck.Ruleset.Standard
import Mathlib.Algebra.Group.Nat.Defs

set_option autoImplicit false

namespace DocCheck

open Text

/-- The engine of this library, with all arithmetic guarded. -/
def Engine.guarded : Engine Guarded where
  lint ruleset submission := do
    let findings ← ruleset.guardedLint submission.text
    return ({} : Results).insert submission.name findings
  repair := guardedRepair

namespace Text

theorem stored_of_length {text : List Char} (short : text.length < 2 ^ 32) : Stored text := by
  have bytes : byteLength text + 0 * text.count '\t' ≤ (4 + 0) * text.length := room_le text
  unfold Stored signedWordLimit
  omega

end Text

namespace Ruleset

variable {ruleset : Ruleset} {text : List Char}

/-- Where the spaces for all tabs of a text have room, so have those for each run. -/
theorem breach?_eq_none_of_room (fits : room ruleset.tabWidth text < signedWordLimit) :
    ruleset.breach? text = none := by
  rw [breach?_eq_none_iff]
  intro options enabled line member run checked
  have width : ruleset.tabWidth = options.spacesPerTab := by
    rw [tabWidth, enabled]
    rfl
  have found : run ∈ HardTabs.runsFrom 0 0 line.text := by
    rw [HardTabs.checkedRuns] at checked
    split at checked
    · cases checked
    · exact checked
  have inside : List.replicate run.length '\t' <:+: text :=
    (HardTabs.replicate_isInfix found).trans (isInfix_of_mem_lines (Line.text_mem_lines member))
  have counted := inside.sublist.count_le '\t'
  rw [List.count_replicate_self] at counted
  rw [room, width] at fits
  calc run.length * options.spacesPerTab
    _ ≤ text.count '\t' * options.spacesPerTab := Nat.mul_le_mul_right _ counted
    _ = options.spacesPerTab * text.count '\t' := Nat.mul_comm ..
    _ < signedWordLimit := by omega

/-- Where no breach is, linting asks for no text longer than any can be. -/
theorem overflows_of_breach?_eq_none (quiet : ruleset.breach? text = none) :
    ruleset.overflows text = false := by
  have fits := breach?_eq_none_iff.1 quiet
  rw [overflows, List.any_eq_false]
  intro configured listed
  cases eq : configured.rule with
  | hardTabs options =>
    simp only [HardTabs.overflows, List.any_eq_true, Bool.and_eq_true, decide_eq_true_eq, not_exists,
      not_and]
    intro line member checked run found
    have runs : run ∈ options.checkedRuns line := by
      rw [HardTabs.checkedRuns, if_neg]
      · exact found
      · intro skipped
        simp [skipped.1, skipped.2] at checked
    have below := fits options (hardTabs?_of_mem listed eq) line member run runs
    have word : run.length * options.spacesPerTab < wordLimit :=
      Nat.lt_trans below (by decide)
    rw [Nat.mod_eq_of_lt word]
    omega
  | _ => exact Bool.false_ne_true

/-- Why a request stops: the text cannot be linted, or the repaired text that is linted next. -/
def requestBreach? (ruleset : Ruleset) (text : List Char) (fix : Bool) : Option Breach :=
  let found := ruleset.lint text
  let fixed := repair text found
  (ruleset.breach? text).or <|
    if fix = true ∧ found.filter Finding.isFixable ≠ [] ∧ fixed ≠ text then ruleset.breach? fixed
    else none

theorem tabWidth_le {limit : Nat}
    (narrow : ∀ options ∈ ruleset.hardTabs?, options.spacesPerTab ≤ limit) :
    ruleset.tabWidth ≤ limit := by
  rw [tabWidth]
  cases enabled : ruleset.hardTabs? with
  | none => exact Nat.zero_le _
  | some options => exact narrow options enabled

theorem room_lt (short : text.length < 2 ^ 32) (narrow : ruleset.tabWidth ≤ 2 ^ 30) :
    room ruleset.tabWidth text < signedWordLimit ∧
      room ruleset.tabWidth (repair text (ruleset.lint text)) < signedWordLimit := by
  have whole : room ruleset.tabWidth text ≤ (4 + ruleset.tabWidth) * text.length := room_le text
  have product : (4 + ruleset.tabWidth) * text.length ≤ (4 + 2 ^ 30) * 2 ^ 32 :=
    Nat.mul_le_mul (by omega) (Nat.le_of_lt short)
  have repaired : _ ≤ room ruleset.tabWidth text + 5 * text.length + 4 :=
    ruleset.room_repair_le (stored_of_length short)
  unfold signedWordLimit
  omega

end Ruleset

namespace Engine

theorem guarded_lint_eq (ruleset : Ruleset) {submission : Submission}
    (stored : Stored submission.text) :
    guarded.lint ruleset submission = .barring (ruleset.breach? submission.text)
      (ruleset.lintAll [(submission.name, submission.text)]) := by
  have lint : guarded.lint ruleset submission = (ruleset.guardedLint submission.text >>= fun found =>
      .ok (({} : Results).insert submission.name found)) := rfl
  rw [lint, ruleset.guardedLint_eq stored]
  cases ruleset.breach? submission.text <;> rfl

theorem guarded_repair_eq (ruleset : Ruleset) {submission : Submission}
    (stored : Stored submission.text) :
    guarded.repair submission.text
        (ruleset.lintAll [(submission.name, submission.text)]).fixable =
      .ok (DocCheck.repair submission.text (ruleset.lint submission.text)) := by
  have fixable : (ruleset.lintAll [(submission.name, submission.text)]).fixable =
      (ruleset.lint submission.text).filter Finding.isFixable :=
    standard_fixable ruleset submission
  rw [fixable, ← repair_filter_isFixable]
  exact ruleset.guardedRepair_eq stored fun finding found => (List.mem_filter.1 found).1

/-- A guarded request stops where one of its texts cannot be linted. Else it is answered as ever. -/
theorem guarded_answer_eq (ruleset : Ruleset) (submission : Submission) (fix : Bool)
    (stored : Stored submission.text)
    (fixedStored : Stored (DocCheck.repair submission.text (ruleset.lint submission.text))) :
    guarded.answer ruleset submission fix =
      .barring (ruleset.requestBreach? submission.text fix)
        (standard.answer (m := Id) ruleset submission fix) := by
  have fixable : (ruleset.lintAll [(submission.name, submission.text)]).fixable =
      (ruleset.lint submission.text).filter Finding.isFixable :=
    standard_fixable ruleset submission
  have pass := standard_fixPass ruleset submission
  have unkept (differs : ¬ standard.Keeps ruleset submission fix) :
      standard.answer (m := Id) ruleset submission fix =
        ⟨ruleset.lintAll [(submission.name, submission.text)], none,
          (ruleset.lintAll [(submission.name, submission.text)]).errorCount⟩ :=
    answer_of_not_keeps differs
  rw [answer, guarded_lint_eq ruleset stored, Ruleset.requestBreach?]
  cases ruleset.breach? submission.text with
  | some breach => rfl
  | none =>
    rw [Guarded.barring_none, Guarded.ok_bind, Option.none_or]
    by_cases asked : fix = false
    · rw [if_pos asked, if_neg (by simp [asked]), Guarded.barring_none,
        unkept fun keeps => Bool.false_ne_true (asked.symm.trans keeps.asked)]
      rfl
    rw [if_neg asked]
    by_cases bare : (ruleset.lintAll [(submission.name, submission.text)]).fixable = []
    · rw [if_pos bare, if_neg (by simp [← fixable, bare]), Guarded.barring_none,
        unkept fun keeps => keeps.fixable bare]
      rfl
    rw [if_neg bare, guarded_repair_eq ruleset stored, Guarded.ok_bind]
    generalize DocCheck.repair submission.text (ruleset.lint submission.text) = fixed at *
    by_cases same : fixed = submission.text
    · rw [if_pos same, if_neg fun acts => acts.2.2 same, Guarded.barring_none,
        unkept fun keeps => keeps.changed (pass.trans same)]
      rfl
    -- The repaired text is linted in its turn.
    have again : guarded.lint ruleset { submission with text := fixed } =
        .barring (ruleset.breach? fixed) (ruleset.lintAll [(submission.name, fixed)]) :=
      guarded_lint_eq ruleset fixedStored
    rw [if_neg same, if_pos ⟨by simpa using asked, by rwa [← fixable], same⟩, again]
    cases ruleset.breach? fixed with
    | some breach => rfl
    | none =>
      rw [Guarded.barring_none, Guarded.ok_bind, Guarded.barring_none]
      by_cases keeps : standard.Keeps ruleset submission fix
      · have counted := keeps.counted
        rw [pass] at counted
        rw [answer_of_keeps keeps, asFixed, pass]
        exact if_neg (Nat.not_lt.2 counted)
      · rw [unkept keeps]
        refine if_pos (Nat.lt_of_not_le fun counted => keeps ⟨by simpa using asked, bare, ?_, ?_⟩)
        · rwa [pass]
        · rw [pass]
          exact counted

end Engine

/-- Linting a text of fewer than `2 ^ 32` characters computes every number as a word, but for the spaces
of a run of tabs, which may be more than a text can hold. The edits of its findings are applied with all
numbers words. Where at most `2 ^ 30` spaces take the place of each tab, no request computes a number
that is none. -/
theorem guarded_answer (ruleset : Ruleset) (submission : Submission) (fix : Bool)
    (short : submission.text.length < 2 ^ 32) :
    ruleset.guardedLint submission.text =
        .barring (ruleset.breach? submission.text) (ruleset.lint submission.text) ∧
      guardedRepair submission.text ((ruleset.lint submission.text).filter Finding.isFixable) =
        .ok (repair submission.text (ruleset.lint submission.text)) ∧
      (ruleset.breach? submission.text = none ↔
        ∀ options ∈ ruleset.hardTabs?, ∀ line ∈ Line.ofText submission.text,
          ∀ run ∈ options.checkedRuns line, run.length * options.spacesPerTab < signedWordLimit) ∧
      (ruleset.breach? submission.text = none → ruleset.overflows submission.text = false) ∧
      (Stored (repair submission.text (ruleset.lint submission.text)) →
        Engine.guarded.answer ruleset submission fix =
          .barring (ruleset.requestBreach? submission.text fix)
            (Engine.standard.answer (m := Id) ruleset submission fix)) ∧
      ((∀ options ∈ ruleset.hardTabs?, options.spacesPerTab ≤ 2 ^ 30) →
        Engine.guarded.answer ruleset submission fix =
          .ok (Engine.standard.answer (m := Id) ruleset submission fix)) := by
  have stored := stored_of_length short
  refine ⟨ruleset.guardedLint_eq stored, ?_, Ruleset.breach?_eq_none_iff,
    Ruleset.overflows_of_breach?_eq_none, ?_, ?_⟩
  · rw [← repair_filter_isFixable]
    exact ruleset.guardedRepair_eq stored fun finding found => (List.mem_filter.1 found).1
  · exact Engine.guarded_answer_eq ruleset submission fix stored
  · intro narrow
    obtain ⟨before, after⟩ := Ruleset.room_lt short (Ruleset.tabWidth_le narrow)
    have fixedStored : Stored (repair submission.text (ruleset.lint submission.text)) :=
      Nat.lt_of_le_of_lt (Nat.le_add_right ..) after
    have quiet : ruleset.requestBreach? submission.text fix = none := by
      rw [Ruleset.requestBreach?, Ruleset.breach?_eq_none_of_room before, Option.none_or]
      split
      · exact Ruleset.breach?_eq_none_of_room after
      · rfl
    rw [Engine.guarded_answer_eq ruleset submission fix stored fixedStored, quiet,
      Guarded.barring_none]

/-- The rule on tabs alone, with more spaces for a tab than a text can hold. -/
def wideTabs : Ruleset :=
  ⟨[⟨.hardTabs { spacesPerTab := signedWordLimit }, .error⟩], by decide⟩

/-- The ruleset is accepted, and the number of spaces for three tabs is no word. With one space for each
tab there is no breach. -/
theorem guarded_answer_wideTabs :
    RawRuleset.toRuleset
        { enabledByDefault := false
          entries := [("MD010", .object [("spaces_per_tab", .integer signedWordLimit)])] } =
      .ok wideTabs ∧
    wideTabs.guardedLint "\t\t\t".toList = .error .product ∧
      Engine.guarded.answer .embedded ⟨"readme", "\t\t\t".toList⟩ true =
        .ok (Engine.standard.answer (m := Id) .embedded ⟨"readme", "\t\t\t".toList⟩ true) := by
  refine ⟨rfl, ?_, ?_⟩
  · have found : wideTabs.breach? "\t\t\t".toList = some .product := by decide
    rw [(guarded_answer wideTabs ⟨"readme", "\t\t\t".toList⟩ false (by decide)).1, found]
    rfl
  · have narrow : ∀ options ∈ Ruleset.embedded.hardTabs?, options.spacesPerTab ≤ 2 ^ 30 := by
      decide
    exact (guarded_answer .embedded ⟨"readme", "\t\t\t".toList⟩ true (by decide)).2.2.2.2.2 narrow

end DocCheck
