import DocCheck.Session
import Mathlib.Data.List.Permutation

set_option autoImplicit false

namespace DocCheck

namespace Engine

/-- What a request answers when no fix pass is kept. -/
def asSubmitted (engine : Engine Id) (ruleset : Ruleset) (submission : Submission) : Outcome :=
  let initial := engine.lint ruleset submission
  ⟨initial, none, initial.errorCount⟩

def fixPass (engine : Engine Id) (ruleset : Ruleset) (submission : Submission) : List Char :=
  engine.repair submission.text (engine.lint ruleset submission).fixable

structure Keeps (engine : Engine Id) (ruleset : Ruleset) (submission : Submission) (fix : Bool) :
    Prop where
  asked : fix = true
  fixable : (engine.lint ruleset submission).fixable ≠ []
  changed : engine.fixPass ruleset submission ≠ submission.text
  counted :
    (engine.lint ruleset { submission with text := engine.fixPass ruleset submission }).errorCount ≤
      (engine.lint ruleset submission).errorCount

/-- What a request answers when a fix pass is kept. -/
def asFixed (engine : Engine Id) (ruleset : Ruleset) (submission : Submission) : Outcome :=
  let fixed := engine.fixPass ruleset submission
  ⟨engine.lint ruleset { submission with text := fixed }, some fixed,
    (engine.lint ruleset submission).errorCount⟩

/-- The second lint of a text with nothing to repair gives what the first one gave. -/
theorem answer_cases (engine : Engine Id) (ruleset : Ruleset) (submission : Submission)
    (fix : Bool) :
    engine.answer ruleset submission fix = engine.asSubmitted ruleset submission ∨
      engine.Keeps ruleset submission fix ∧
        engine.answer ruleset submission fix = engine.asFixed ruleset submission := by
  simp only [answer, pure, bind]
  split
  · exact .inl rfl
  · rename_i asked
    split
    · exact .inl rfl
    · rename_i fixable
      split
      · exact .inl rfl
      · rename_i changed
        split
        · exact .inl rfl
        · rename_i counted
          refine .inr ⟨⟨by simpa using asked, fixable, changed, Nat.le_of_not_lt counted⟩, rfl⟩

theorem answer_false (engine : Engine Id) (ruleset : Ruleset) (submission : Submission) :
    engine.answer ruleset submission false = engine.asSubmitted ruleset submission :=
  rfl

theorem keeps_of_fixedText {engine : Engine Id} {ruleset : Ruleset} {submission : Submission}
    {fix : Bool} {fixed : List Char}
    (h : (engine.answer ruleset submission fix).fixedText = some fixed) :
    engine.Keeps ruleset submission fix ∧ engine.fixPass ruleset submission = fixed ∧
      engine.answer ruleset submission fix = engine.asFixed ruleset submission := by
  rcases engine.answer_cases ruleset submission fix with unkept | ⟨keeps, answered⟩
  · rw [unkept] at h
    cases h
  · rw [answered] at h
    exact ⟨keeps, Option.some.inj h, answered⟩

theorem answer_of_keeps {engine : Engine Id} {ruleset : Ruleset} {submission : Submission}
    {fix : Bool} (keeps : engine.Keeps ruleset submission fix) :
    engine.answer ruleset submission fix = engine.asFixed ruleset submission := by
  simp only [answer, pure, bind]
  rw [if_neg (by simp [keeps.asked]), if_neg keeps.fixable]
  exact (if_neg keeps.changed).trans (if_neg (Nat.not_lt.2 keeps.counted))

theorem answer_of_not_keeps {engine : Engine Id} {ruleset : Ruleset} {submission : Submission}
    {fix : Bool} (h : ¬ engine.Keeps ruleset submission fix) :
    engine.answer ruleset submission fix = engine.asSubmitted ruleset submission :=
  (engine.answer_cases ruleset submission fix).resolve_right fun kept => h kept.1

end Engine

theorem Ruleset.findings_lintAll (ruleset : Ruleset) (name : String) (text : List Char) :
    (ruleset.lintAll [(name, text)]).findings = ruleset.lint text := by
  simp [lintAll, Results.insert, Results.findings, Named.put]

/-- The findings without an edit play no part in a repair. -/
theorem repair_filter_isFixable (text : List Char) (findings : List Finding) :
    repair text (findings.filter Finding.isFixable) = repair text findings := by
  have same : (findings.filter Finding.isFixable).filterMap Finding.edit =
      findings.filterMap Finding.edit := by
    rw [List.filterMap_filter]
    congr 1
    funext finding
    cases h : finding.edit <;> simp [Finding.isFixable, h]
  rw [repair, same, ← repair]

namespace Engine

@[simp] theorem standard_fixPass (ruleset : Ruleset) (submission : Submission) :
    standard.fixPass ruleset submission =
      DocCheck.repair submission.text (ruleset.lint submission.text) := by
  change DocCheck.repair submission.text
    ((ruleset.lintAll [(submission.name, submission.text)]).findings.filter _) = _
  rw [repair_filter_isFixable, Ruleset.findings_lintAll]

/-- The number of findings does not depend on the name of the document. -/
@[simp] theorem standard_errorCount (ruleset : Ruleset) (submission : Submission) :
    (standard (m := Id) |>.lint ruleset submission).errorCount =
      (ruleset.lint submission.text).length := by
  rw [Results.errorCount_eq_length_findings]
  exact congrArg List.length (ruleset.findings_lintAll submission.name submission.text)

theorem standard_fixable (ruleset : Ruleset) (submission : Submission) :
    (standard (m := Id) |>.lint ruleset submission).fixable =
      (ruleset.lint submission.text).filter Finding.isFixable :=
  congrArg (List.filter Finding.isFixable)
    (ruleset.findings_lintAll submission.name submission.text)

/-- A fixed text of the standard engine is the repaired text, and it differs from the text that was
submitted. -/
theorem standard_fixedText {ruleset : Ruleset} {submission : Submission} {fix : Bool}
    {fixed : List Char}
    (h : (standard.answer (m := Id) ruleset submission fix).fixedText = some fixed) :
    fixed = DocCheck.repair submission.text (ruleset.lint submission.text) ∧
      fixed ≠ submission.text := by
  obtain ⟨keeps, rfl, -⟩ := keeps_of_fixedText h
  exact ⟨standard_fixPass ruleset submission, keeps.changed⟩

end Engine

def Report.ofFindings (findings : List Finding) (fixedText : Option (List Char)) : Report :=
  ⟨List.intercalate ['\n'] (findings.map Finding.render), fixedText, findings.length⟩

/-- What a caller is told of a text, whatever its name. -/
def Ruleset.report (ruleset : Ruleset) (text : List Char) (fix : Bool) : Report :=
  let found := ruleset.lint text
  let fixed := repair text found
  if fix = true ∧ found.filter Finding.isFixable ≠ [] ∧ fixed ≠ text ∧
      (ruleset.lint fixed).length ≤ found.length then
    .ofFindings (ruleset.lint fixed) (some fixed)
  else
    .ofFindings found none

namespace Engine

theorem standard_keeps_iff {ruleset : Ruleset} {submission : Submission} {fix : Bool} :
    standard.Keeps ruleset submission fix ↔
      fix = true ∧ (ruleset.lint submission.text).filter Finding.isFixable ≠ [] ∧
        DocCheck.repair submission.text (ruleset.lint submission.text) ≠ submission.text ∧
        (ruleset.lint (DocCheck.repair submission.text (ruleset.lint submission.text))).length ≤
          (ruleset.lint submission.text).length := by
  constructor
  · rintro ⟨asked, fixable, changed, counted⟩
    rw [standard_fixable] at fixable
    rw [standard_fixPass] at changed counted
    rw [standard_errorCount, standard_errorCount] at counted
    exact ⟨asked, fixable, changed, counted⟩
  · rintro ⟨asked, fixable, changed, counted⟩
    refine ⟨asked, ?_, ?_, ?_⟩
    · rwa [standard_fixable]
    · rwa [standard_fixPass]
    · rwa [standard_fixPass, standard_errorCount, standard_errorCount]

/-- A report tells of the findings of a text and of nothing else. -/
theorem report_lint (ruleset : Ruleset) (submission : Submission) (fixedText : Option (List Char))
    (count : Nat) :
    (⟨standard (m := Id) |>.lint ruleset submission, fixedText, count⟩ : Outcome).report =
      .ofFindings (ruleset.lint submission.text) fixedText := by
  rw [Outcome.report, Outcome.errorCount, standard_errorCount, Results.render, Report.ofFindings]
  have found := ruleset.findings_lintAll submission.name submission.text
  exact congrArg
    (fun findings => Report.mk (List.intercalate ['\n'] (findings.map Finding.render)) _ _) found

theorem standard_report (ruleset : Ruleset) (submission : Submission) (fix : Bool) :
    (standard.answer (m := Id) ruleset submission fix).report =
      ruleset.report submission.text fix := by
  by_cases keeps : standard.Keeps ruleset submission fix
  · rw [answer_of_keeps keeps, asFixed, standard_fixPass, report_lint, Ruleset.report,
      if_pos (standard_keeps_iff.1 keeps)]
  · rw [answer_of_not_keeps keeps, asSubmitted, report_lint, Ruleset.report,
      if_neg (mt standard_keeps_iff.2 keeps)]

end Engine

end DocCheck
