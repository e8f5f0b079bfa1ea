import DocCheck.Proofs.EffectivePass
import DocCheck.Proofs.LineBreaks
import DocCheck.Ruleset.Standard

set_option autoImplicit false

namespace DocCheck

open Text

/-- A document is made of lines, whatever separated them. -/
theorem Document.ofText_withBreaks (ending : LineEnding) (text : List Char) :
    Document.ofText (withBreaks ending text) = Document.ofText text := by
  rw [ofText, ofText, Line.ofText, Line.ofText, lines_withBreaks]

namespace Ruleset

variable {ruleset : Ruleset} {text : List Char}

@[simp] theorem lint_withBreaks (ruleset : Ruleset) (ending : LineEnding) (text : List Char) :
    ruleset.lint (withBreaks ending text) = ruleset.lint text := by
  rw [lint, lint, Document.ofText_withBreaks]

/-- The line break of the submitted text joins the repaired lines. -/
theorem repair_withBreaks (ending : LineEnding) (stored : Stored text)
    (broken : breaks text ≠ []) :
    repair (withBreaks ending text) (ruleset.lint text) =
      withBreaks ending (repair text (ruleset.lint text)) := by
  rw [repair, Edit.applyAll, lineEnding_withBreaks ending broken, lines_withBreaks,
    repair_eq_joinLines stored,
    withBreaks_joinLines _ _ fun _ found => unbroken_of_mem_repairedLines stored found]
  exact joinLines_survivors ending stored

theorem breaks_repair (stored : Stored text) {ending : LineEnding}
    (h : ending ∈ breaks (repair text (ruleset.lint text))) : ending = lineEnding text := by
  rw [repair_eq_joinLines stored,
    breaks_joinLines _ fun _ found => unbroken_of_mem_repairedLines stored found] at h
  exact List.eq_of_mem_replicate h

/-- Where a finding can be repaired, the pass changes the lines of a text of several lines. -/
theorem lines_repair_ne (stored : Stored text) (broken : breaks text ≠ [])
    (fixable : (ruleset.lint text).filter Finding.isFixable ≠ []) :
    lines (repair text (ruleset.lint text)) ≠ lines text := by
  intro same
  have several : 1 < (lines text).length := by
    rw [length_lines]
    exact Nat.succ_lt_succ (List.length_pos_iff.2 broken)
  have none := edits_eq_nil_of_lines_repair stored several same
  rw [edits, List.filterMap_eq_nil_iff] at none
  apply fixable
  rw [List.filter_eq_nil_iff]
  intro finding found
  rw [Finding.isFixable, none finding found]
  exact Bool.false_ne_true

end Ruleset

def Submission.withBreaks (submission : Submission) (ending : LineEnding) : Submission :=
  { submission with text := Text.withBreaks ending submission.text }

namespace Engine

variable {ruleset : Ruleset} {submission : Submission}

theorem standard_lint_withBreaks (ruleset : Ruleset) (submission : Submission)
    (ending : LineEnding) :
    (standard (m := Id)).lint ruleset (submission.withBreaks ending) =
      standard.lint ruleset submission := by
  simp only [standard, Ruleset.lintAll, Submission.withBreaks, Ruleset.lint_withBreaks,
    List.foldl_cons, List.foldl_nil]

section Broken

variable (stored : Stored submission.text) (broken : breaks submission.text ≠ [])
include stored broken

theorem standard_fixPass_withBreaks (ending : LineEnding) :
    standard.fixPass ruleset (submission.withBreaks ending) =
      Text.withBreaks ending (standard.fixPass ruleset submission) := by
  rw [standard_fixPass, standard_fixPass, Submission.withBreaks, Ruleset.lint_withBreaks,
    Ruleset.repair_withBreaks ending stored broken]

/-- The lint of the repaired text does not depend on its line breaks. -/
theorem standard_lint_fixPass_withBreaks (ending : LineEnding) :
    (standard (m := Id)).lint ruleset { submission.withBreaks ending with
        text := standard.fixPass ruleset (submission.withBreaks ending) } =
      standard.lint ruleset { submission with text := standard.fixPass ruleset submission } := by
  rw [standard_fixPass_withBreaks stored broken]
  exact standard_lint_withBreaks ruleset
    { submission with text := standard.fixPass ruleset submission } ending

/-- A pass is kept or dropped whatever the line breaks are: it never changes them alone. -/
theorem standard_keeps_withBreaks (ending : LineEnding) (fix : Bool) :
    standard.Keeps ruleset (submission.withBreaks ending) fix ↔
      standard.Keeps ruleset submission fix := by
  have change (fixable : (standard (m := Id) |>.lint ruleset submission).fixable ≠ []) :
      lines (standard.fixPass ruleset submission) ≠ lines submission.text := by
    rw [standard_fixable] at fixable
    rw [standard_fixPass]
    exact Ruleset.lines_repair_ne stored broken fixable
  constructor
  · rintro ⟨asked, fixable, -, counted⟩
    rw [standard_lint_withBreaks] at fixable counted
    rw [standard_lint_fixPass_withBreaks stored broken] at counted
    exact ⟨asked, fixable, fun same => change fixable (congrArg lines same), counted⟩
  · rintro ⟨asked, fixable, -, counted⟩
    refine ⟨asked, ?_, fun same => change fixable ?_, ?_⟩
    · rwa [standard_lint_withBreaks]
    · rw [standard_fixPass_withBreaks stored broken] at same
      have split := congrArg lines same
      rwa [lines_withBreaks, Submission.withBreaks, lines_withBreaks] at split
    · rwa [standard_lint_fixPass_withBreaks stored broken, standard_lint_withBreaks]

theorem standard_answer_withBreaks (ending : LineEnding) (fix : Bool) :
    standard.answer (m := Id) ruleset (submission.withBreaks ending) fix =
      let answer := standard.answer (m := Id) ruleset submission fix
      { answer with fixedText := answer.fixedText.map (Text.withBreaks ending) } := by
  have same : standard.Keeps ruleset (submission.withBreaks ending) fix ↔
      standard.Keeps ruleset submission fix := standard_keeps_withBreaks stored broken ending fix
  by_cases keeps : standard.Keeps ruleset submission fix
  · rw [answer_of_keeps keeps, answer_of_keeps (same.2 keeps), asFixed, asFixed,
      standard_lint_fixPass_withBreaks stored broken, standard_lint_withBreaks,
      standard_fixPass_withBreaks stored broken]
    rfl
  · rw [answer_of_not_keeps keeps, answer_of_not_keeps (mt same.1 keeps), asSubmitted, asSubmitted,
      standard_lint_withBreaks]
    rfl

end Broken

end Engine

/-- With `ending` in the place of every line break, a text has the findings that it had, and a
request gets the report that it got, where a fixed text has `ending` in the place of its line breaks.
These are the first line break of the submitted text. -/
theorem report_withBreaks (ruleset : Ruleset) (submission : Submission) (fix : Bool)
    (ending : LineEnding) (stored : Stored submission.text)
    (broken : breaks submission.text ≠ []) :
    let report := (Engine.standard.answer (m := Id) ruleset submission fix).report
    ruleset.lint (withBreaks ending submission.text) = ruleset.lint submission.text ∧
    (Engine.standard.answer (m := Id) ruleset (submission.withBreaks ending) fix).report =
      { report with fixedText := report.fixedText.map (withBreaks ending) } ∧
    ∀ fixed, report.fixedText = some fixed →
      ∀ used ∈ breaks fixed, (breaks submission.text).head? = some used := by
  refine ⟨ruleset.lint_withBreaks ending submission.text, ?_, fun fixed kept used found => ?_⟩
  · rw [Engine.standard_answer_withBreaks stored broken]
    rfl
  · obtain ⟨rfl, -⟩ := Engine.standard_fixedText kept
    obtain ⟨first, rest, eq⟩ := List.exists_cons_of_ne_nil broken
    rw [Ruleset.breaks_repair stored found, lineEnding_eq, eq]
    rfl

/-- A space follows hashes, and the last line is empty. -/
def spacedAndEnded : Ruleset :=
  ⟨[⟨.missingSpace {}, .error⟩, ⟨.finalNewline {}, .error⟩], by decide⟩

/-- The pass puts a space behind the hash, and the line breaks are not what it changes. -/
theorem report_withBreaks_mixed :
    breaks "#A\r\n\n".toList = [.crlf, .lf] ∧
    (Engine.standard.answer (m := Id) spacedAndEnded
      (Submission.withBreaks ⟨"readme", "#A\r\n\n".toList⟩ .cr) true).report.fixedText =
        some "# A\r\r".toList := by
  refine ⟨rfl, ?_⟩
  have same := report_withBreaks spacedAndEnded ⟨"readme", "#A\r\n\n".toList⟩ true .cr
    (by decide) (by decide)
  exact (congrArg Report.fixedText same.2.1).trans (by cbv)

end DocCheck
