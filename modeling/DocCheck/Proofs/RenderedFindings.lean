import DocCheck.Proofs.Answer
import DocCheck.Proofs.ByteOrder
import DocCheck.Proofs.JoinedLines
import DocCheck.Proofs.Quotations
import DocCheck.Proofs.RecordedFindings

set_option autoImplicit false

namespace DocCheck

open Text

theorem not_mem_toDigits {c : Char} (h : c.isDigit = false) (n : Nat) : c ∉ Nat.toDigits 10 n := by
  intro found
  have digit := Nat.isDigit_of_mem_toDigits (by decide) (by decide) found
  rw [h] at digit
  cases digit

theorem not_mem_toList_append {c : Char} {a b : String} (left : c ∉ a.toList)
    (right : c ∉ b.toList) : c ∉ (a ++ b).toList := by
  rw [String.toList_append, List.mem_append, not_or]
  exact ⟨left, right⟩

/-- Of the particulars, only a punctuation mark comes from the document. -/
theorem Detail.newline_not_mem_message {detail : Detail}
    (mark : ∀ c, detail = .punctuation c → c ≠ '\n') : '\n' ∉ detail.message.toList := by
  have number (n : Nat) : '\n' ∉ (toString n).toList := by
    rw [show (toString n).toList = Nat.toDigits 10 n from Nat.toList_repr]
    exact not_mem_toDigits (by decide) n
  have pair {before between : String} (m n : Nat) (first : '\n' ∉ before.toList)
      (second : '\n' ∉ between.toList) :
      '\n' ∉ (before ++ toString m ++ between ++ toString n).toList :=
    not_mem_toList_append
      (not_mem_toList_append (not_mem_toList_append first (number m)) second) (number n)
  cases detail with
  | level allowed actual => exact pair allowed actual (by decide) (by decide)
  | trailing hardBreak actual =>
    cases hardBreak with
    | none => exact not_mem_toList_append (by decide) (number actual)
    | some hardBreak => exact pair hardBreak actual (by decide) (by decide)
  | excess limit actual => exact pair limit actual (by decide) (by decide)
  | column position => exact not_mem_toList_append (by decide) (number position)
  | punctuation c =>
    refine not_mem_toList_append (not_mem_toList_append (by decide) ?_) (by decide)
    rw [String.toList_singleton, List.mem_singleton]
    exact Ne.symm (mark c rfl)

theorem RuleId.newline_not_mem (id : RuleId) : '\n' ∉ id.code.toList ∧
    '\n' ∉ id.aliasName.toList ∧ '\n' ∉ id.description.toList := by
  cases id <;> simp [code, aliasName, description]

theorem RuleId.slash_not_mem_code (id : RuleId) : '/' ∉ id.code.toList := by
  cases id <;> simp [code]

namespace Finding

theorem newline_not_mem_render {finding : Finding}
    (context : ∀ shown ∈ finding.context, '\n' ∉ shown)
    (mark : ∀ c, finding.detail = some (.punctuation c) → c ≠ '\n') : '\n' ∉ finding.render := by
  obtain ⟨code, aliasName, description⟩ := finding.rule.newline_not_mem
  have number : '\n' ∉ Nat.toDigits 10 finding.line := not_mem_toDigits (by decide) _
  rw [render]
  cases detailed : finding.detail with
  | none =>
    cases quoted : finding.context with
    | none => simp [number, code, aliasName, description]
    | some shown => simp [number, code, aliasName, description, context shown quoted]
  | some detail =>
    have message : '\n' ∉ detail.message.toList :=
      Detail.newline_not_mem_message fun c eq => mark c (eq ▸ detailed)
    cases quoted : finding.context with
    | none => simp [number, code, aliasName, description, message]
    | some shown => simp [number, code, aliasName, description, message, context shown quoted]

/-- Reads the number of the line and the code of the rule: the digits before the first colon, and what
stands between the space behind it and the first slash. -/
def readEntry (entry : List Char) : Nat × String :=
  let digits := entry.takeWhile (· != ':')
  (Nat.ofDigitChars 10 digits 0,
    String.ofList ((entry.drop (digits.length + 2)).takeWhile (· != '/')))

theorem takeWhile_append_cons {c : Char} {front : List Char} (h : c ∉ front) (rest : List Char) :
    (front ++ c :: rest).takeWhile (· != c) = front := by
  have other : ∀ d ∈ front, (d != c) = true := by
    intro d found
    exact bne_iff_ne.2 (ne_of_mem_of_not_mem found h)
  rw [List.takeWhile_append_of_pos other, List.takeWhile_cons_of_neg (by simp), List.append_nil]

theorem exists_render_eq (finding : Finding) :
    ∃ tail, finding.render = Nat.toDigits 10 finding.line ++
      ':' :: ' ' :: (finding.rule.code.toList ++ '/' :: tail) := by
  rw [render]
  simp only [List.append_assoc, List.cons_append, List.nil_append]
  exact ⟨_, rfl⟩

theorem readEntry_render (finding : Finding) :
    readEntry finding.render = (finding.line, finding.rule.code) := by
  obtain ⟨tail, eq⟩ := finding.exists_render_eq
  have digits : finding.render.takeWhile (· != ':') = Nat.toDigits 10 finding.line := by
    rw [eq]
    exact takeWhile_append_cons (not_mem_toDigits (by decide) _) _
  have rest : finding.render.drop ((Nat.toDigits 10 finding.line).length + 2) =
      finding.rule.code.toList ++ '/' :: tail := by
    rw [eq, List.drop_append, List.drop_eq_nil_of_le (by omega), Nat.add_sub_cancel_left]
    rfl
  simp only [readEntry, digits, rest, Nat.ofDigitChars_ten_toDigits,
    takeWhile_append_cons finding.rule.slash_not_mem_code, String.ofList_toList]

theorem render_ne_nil (finding : Finding) : finding.render ≠ [] := by
  obtain ⟨tail, eq⟩ := finding.exists_render_eq
  rw [eq]
  simp

end Finding

/-- A finding stands on one line, since what it shows of the text stands there. -/
theorem Ruleset.newline_not_mem_render {ruleset : Ruleset} {text : List Char} {finding : Finding}
    (h : finding ∈ ruleset.lint text) : '\n' ∉ finding.render := by
  obtain ⟨configured, -, violation, reported, -, rfl⟩ := mem_lint.1 h
  obtain ⟨line, member, about⟩ := Rule.about_of_mem_check reported
  have unbroken : Unbroken line.text := unbroken_of_mem_lines (Line.text_mem_lines member)
  have clean : '\n' ∉ line.text := fun found => absurd (unbroken '\n' found) (by decide)
  refine Finding.newline_not_mem_render (fun shown found inside => ?_) fun c eq same => ?_
  · exact clean (about.context shown found inside)
  · exact clean (same ▸ about.mark c eq)

/-- The lines of rendered findings; where there are no findings, no line. -/
def renderedLines (rendered : List Char) : List (List Char) :=
  if rendered = [] then [] else rendered.splitOn '\n'

namespace Results

theorem render_eq_nil {results : Results} : results.render = [] ↔ results.errorCount = 0 := by
  rw [errorCount_eq_length_findings, List.length_eq_zero_iff, render]
  cases results.findings with
  | nil => simp
  | cons finding rest =>
    have some := finding.render_ne_nil
    cases rest with
    | nil => simpa using some
    | cons next rest => simp [List.intercalate_cons_cons]

/-- Where no finding holds a line feed, the rendering has one line for each. -/
theorem renderedLines_render {results : Results}
    (flat : ∀ finding ∈ results.findings, '\n' ∉ finding.render) :
    renderedLines results.render = results.findings.map Finding.render := by
  have count := results.errorCount_eq_length_findings
  rw [renderedLines]
  split
  · rename_i empty
    rw [render_eq_nil.1 empty, eq_comm, List.length_eq_zero_iff] at count
    rw [count, List.map_nil]
  · rename_i some
    refine List.splitOn_intercalate '\n' ?_ ?_
    · intro rendered found
      obtain ⟨finding, member, rfl⟩ := List.mem_map.1 found
      exact flat finding member
    · intro empty
      rw [render_eq_nil, count] at some
      exact some (by simpa using empty)

theorem length_renderedLines {results : Results}
    (flat : ∀ finding ∈ results.findings, '\n' ∉ finding.render) :
    (renderedLines results.render).length = results.errorCount := by
  rw [renderedLines_render flat, List.length_map, errorCount_eq_length_findings]

theorem newline_not_mem_render {insertions : List Insertion} {finding : Finding}
    (h : finding ∈ (ofInsertions insertions).findings) : '\n' ∉ finding.render := by
  obtain ⟨insertion, -, found⟩ := exists_of_mem_findings h
  exact Ruleset.newline_not_mem_render found

end Results

theorem Engine.exists_findings_answer (ruleset : Ruleset) (submission : Submission) (fix : Bool) :
    ∃ text, (standard.answer (m := Id) ruleset submission fix).validations.findings =
      ruleset.lint text := by
  rcases standard.answer_cases ruleset submission fix with unkept | ⟨-, kept⟩
  · exact ⟨submission.text, by rw [unkept]; exact ruleset.findings_lintAll _ _⟩
  · exact ⟨standard.fixPass ruleset submission, by rw [kept]; exact ruleset.findings_lintAll _ _⟩

/-- After any insertions, the documents stand in the order of the bytes of their names, each with the
findings last inserted under its name. Every finding is counted, and it is rendered on a line of its
own, from which its line and rule can be read back. The same holds of the number of lines in every
report. -/
theorem rendered_ofInsertions (insertions : List Insertion) :
    let results := Results.ofInsertions insertions
    (results.documents.Pairwise fun a b => utf8Bytes a.1 < utf8Bytes b.1) ∧
    (∀ name findings, (name, findings) ∈ results.documents ↔
      (Insertion.last? name insertions).map Insertion.findings = some findings) ∧
    results.errorCount = results.findings.length ∧
    results.fixable = results.findings.filter (fun finding => finding.edit ≠ none) ∧
    (results.render = [] ↔ results.errorCount = 0) ∧
    (renderedLines results.render).length = results.errorCount ∧
    (renderedLines results.render).map Finding.readEntry =
      results.findings.map (fun finding => (finding.line, finding.rule.code)) ∧
    ∀ ruleset submission fix,
      let report := (Engine.standard.answer (m := Id) ruleset submission fix).report
      (renderedLines report.validations).length = report.errorCount := by
  intro results
  have flat : ∀ finding ∈ results.findings, '\n' ∉ finding.render := fun _ found =>
    Results.newline_not_mem_render found
  refine ⟨?_, fun name findings => Results.mem_documents_ofInsertions,
    results.errorCount_eq_length_findings, ?_, Results.render_eq_nil,
    Results.length_renderedLines flat, ?_, fun ruleset submission fix => ?_⟩
  · exact (Results.ordered_ofInsertions insertions).imp utf8Bytes_lt
  · refine List.filter_congr fun finding _ => ?_
    cases edit : finding.edit <;> simp [Finding.isFixable, edit]
  · rw [Results.renderedLines_render flat, List.map_map]
    exact List.map_congr_left fun finding _ => finding.readEntry_render
  · obtain ⟨text, eq⟩ := Engine.exists_findings_answer ruleset submission fix
    refine Results.length_renderedLines fun finding found => ?_
    rw [eq] at found
    exact Ruleset.newline_not_mem_render found

end DocCheck
