import DocCheck.Proofs.JoinedLines
import DocCheck.Proofs.Quotations
import DocCheck.Proofs.RuleSwitches
import DocCheck.Ruleset.Standard

set_option autoImplicit false

namespace DocCheck

open Text

namespace Text

/-- A line break that is not part of another one separates the lines before it from those behind. -/
theorem linesFrom_append_newline (before : List Char) {text : List Char} (rest : List Char)
    (h : text.getLast? ≠ some '\r') :
    linesFrom before (text ++ '\n' :: rest) = linesFrom before text ++ lines rest := by
  have shorter {c : Char} {text : List Char} (h : (c :: text).getLast? ≠ some '\r') :
      text.getLast? ≠ some '\r' := by
    intro last
    rw [List.getLast?_cons, last] at h
    exact h rfl
  fun_induction linesFrom before text with
  | case1 before => rfl
  | case2 before text ih =>
    rw [List.cons_append, List.cons_append, linesFrom, ih (shorter (shorter h)), List.cons_append]
  | case3 before text apart ih =>
    have apart : ∀ after, text ++ '\n' :: rest = '\n' :: after → False := by
      intro after eq
      cases text with
      | nil => exact h rfl
      | cons c text => exact apart text (congrArg (· :: text) (List.cons.inj eq).1)
    rw [List.cons_append, linesFrom.eq_3 _ _ apart, ih (shorter h), List.cons_append]
  | case4 before text ih =>
    rw [List.cons_append, linesFrom, ih (shorter h), List.cons_append]
  | case5 before c text crlf cr lf ih =>
    rw [List.cons_append, linesFrom.eq_5 _ _ _ (fun _ eq _ => cr eq) cr lf, ih (shorter h)]

theorem lines_append_newline {text : List Char} (rest : List Char)
    (h : text.getLast? ≠ some '\r') : lines (text ++ '\n' :: rest) = lines text ++ lines rest :=
  linesFrom_append_newline [] rest h

end Text

namespace Line

theorem numberFrom_append (first : Nat) {front back : List (List Char)} {kinds others : List LineKind}
    (same : kinds.length = front.length) :
    numberFrom first (front ++ back) (kinds ++ others) =
      numberFrom first front kinds ++ numberFrom (first + front.length) back others := by
  induction front generalizing first kinds with
  | nil =>
    rw [List.length_eq_zero_iff.1 same]
    rfl
  | cons text front ih =>
    cases kinds with
    | nil => cases same
    | cons kind kinds =>
      rw [List.cons_append, List.cons_append, numberFrom, numberFrom,
        ih (first + 1) (Nat.succ.inj same), List.length_cons, List.cons_append,
        Nat.add_assoc, Nat.add_comm 1]

theorem le_of_mem_numberFrom {first : Nat} {texts : List (List Char)} {kinds : List LineKind}
    {line : Line} (h : line ∈ numberFrom first texts kinds) : first ≤ line.number := by
  obtain ⟨index, found⟩ := List.mem_iff_getElem?.1 h
  rw [getElem?_numberFrom] at found
  simp only [Option.bind_eq_some_iff, Option.map_eq_some_iff] at found
  obtain ⟨_, -, _, -, rfl⟩ := found
  exact Nat.le_add_right ..

theorem exists_ofText_append_newline {text : List Char} (rest : List Char)
    (h : text.getLast? ≠ some '\r') :
    ∃ back, ofText (text ++ '\n' :: rest) = ofText text ++ back ∧
      ∀ line ∈ back, (lines text).length < line.number := by
  obtain ⟨last, kinds⟩ := exists_kindsFrom_append none (lines text) (lines rest)
  refine ⟨numberFrom (1 + (lines text).length) (lines rest) (kindsFrom last (lines rest)), ?_, ?_⟩
  · rw [ofText, lines_append_newline rest h, kinds, numberFrom_append 1 (length_kindsFrom ..),
      ofText]
  · intro line found
    have := le_of_mem_numberFrom found
    omega

end Line

namespace Suppression

theorem length_perLine (state : Suppression) (lines : List Line) :
    (state.perLine lines).length = lines.length := by
  induction lines generalizing state with
  | nil => rfl
  | cons first rest ih => rw [perLine, List.length_cons, List.length_cons, ih]

theorem perLine_append (state : Suppression) (front back : List Line) :
    state.perLine (front ++ back) =
      state.perLine front ++ (front.foldl Suppression.line state).perLine back := by
  induction front generalizing state with
  | nil => rfl
  | cons first front ih =>
    rw [List.cons_append, perLine, perLine, ih, List.foldl_cons, List.cons_append]

end Suppression

namespace Document

theorem suppresses_eq_of_take {a b : Document} {count number : Nat} (le : number ≤ count)
    (same : a.suppressed.toList.take count = b.suppressed.toList) (id : RuleId) :
    a.suppresses number id = b.suppresses number id := by
  cases number with
  | zero => rfl
  | succ index =>
    rw [suppresses, suppresses, ← Array.getElem?_toList, ← Array.getElem?_toList, ← same,
      List.getElem?_take_of_lt le]

end Document

section Appended

variable {text : List Char} (rest : List Char) (h : text.getLast? ≠ some '\r')
include h

/-- What inline comments switch off stays when text is appended on new lines. -/
theorem Document.take_suppressed_append_newline :
    (ofText (text ++ '\n' :: rest)).suppressed.toList.take (Text.lines text).length =
      (ofText text).suppressed.toList := by
  obtain ⟨back, eq, -⟩ := Line.exists_ofText_append_newline rest h
  rw [ofText, ofText]
  simp only [eq, Suppression.perLine_append]
  exact List.take_left' (by rw [Suppression.length_perLine, Line.length_ofText])

theorem Document.suppresses_append_newline {number : Nat} (le : number ≤ (Text.lines text).length)
    (id : RuleId) :
    (ofText (text ++ '\n' :: rest)).suppresses number id = (ofText text).suppresses number id :=
  suppresses_eq_of_take le (take_suppressed_append_newline rest h) id

theorem Document.filter_headings_append_newline :
    (ofText (text ++ '\n' :: rest)).headings.filter (·.1.number ≤ (Text.lines text).length) =
      (ofText text).headings := by
  obtain ⟨back, eq, behind⟩ := Line.exists_ofText_append_newline rest h
  have front : ∀ entry ∈ (ofText text).headings, entry.1.number ≤ (Text.lines text).length :=
    fun entry found => Line.number_le_of_mem_ofText (mem_headings.1 found).1
  have later : ∀ entry ∈ (Document.mk back #[]).headings,
      ¬ entry.1.number ≤ (Text.lines text).length :=
    fun entry found => Nat.not_le.2 (behind entry.1 (mem_headings.1 found).1)
  have split : (ofText (text ++ '\n' :: rest)).headings =
      (ofText text).headings ++ (Document.mk back #[]).headings := by
    simp only [headings, ofText, eq, List.filterMap_append]
  rw [split, List.filter_append, List.filter_eq_self.2 (by simpa using front),
    List.filter_eq_nil_iff.2 (by simpa using later), List.append_nil]

/-- A rule reports on the lines of the text what it reported, and goes on behind them. -/
theorem Rule.exists_check_append_newline {rule : Rule} (inner : rule.id ≠ .finalNewline) :
    ∃ later, rule.check (.ofText (text ++ '\n' :: rest)) = rule.check (.ofText text) ++ later ∧
      ∀ violation ∈ later, (lines text).length < violation.line := by
  obtain ⟨back, eq, behind⟩ := Line.exists_ofText_append_newline rest h
  refine ⟨rule.scan ((Line.ofText text).foldl Memory.after .none) back, ?_, ?_⟩
  · rw [check_eq_scan inner, check_eq_scan inner, Document.ofText, Document.ofText, eq]
    exact rule.scan_append .none (Line.ofText text) back
  · intro violation found
    obtain ⟨line, member, about⟩ := about_of_mem_scan found
    exact about.number ▸ behind line member

theorem ConfiguredRule.filter_findings_append_newline {configured : ConfiguredRule}
    (inner : configured.id ≠ .finalNewline) :
    ((configured.findings (.ofText (text ++ '\n' :: rest))).filter fun finding =>
        finding.line ≤ (lines text).length) = configured.findings (.ofText text) := by
  obtain ⟨later, eq, behind⟩ := Rule.exists_check_append_newline rest h inner
  have front : ∀ violation ∈ configured.rule.check (.ofText text),
      violation.line ≤ (lines text).length := by
    intro violation found
    obtain ⟨line, member, about⟩ := Rule.about_of_mem_check found
    exact about.number ▸ Line.number_le_of_mem_ofText member
  rw [findings, findings, List.filter_map, List.filter_filter, eq, List.filter_append]
  have same : ((configured.rule.check (.ofText text)).filter fun violation =>
      decide (violation.line ≤ (lines text).length) &&
        !(Document.ofText (text ++ '\n' :: rest)).suppresses violation.line configured.id) =
      (configured.rule.check (.ofText text)).filter fun violation =>
        !(Document.ofText text).suppresses violation.line configured.id := by
    refine List.filter_congr fun violation found => ?_
    have le := front violation found
    rw [Document.suppresses_append_newline rest h le, decide_eq_true le, Bool.true_and]
  have none : (later.filter fun violation =>
      decide (violation.line ≤ (lines text).length) &&
        !(Document.ofText (text ++ '\n' :: rest)).suppresses violation.line configured.id) = [] := by
    rw [List.filter_eq_nil_iff]
    intro violation found
    rw [decide_eq_false (Nat.not_le.2 (behind violation found)), Bool.false_and]
    exact Bool.false_ne_true
  exact congrArg (List.map _) ((congrArg₂ (· ++ ·) same none).trans (List.append_nil _))

end Appended

/-- Behind text that does not end in `\r`, a line break and more text change neither the lines nor
their headings nor what is switched off on them, and the findings on these lines stay, but for the
one on the end of the last line. -/
theorem lint_append_newline (ruleset : Ruleset) (text rest : List Char)
    (h : text.getLast? ≠ some '\r') :
    let count := (lines text).length
    let whole := Document.ofText (text ++ '\n' :: rest)
    whole.lines.take count = (Document.ofText text).lines ∧
    whole.headings.filter (·.1.number ≤ count) = (Document.ofText text).headings ∧
    (∀ number ≤ count, ∀ id,
      whole.suppresses number id = (Document.ofText text).suppresses number id) ∧
    ((ruleset.lint (text ++ '\n' :: rest)).filter fun finding =>
        finding.line ≤ count ∧ finding.rule ≠ .finalNewline) =
      (ruleset.lint text).filter fun finding => finding.rule ≠ .finalNewline := by
  refine ⟨?_, Document.filter_headings_append_newline rest h,
    fun number le id => Document.suppresses_append_newline rest h le id, ?_⟩
  · obtain ⟨back, eq, -⟩ := Line.exists_ofText_append_newline rest h
    rw [Document.ofText, eq]
    exact List.take_left' (Line.length_ofText text)
  · have inner (text : List Char) := ruleset.filter_lint text (· ≠ .finalNewline)
    simp only [Bool.decide_and]
    rw [← List.filter_filter, inner, inner, List.filter_flatMap]
    refine congrArg List.flatten (List.map_congr_left fun configured found => ?_)
    exact ConfiguredRule.filter_findings_append_newline rest h
      (of_decide_eq_true (List.mem_filter.1 found).2)

/-- The last line of the text lacks its line break, and the appended heading skips a level; neither
shows among the findings on the first two lines. -/
theorem lint_append_newline_heading :
    ((Ruleset.embedded.lint "# A:\n\tb\n### C".toList).filter fun finding =>
        finding.line ≤ 2 ∧ finding.rule ≠ .finalNewline).map (fun finding =>
          (finding.rule, finding.line)) = [(.hardTabs, 2), (.trailingPunctuation, 1)] :=
  (congrArg (List.map _) (lint_append_newline .embedded "# A:\n\tb".toList "### C".toList
    (by decide)).2.2.2).trans (by decide +kernel)

end DocCheck
