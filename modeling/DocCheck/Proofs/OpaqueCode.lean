import DocCheck.Proofs.LineScan
import DocCheck.Ruleset.Standard

set_option autoImplicit false

namespace DocCheck

open Text

namespace Line

/-- The line without its text, if it stands inside a block. -/
def masked (line : Line) : Line :=
  if line.kind = .code then { line with text := [] } else line

theorem masked_of_code {line : Line} (code : line.kind = .code) :
    line.masked = ⟨line.number, [], .code⟩ := by
  rw [masked, if_pos code, code]

theorem masked_of_ne {line : Line} (other : line.kind ≠ .code) : line.masked = line :=
  if_neg other

theorem eq_masked_or (line : Line) : line.masked = line ∨
    line.kind = .code ∧ line.masked = ⟨line.number, [], .code⟩ := by
  by_cases code : line.kind = .code
  · exact .inr ⟨code, masked_of_code code⟩
  · exact .inl (masked_of_ne code)

theorem heading?_of_code {line : Line} (code : line.kind = .code) : line.heading? = none := by
  rw [heading?, code]
  rfl

theorem comments_masked (line : Line) : line.masked.comments = line.comments := by
  rcases line.eq_masked_or with same | ⟨code, masked⟩
  · rw [same]
  · rw [masked, comments, comments, code]
    rfl

/-- Behind a line inside a block the block is still open. -/
theorem kindsFrom_cons_of_code {opener : Option Fence} {text : List Char}
    {rest : List (List Char)} (code : (kindsFrom opener (text :: rest))[0]? = some .code) :
    kindsFrom opener (text :: rest) = .code :: kindsFrom opener rest := by
  cases opener with
  | none => cases drawn : Fence.parse? text <;> simp [kindsFrom, drawn] at code
  | some opener =>
    cases drawn : Fence.parse? text with
    | none => simp only [kindsFrom, drawn]
    | some fence =>
      cases closes : opener.closes fence with
      | true => simp [kindsFrom, drawn, closes] at code
      | false => simp [kindsFrom, drawn, closes]

/-- Texts that differ only inside blocks have lines of the same kinds. -/
theorem kindsFrom_eq_of_code (opener : Option Fence) {as bs : List (List Char)}
    (length : as.length = bs.length)
    (code : ∀ index : Nat, as[index]? ≠ bs[index]? →
      (kindsFrom opener as)[index]? = some .code ∧ (kindsFrom opener bs)[index]? = some .code) :
    kindsFrom opener as = kindsFrom opener bs := by
  -- On the lines, with the fence that is open before them.
  induction as generalizing opener bs with
  | nil => rw [List.length_eq_zero_iff.1 length.symm]
  | cons a as ih =>
    cases bs with
    | nil => cases length
    | cons b bs =>
      have rest : as.length = bs.length := Nat.succ.inj length
      by_cases same : a = b
      · subst same
        obtain ⟨kind, after, step⟩ := exists_kindsFrom_cons opener a
        rw [step, step] at code ⊢
        rw [ih after rest fun index differ => by simpa using code (index + 1) (by simpa using differ)]
      · obtain ⟨left, right⟩ := code 0 (by simpa using same)
        rw [kindsFrom_cons_of_code left, kindsFrom_cons_of_code right] at code ⊢
        rw [ih opener rest fun index differ => by simpa using code (index + 1) (by simpa using differ)]

end Line

/-- The texts have as many lines, and lines that differ stand inside blocks in both. -/
structure SameOutsideCode (a b : List Char) : Prop where
  length : (lines a).length = (lines b).length
  code : ∀ x ∈ Line.ofText a, ∀ y ∈ Line.ofText b, x.number = y.number → x.text ≠ y.text →
    x.kind = .code ∧ y.kind = .code

namespace SameOutsideCode

variable {a b : List Char} (h : SameOutsideCode a b)
include h

/-- The lines of both texts stand in pairs. -/
theorem exists_pair (index : Nat) :
    ((Line.ofText a)[index]? = none ∧ (Line.ofText b)[index]? = none) ∨
      ∃ x y, (Line.ofText a)[index]? = some x ∧ (Line.ofText b)[index]? = some y ∧
        x.number = y.number ∧ (x.text ≠ y.text → x.kind = .code ∧ y.kind = .code) := by
  have same : (Line.ofText a).length = (Line.ofText b).length := by
    rw [Line.length_ofText, Line.length_ofText, h.length]
  by_cases inside : index < (Line.ofText a).length
  · have left := List.getElem?_eq_getElem inside
    have right := List.getElem?_eq_getElem (same ▸ inside)
    have number := (Line.number_of_getElem?_ofText left).trans
      (Line.number_of_getElem?_ofText right).symm
    exact .inr ⟨_, _, left, right, number,
      h.code _ (List.mem_of_getElem? left) _ (List.mem_of_getElem? right) number⟩
  · have outside := Nat.not_lt.1 inside
    exact .inl ⟨List.getElem?_eq_none outside, List.getElem?_eq_none (same ▸ outside)⟩

theorem map_kind_eq : (Line.ofText a).map Line.kind = (Line.ofText b).map Line.kind := by
  rw [Line.map_kind_ofText, Line.map_kind_ofText]
  refine Line.kindsFrom_eq_of_code none h.length fun index differ => ?_
  rw [← Line.map_text_ofText a, ← Line.map_text_ofText b] at differ
  rw [← Line.map_kind_ofText, ← Line.map_kind_ofText]
  simp only [List.getElem?_map] at differ ⊢
  rcases h.exists_pair index with ⟨left, right⟩ | ⟨x, y, left, right, -, code⟩
  · rw [left, right] at differ
    exact absurd rfl differ
  · rw [left, right] at differ ⊢
    obtain ⟨first, second⟩ := code fun same => differ (congrArg some same)
    exact ⟨congrArg some first, congrArg some second⟩

/-- With what stands inside blocks left out, the texts have the same lines. -/
theorem map_masked_eq : (Line.ofText a).map Line.masked = (Line.ofText b).map Line.masked := by
  apply List.ext_getElem?
  intro index
  have kinds := congrArg (·[index]?) h.map_kind_eq
  simp only [List.getElem?_map] at kinds ⊢
  rcases h.exists_pair index with ⟨left, right⟩ | ⟨x, y, left, right, number, code⟩
  · rw [left, right]
  · rw [left, right] at kinds ⊢
    by_cases same : x.text = y.text
    · obtain ⟨_, _, _⟩ := x
      obtain ⟨_, _, _⟩ := y
      simp_all
    · obtain ⟨first, second⟩ := code same
      rw [Option.map_some, Option.map_some, Line.masked_of_code first, Line.masked_of_code second,
        number]

end SameOutsideCode

theorem Suppression.perLine_map_masked (state : Suppression) (lines : List Line) :
    state.perLine (lines.map Line.masked) = state.perLine lines := by
  induction lines generalizing state with
  | nil => rfl
  | cons first rest ih =>
    have step : state.line first.masked = state.line first := by
      rw [line, line, first.comments_masked]
    rw [List.map_cons, perLine, perLine, step, ih]

namespace Memory

theorem after_masked (memory : Memory) (line : Line) :
    memory.after line.masked = memory.after line := by
  rcases line.eq_masked_or with same | ⟨code, masked⟩
  · rw [same]
  · rw [masked, after, after, Line.heading?_of_code code, Line.heading?_of_code rfl, code]
    rfl

end Memory

namespace Rule

/-- The rule is told to look at what stands inside blocks, or it looks at the last line whatever it
is. -/
def readsCode : Rule → Bool
  | hardTabs options => options.inCode
  | lineLength options => options.inCode
  | finalNewline _ => true
  | _ => false

theorem readsCode_of_skips {rule : Rule}
    (tabs : ∀ options, rule = hardTabs options → options.inCode = false)
    (long : ∀ options, rule = lineLength options → options.inCode = false)
    (inner : rule.id ≠ .finalNewline) : rule.readsCode = false := by
  cases rule with
  | hardTabs options => exact tabs options rfl
  | lineLength options => exact long options rfl
  | finalNewline => exact absurd rfl inner
  | _ => rfl

/-- All that the rule on the end of the last line reads is the last line. -/
theorem check_eq_of_getLast? {rule : Rule} (ends : rule.id = .finalNewline) {a b : Document}
    (last : a.lines.getLast? = b.lines.getLast?) : rule.check a = rule.check b := by
  cases rule with
  | finalNewline => simp only [check, FinalNewline.check, last]
  | _ => cases ends

/-- On a line inside a block other rules report nothing. -/
theorem report_of_code {rule : Rule} (blind : rule.readsCode = false) (memory : Memory)
    {line : Line} (code : line.kind = .code) : rule.report memory line = [] := by
  have heading := Line.heading?_of_code code
  cases rule with
  | headingIncrement => simp only [report, heading]; rfl
  | trailingSpaces | missingSpace => simp only [report, Line.onProse, code]; rfl
  | hardTabs options =>
    have skips : options.inCode = false := blind
    simp [report, HardTabs.checkLine, code, skips, LineKind.isCode]
  | multipleBlanks => simp [report, MultipleBlanks.checkFrom, code, LineKind.isCode]
  | lineLength options =>
    have skips : options.inCode = false := blind
    simp [report, LineLength.checkLine, LineLength.limitOf, code, skips, LineKind.isCode]
  | multipleSpace | headingStart | singleTitle | trailingPunctuation =>
    simp only [report, Line.onHeading, heading]
    rfl
  | fenceLanguage => simp [report, FenceLanguage.checkLine, code]
  | finalNewline => cases blind

theorem report_masked {rule : Rule} (blind : rule.readsCode = false) (memory : Memory)
    (line : Line) : rule.report memory line.masked = rule.report memory line := by
  rcases line.eq_masked_or with same | ⟨code, masked⟩
  · rw [same]
  · rw [report_of_code blind memory code, masked, report_of_code blind memory rfl]

theorem scan_map_masked {rule : Rule} (blind : rule.readsCode = false) (memory : Memory)
    (lines : List Line) : rule.scan memory (lines.map Line.masked) = rule.scan memory lines := by
  induction lines generalizing memory with
  | nil => rfl
  | cons line rest ih =>
    rw [List.map_cons, scan, scan, report_masked blind, memory.after_masked, ih]

end Rule

section SameOutside

variable {a b : List Char} (h : SameOutsideCode a b)
include h

theorem Document.suppressed_eq : (ofText a).suppressed = (ofText b).suppressed := by
  rw [ofText, ofText]
  simp only
  rw [← Suppression.perLine_map_masked, h.map_masked_eq, Suppression.perLine_map_masked]

theorem Rule.check_eq_of_blind {rule : Rule} (blind : rule.readsCode = false) :
    rule.check (.ofText a) = rule.check (.ofText b) := by
  have inner : rule.id ≠ .finalNewline := by
    intro id
    cases rule <;> cases id
    cases blind
  rw [check_eq_scan inner, check_eq_scan inner, ← scan_map_masked blind,
    ← scan_map_masked blind _ (Document.ofText b).lines]
  exact congrArg (rule.scan .none) h.map_masked_eq

theorem Ruleset.filter_lint_eq (ruleset : Ruleset) (among : RuleId → Bool)
    (blind : ∀ configured ∈ ruleset.rules, among configured.id = true →
      configured.rule.check (.ofText a) = configured.rule.check (.ofText b)) :
    ((ruleset.lint a).filter fun finding => among finding.rule) =
      (ruleset.lint b).filter fun finding => among finding.rule := by
  rw [filter_lint, filter_lint]
  refine congrArg List.flatten (List.map_congr_left fun configured found => ?_)
  obtain ⟨enabled, named⟩ := List.mem_filter.1 found
  have suppresses : (Document.ofText a).suppresses = (Document.ofText b).suppresses := by
    funext number id
    simp only [Document.suppresses, Document.suppressed_eq h]
  rw [ConfiguredRule.findings, ConfiguredRule.findings, blind configured enabled named, suppresses]

theorem SameOutsideCode.getLast?_eq
    (outside : ∀ last ∈ (Line.ofText a).getLast?, last.kind ≠ .code) :
    (Line.ofText a).getLast? = (Line.ofText b).getLast? := by
  have masked := congrArg List.getLast? h.map_masked_eq
  have kinds := congrArg List.getLast? h.map_kind_eq
  simp only [List.getLast?_map] at masked kinds
  rcases left : (Line.ofText a).getLast? with _ | x
  · exact absurd (List.getLast?_eq_none_iff.1 left) (Line.ofText_ne_nil a)
  · rcases right : (Line.ofText b).getLast? with _ | y
    · exact absurd (List.getLast?_eq_none_iff.1 right) (Line.ofText_ne_nil b)
    · rw [left, right] at masked kinds
      have first := outside x left
      have second : y.kind ≠ .code := Option.some.inj kinds ▸ first
      rwa [Option.map_some, Option.map_some, Line.masked_of_ne first, Line.masked_of_ne second]
        at masked

end SameOutside

/-- Texts that differ only inside blocks are classified alike, inline comments switch off the same in
both, and the rules find the same in both, except that the rules on tabs and on the length of lines
may be told to look inside blocks, and that the text may end inside a block. -/
theorem lint_of_sameOutsideCode (ruleset : Ruleset) (a b : List Char) (h : SameOutsideCode a b) :
    (Line.ofText a).map Line.kind = (Line.ofText b).map Line.kind ∧
    (Document.ofText a).suppressed = (Document.ofText b).suppressed ∧
    ((ruleset.lint a).filter fun finding =>
        finding.rule ∉ [.hardTabs, .lineLength, .finalNewline]) =
      ((ruleset.lint b).filter fun finding =>
        finding.rule ∉ [.hardTabs, .lineLength, .finalNewline]) ∧
    ((∀ configured ∈ ruleset.rules, ∀ options, configured.rule = .hardTabs options →
        options.inCode = false) →
      ((ruleset.lint a).filter fun finding => finding.rule = .hardTabs) =
        (ruleset.lint b).filter fun finding => finding.rule = .hardTabs) ∧
    ((∀ configured ∈ ruleset.rules, ∀ options, configured.rule = .lineLength options →
        options.inCode = false) →
      ((ruleset.lint a).filter fun finding => finding.rule = .lineLength) =
        (ruleset.lint b).filter fun finding => finding.rule = .lineLength) ∧
    ((∀ last ∈ (Line.ofText a).getLast?, last.kind ≠ .code) →
      ((ruleset.lint a).filter fun finding => finding.rule = .finalNewline) =
        (ruleset.lint b).filter fun finding => finding.rule = .finalNewline) := by
  refine ⟨h.map_kind_eq, Document.suppressed_eq h, ?_, fun skips => ?_, fun skips => ?_,
    fun outside => ?_⟩
  · refine ruleset.filter_lint_eq h (fun id => id ∉ [.hardTabs, .lineLength, .finalNewline])
      fun configured _ named => Rule.check_eq_of_blind h ?_
    have other : configured.rule.id ∉ [RuleId.hardTabs, .lineLength, .finalNewline] :=
      of_decide_eq_true named
    exact Rule.readsCode_of_skips (fun options eq => by simp [eq, Rule.id] at other)
      (fun options eq => by simp [eq, Rule.id] at other) fun eq => by simp [eq] at other
  · refine ruleset.filter_lint_eq h (fun id => id = .hardTabs)
      fun configured enabled named => Rule.check_eq_of_blind h ?_
    have tabs : configured.rule.id = .hardTabs := of_decide_eq_true named
    exact Rule.readsCode_of_skips (skips configured enabled)
      (fun options eq => by simp [eq, Rule.id] at tabs) (by simp [tabs])
  · refine ruleset.filter_lint_eq h (fun id => id = .lineLength)
      fun configured enabled named => Rule.check_eq_of_blind h ?_
    have long : configured.rule.id = .lineLength := of_decide_eq_true named
    exact Rule.readsCode_of_skips (fun options eq => by simp [eq, Rule.id] at long)
      (skips configured enabled) (by simp [long])
  · exact ruleset.filter_lint_eq h (fun id => id = .finalNewline) fun configured _ named =>
      Rule.check_eq_of_getLast? (of_decide_eq_true named) (h.getLast?_eq outside)

/-- A heading, a tab and a comment that switches rules off stand inside a block. -/
theorem lint_of_sameOutsideCode_block :
    SameOutsideCode "~~~\n# A\t\n~~~\nb \n".toList
      "~~~\n<!-- markdownlint-disable -->\n~~~\nb \n".toList ∧
    ((Ruleset.all.lint "~~~\n# A\t\n~~~\nb \n".toList).filter fun finding =>
        finding.rule ∉ [.hardTabs, .lineLength, .finalNewline]) =
      (Ruleset.all.lint "~~~\n<!-- markdownlint-disable -->\n~~~\nb \n".toList).filter
        fun finding => finding.rule ∉ [.hardTabs, .lineLength, .finalNewline] := by
  have same : SameOutsideCode "~~~\n# A\t\n~~~\nb \n".toList
      "~~~\n<!-- markdownlint-disable -->\n~~~\nb \n".toList := by
    constructor <;> decide +kernel
  exact ⟨same, (lint_of_sameOutsideCode .all _ _ same).2.2.1⟩

end DocCheck
