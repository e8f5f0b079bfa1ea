import DocCheck.Proofs.BlankRuns

set_option autoImplicit false

namespace DocCheck

open Text

namespace Ruleset

variable {ruleset : Ruleset} {text : List Char} {line : Line}

/-- What is found follows from the lines of a text. -/
theorem lint_congr_of_lines {other : List Char} (same : lines other = lines text) :
    ruleset.lint other = ruleset.lint text := by
  have document : Document.ofText other = Document.ofText text := by
    rw [Document.ofText, Line.ofText, same, Document.ofText, Line.ofText]
  rw [lint, lint, document]

section Alone

variable {options : FinalNewline} {severity : Severity}
  (alone : ruleset.rules = [⟨.finalNewline options, severity⟩])

include alone

theorem ends_of_asks (member : line ∈ Line.ofText text) {edit : Edit}
    (asks : ruleset.Asks text line edit) : ruleset.ends text line = true := by
  rw [ends_iff member]
  obtain ⟨-, mends⟩ := (asks_iff_of_alone alone).1 asks
  cases mends with
  | unended => exact asks

/-- The last line is empty behind the pass, unless the rule is off for it. -/
theorem lint_repair_of_finalNewline (stored : Stored text) :
    ruleset.lint (repair text (ruleset.lint text)) = [] := by
  have off : ruleset.enables .multipleBlanks = false := by
    rw [enables_of_alone alone]
    rfl
  cases ends : (ruleset.kept text).any (ruleset.ends text) with
  | true =>
    -- The rule asks for nothing where the last line is empty.
    rw [lint_eq_nil_iff_not_asks alone rfl]
    intro line member edit asks
    obtain ⟨last, filled⟩ := getLast?_of_ends member (ends_of_asks alone member asks)
    have closed := (lastOpen_repair_of_ends stored ends).2
    rw [lastOpen] at closed
    split at closed
    · rename_i ended
      rw [Ended, Line.getLast?_lines, last] at ended
      exact filled (Option.some.inj ended)
    · cases closed
  | false =>
    rw [kept_eq_self off, List.any_eq_false] at ends
    have silent (line : Line) (member : line ∈ Line.ofText text) (edit : Edit) :
        ¬ ruleset.Asks text line edit := fun asks => ends line member (ends_of_asks alone member asks)
    have same : lines (repair text (ruleset.lint text)) = lines text := by
      rw [lines_repair_of_none_ends stored fun line member => by simpa using ends line member,
        kept_eq_self off, if_neg (Line.ofText_ne_nil text), ← Line.map_text_ofText text]
      exact List.map_congr_left fun line member => mended_eq_self member (silent line member)
    rw [lint_congr_of_lines same]
    exact (lint_eq_nil_iff_not_asks alone rfl).2 silent

end Alone

end Ruleset

/-- One pass repairs all that the rule reports: trailing spaces, spaces around the hashes of headings,
a last line that is not empty, or more blank lines in a row than at least one. -/
def Rule.mendsAtOnce : Rule → Bool
  | .multipleBlanks options => 1 ≤ options.maximum
  | .finalNewline _ => true
  | rule => rule.mendsLines

/-- A ruleset of one rule that one pass settles finds nothing in the repaired text. -/
theorem lint_repair_eq_nil (ruleset : Ruleset) (configured : ConfiguredRule)
    (alone : ruleset.rules = [configured]) (once : configured.rule.mendsAtOnce = true)
    (text : List Char) (stored : Stored text) :
    ruleset.lint (repair text (ruleset.lint text)) = [] := by
  by_cases each : configured.rule.mendsLines = true
  · exact Ruleset.lint_repair_of_mendsLines alone each stored
  · obtain ⟨rule, severity⟩ := configured
    cases rule with
    | multipleBlanks options =>
      exact Ruleset.lint_repair_of_multipleBlanks alone (of_decide_eq_true once) stored
    | finalNewline options => exact Ruleset.lint_repair_of_finalNewline alone stored
    | _ => exact absurd once each

def oneBlank : Ruleset :=
  ⟨[⟨.multipleBlanks {}, .error⟩], by decide⟩

/-- Runs of blank lines in prose, where inline comments switch the rule off, and in a fenced block. -/
def blankRuns : List Char :=
  ("a\r\n\n\n <!-- markdownlint-disable MD012 -->\n\n\n<!-- markdownlint-enable -->\n\n" ++
    "~~~\n\n\n~~~\n\n\t\n").toList

theorem lint_repair_eq_nil_blankRuns :
    (oneBlank.lint blankRuns).map Finding.line = [3, 14, 15] ∧
      oneBlank.lint (repair blankRuns (oneBlank.lint blankRuns)) = [] :=
  ⟨by decide +kernel,
    lint_repair_eq_nil oneBlank ⟨.multipleBlanks {}, .error⟩ rfl rfl blankRuns (by decide)⟩

/-- No blank line is too few: the only line of an empty text is blank. -/
example : let none : Ruleset := ⟨[⟨.multipleBlanks { maximum := 0 }, .error⟩], by decide⟩
    (none.lint (repair ['\n'] (none.lint ['\n']))).map Finding.line = [1] := by
  cbv

end DocCheck
