import DocCheck.Lint
import DocCheck.Proofs.HashLine
import DocCheck.Proofs.NumberedLines
import DocCheck.Proofs.TabRuns

set_option autoImplicit false

namespace DocCheck

open Text

namespace Document

theorem mem_prose {doc : Document} {line : Line} :
    line ∈ doc.prose ↔ line ∈ doc.lines ∧ line.kind.isCode = false := by
  simp [prose]

theorem mem_headings {doc : Document} {line : Line} {heading : Heading} :
    (line, heading) ∈ doc.headings ↔ line ∈ doc.lines ∧ line.heading? = some heading := by
  simp only [headings, List.mem_filterMap, Option.map_eq_some_iff, Prod.mk.injEq]
  constructor
  · rintro ⟨line, found, heading, parsed, rfl, rfl⟩
    exact ⟨found, parsed⟩
  · rintro ⟨found, parsed⟩
    exact ⟨line, found, heading, parsed, rfl, rfl⟩

end Document

/-- The space that a line lacks behind its hashes. -/
def Edit.spacing (line : Line) : Edit :=
  .inserting line.number
    ((line.text.takeWhile (· == ' ')).length +
      ((line.text.dropWhile (· == ' ')).takeWhile (· == '#')).length + 1) [' ']

/-- The edits that a rule asks for on a line. -/
inductive Mends (doc : Document) (line : Line) : Rule → Edit → Prop
  | trailing {options : TrailingSpaces} (prose : line.kind.isCode = false)
      (found : (options.checkLine line).isSome = true) :
      Mends doc line (.trailingSpaces options)
        (.deleting line.number ((trimEnd (· == ' ') line.text).length + 1)
          (line.text.length - (trimEnd (· == ' ') line.text).length))
  | tabs {options : HardTabs} {run : Span}
      (checked : ¬ (line.kind.isCode = true ∧ ¬ options.inCode = true))
      (found : run ∈ HardTabs.runsFrom 0 0 line.text) :
      Mends doc line (.hardTabs options) (options.fill line.number run)
  | blank {options : MultipleBlanks} (prose : line.kind.isCode = false)
      (blank : allBlank line.text = true)
      (found : Edit.deletingLine line.number ∈ (options.check doc).filterMap Violation.edit) :
      Mends doc line (.multipleBlanks options) (.deletingLine line.number)
  | unspaced {options : MissingSpace} (prose : line.kind.isCode = false)
      (found : lacksSpace line.text = true) :
      Mends doc line (.missingSpace options)
        (.inserting line.number
          ((line.text.takeWhile (· == ' ')).length +
            ((line.text.dropWhile (· == ' ')).takeWhile (· == '#')).length + 1) [' '])
  | spaced {options : MultipleSpace} {heading : Heading} (found : line.heading? = some heading)
      (several : 1 < heading.spacing) (content : heading.content ≠ []) :
      Mends doc line (.multipleSpace options)
        (.deleting line.number (heading.indent + heading.level + 2) (heading.spacing - 1))
  | indented {options : HeadingStart} {heading : Heading} (found : line.heading? = some heading)
      (indent : 0 < heading.indent) :
      Mends doc line (.headingStart options) (.deleting line.number 1 heading.indent)
  | punctuated {options : TrailingPunctuation} {heading : Heading} {last : Char}
      (found : line.heading? = some heading) (content : heading.content.getLast? = some last)
      (listed : last ∈ options.punctuation)
      (plain : ¬ TrailingPunctuation.endsInReference heading.content = true) :
      Mends doc line (.trailingPunctuation options)
        (.deleting line.number (heading.contentStart + heading.content.length) 1)
  | unended {options : FinalNewline} (last : doc.lines.getLast? = some line)
      (text : line.text ≠ []) :
      Mends doc line (.finalNewline options)
        (.inserting line.number (line.text.length + 1) ['\n'])

theorem Mends.line_eq {doc : Document} {line : Line} {rule : Rule} {edit : Edit}
    (h : Mends doc line rule edit) : edit.line = line.number := by
  cases h <;> rfl

theorem Mends.fixable {doc : Document} {line : Line} {rule : Rule} {edit : Edit}
    (h : Mends doc line rule edit) : rule.id.fixable = true := by
  cases h <;> rfl

section Checks

variable {line : Line} {heading : Heading} {violation : Violation}

theorem Violation.raised_of_ite {condition : Prop} [Decidable condition] {raised : Violation}
    (h : (if condition then some raised else none) = some violation) :
    condition ∧ violation = raised := by
  obtain ⟨holds, same⟩ := Option.ite_none_right_eq_some.1 h
  exact ⟨holds, (Option.some.inj same).symm⟩

theorem MultipleBlanks.exists_of_mem_checkFrom {options : MultipleBlanks} {blanks : Nat}
    {lines : List Line} (h : violation ∈ options.checkFrom blanks lines) :
    ∃ line ∈ lines, line.kind.isCode = false ∧ allBlank line.text = true ∧ ∃ count, violation =
      { line := line.number
        detail := some (.excess options.maximum count)
        edit := some (.deletingLine line.number) } := by
  fun_induction MultipleBlanks.checkFrom options blanks lines with
  | case1 => cases h
  | case2 blanks line rest _ ih | case4 blanks line rest _ _ ih =>
    obtain ⟨found, member, facts⟩ := ih h
    exact ⟨found, List.mem_cons_of_mem _ member, facts⟩
  | case3 blanks line rest bare _ ih =>
    rcases List.mem_cons.1 h with rfl | h
    · rw [not_or, Bool.not_eq_true, Decidable.not_not] at bare
      exact ⟨line, List.mem_cons_self .., bare.1, bare.2, _, rfl⟩
    · obtain ⟨found, member, facts⟩ := ih h
      exact ⟨found, List.mem_cons_of_mem _ member, facts⟩

theorem HeadingIncrement.exists_of_mem_checkFrom {previous : Option Nat}
    {headings : List (Line × Heading)} (h : violation ∈ checkFrom previous headings) :
    ∃ entry ∈ headings, ∃ allowed, violation =
      { line := entry.1.number
        detail := some (.level allowed entry.2.level)
        context := some (trim entry.1.text) } := by
  induction headings generalizing previous with
  | nil => cases h
  | cons entry rest ih =>
    obtain ⟨line, heading⟩ := entry
    simp only [checkFrom, List.mem_append] at h
    rcases h with here | later
    · cases previous with
      | none => cases here
      | some level =>
        simp only at here
        split at here
        · exact ⟨_, List.mem_cons_self .., _, List.mem_singleton.1 here⟩
        · cases here
    · obtain ⟨entry, found, raised⟩ := ih later
      exact ⟨entry, List.mem_cons_of_mem _ found, raised⟩

theorem TrailingSpaces.of_checkLine {options : TrailingSpaces}
    (h : options.checkLine line = some violation) :
    violation.line = line.number ∧ violation.edit =
      some (.deleting line.number ((trimEnd (· == ' ') line.text).length + 1)
        (line.text.length - (trimEnd (· == ' ') line.text).length)) := by
  obtain ⟨-, raised⟩ := Option.ite_none_left_eq_some.1 h
  obtain rfl := Option.some.inj raised
  exact ⟨rfl, rfl⟩

theorem HardTabs.mem_checkLine {options : HardTabs}
    (h : violation ∈ options.checkLine line) :
    ¬ (line.kind.isCode = true ∧ ¬ options.inCode = true) ∧ ∃ run ∈ runsFrom 0 0 line.text,
      violation.line = line.number ∧ violation.edit = some (options.fill line.number run) := by
  rw [checkLine] at h
  split at h
  · cases h
  · rename_i checked
    obtain ⟨run, found, rfl⟩ := List.mem_map.1 h
    exact ⟨checked, run, found, rfl, rfl⟩

theorem MissingSpace.of_checkLine (h : checkLine line = some violation) :
    violation.line = line.number ∧ violation.edit =
      some (.inserting line.number
        ((line.text.takeWhile (· == ' ')).length +
          ((line.text.dropWhile (· == ' ')).takeWhile (· == '#')).length + 1) [' ']) := by
  obtain ⟨-, rfl⟩ := Violation.raised_of_ite h
  exact ⟨rfl, rfl⟩

theorem MultipleSpace.of_checkHeading (h : checkHeading line heading = some violation) :
    (1 < heading.spacing ∧ heading.content ≠ []) ∧ violation.line = line.number ∧
      violation.edit = some
        (.deleting line.number (heading.indent + heading.level + 2) (heading.spacing - 1)) := by
  obtain ⟨spaced, rfl⟩ := Violation.raised_of_ite h
  exact ⟨spaced, rfl, rfl⟩

theorem HeadingStart.of_checkHeading (h : checkHeading line heading = some violation) :
    0 < heading.indent ∧ violation.line = line.number ∧
      violation.edit = some (.deleting line.number 1 heading.indent) := by
  obtain ⟨indent, rfl⟩ := Violation.raised_of_ite h
  exact ⟨indent, rfl, rfl⟩

theorem TrailingPunctuation.of_checkHeading {options : TrailingPunctuation}
    (h : options.checkHeading line heading = some violation) :
    (∃ last, heading.content.getLast? = some last ∧ last ∈ options.punctuation ∧
      ¬ endsInReference heading.content = true) ∧ violation.line = line.number ∧
      violation.edit = some
        (.deleting line.number (heading.contentStart + heading.content.length) 1) := by
  obtain ⟨last, content, h⟩ := Option.bind_eq_some_iff.1 h
  obtain ⟨listed, rfl⟩ := Violation.raised_of_ite h
  exact ⟨⟨last, content, listed⟩, rfl, rfl⟩

theorem FinalNewline.mem_check (options : FinalNewline) {doc : Document}
    (h : violation ∈ options.check doc) :
    ∃ last, doc.lines.getLast? = some last ∧ last.text ≠ [] ∧ violation.line = last.number ∧
      violation.edit = some (.inserting last.number (last.text.length + 1) ['\n']) := by
  rw [check] at h
  split at h
  · cases h
  · rename_i last found
    split at h
    · cases h
    · rename_i text
      obtain rfl := List.mem_singleton.1 h
      exact ⟨last, found, text, rfl, rfl⟩

end Checks

/-- An edit that a violation carries is one that its rule asks for. -/
theorem exists_mends {rule : Rule} {doc : Document} {violation : Violation} {edit : Edit}
    (h : violation ∈ rule.check doc) (carried : violation.edit = some edit) :
    ∃ line ∈ doc.lines, violation.line = line.number ∧ Mends doc line rule edit := by
  cases rule with
  | headingIncrement options =>
    obtain ⟨entry, -, allowed, rfl⟩ := HeadingIncrement.exists_of_mem_checkFrom h
    cases carried
  | trailingSpaces options =>
    obtain ⟨line, member, found⟩ := List.mem_filterMap.1 h
    obtain ⟨member, prose⟩ := Document.mem_prose.1 member
    obtain ⟨number, edit⟩ := TrailingSpaces.of_checkLine found
    obtain rfl := Option.some.inj (edit.symm.trans carried)
    exact ⟨line, member, number, .trailing prose (Option.isSome_of_eq_some found)⟩
  | hardTabs options =>
    obtain ⟨line, member, found⟩ := List.mem_flatMap.1 h
    obtain ⟨checked, run, inside, number, edit⟩ := HardTabs.mem_checkLine found
    obtain rfl := Option.some.inj (edit.symm.trans carried)
    exact ⟨line, member, number, .tabs checked inside⟩
  | multipleBlanks options =>
    obtain ⟨line, member, prose, blank, count, rfl⟩ := MultipleBlanks.exists_of_mem_checkFrom h
    obtain rfl := Option.some.inj carried
    exact ⟨line, member, rfl, .blank prose blank (List.mem_filterMap.2 ⟨_, h, carried⟩)⟩
  | lineLength options =>
    obtain ⟨line, -, found⟩ := List.mem_filterMap.1 h
    obtain ⟨limit, -, found⟩ := Option.bind_eq_some_iff.1 found
    obtain ⟨-, rfl⟩ := Violation.raised_of_ite found
    cases carried
  | missingSpace options =>
    obtain ⟨line, member, found⟩ := List.mem_filterMap.1 h
    obtain ⟨member, prose⟩ := Document.mem_prose.1 member
    obtain ⟨number, edit⟩ := MissingSpace.of_checkLine found
    obtain rfl := Option.some.inj (edit.symm.trans carried)
    have lacks : lacksSpace line.text = true := by
      rw [← isSome_checkLine]
      exact Option.isSome_of_eq_some found
    exact ⟨line, member, number, .unspaced prose lacks⟩
  | multipleSpace options =>
    obtain ⟨⟨line, heading⟩, member, found⟩ := List.mem_filterMap.1 h
    obtain ⟨member, parsed⟩ := Document.mem_headings.1 member
    obtain ⟨⟨several, content⟩, number, edit⟩ := MultipleSpace.of_checkHeading found
    obtain rfl := Option.some.inj (edit.symm.trans carried)
    exact ⟨line, member, number, .spaced parsed several content⟩
  | headingStart options =>
    obtain ⟨⟨line, heading⟩, member, found⟩ := List.mem_filterMap.1 h
    obtain ⟨member, parsed⟩ := Document.mem_headings.1 member
    obtain ⟨indent, number, edit⟩ := HeadingStart.of_checkHeading found
    obtain rfl := Option.some.inj (edit.symm.trans carried)
    exact ⟨line, member, number, .indented parsed indent⟩
  | singleTitle options =>
    obtain ⟨entry, -, rfl⟩ := List.mem_map.1 h
    cases carried
  | trailingPunctuation options =>
    obtain ⟨⟨line, heading⟩, member, found⟩ := List.mem_filterMap.1 h
    obtain ⟨member, parsed⟩ := Document.mem_headings.1 member
    obtain ⟨⟨last, content, listed, plain⟩, number, edit⟩ :=
      TrailingPunctuation.of_checkHeading found
    obtain rfl := Option.some.inj (edit.symm.trans carried)
    exact ⟨line, member, number, .punctuated parsed content listed plain⟩
  | fenceLanguage options =>
    obtain ⟨line, -, found⟩ := List.mem_filterMap.1 h
    obtain ⟨-, rfl⟩ := Violation.raised_of_ite found
    cases carried
  | finalNewline options =>
    obtain ⟨line, last, text, number, edit⟩ := FinalNewline.mem_check options h
    obtain rfl := Option.some.inj (edit.symm.trans carried)
    exact ⟨line, List.mem_of_getLast? last, number, .unended last text⟩

theorem exists_edit_of_mem_check {rule : Rule} {doc : Document} {violation : Violation}
    (fixable : rule.id.fixable = true) (h : violation ∈ rule.check doc) :
    ∃ edit, violation.edit = some edit := by
  cases rule with
  | headingIncrement | lineLength | singleTitle | fenceLanguage => cases fixable
  | trailingSpaces options =>
    obtain ⟨line, -, found⟩ := List.mem_filterMap.1 h
    exact ⟨_, (TrailingSpaces.of_checkLine found).2⟩
  | hardTabs options =>
    obtain ⟨line, -, found⟩ := List.mem_flatMap.1 h
    obtain ⟨-, run, -, -, edit⟩ := HardTabs.mem_checkLine found
    exact ⟨_, edit⟩
  | multipleBlanks options =>
    obtain ⟨line, -, -, -, count, rfl⟩ := MultipleBlanks.exists_of_mem_checkFrom h
    exact ⟨_, rfl⟩
  | missingSpace options =>
    obtain ⟨line, -, found⟩ := List.mem_filterMap.1 h
    exact ⟨_, (MissingSpace.of_checkLine found).2⟩
  | multipleSpace options =>
    obtain ⟨entry, -, found⟩ := List.mem_filterMap.1 h
    exact ⟨_, (MultipleSpace.of_checkHeading found).2.2⟩
  | headingStart options =>
    obtain ⟨entry, -, found⟩ := List.mem_filterMap.1 h
    exact ⟨_, (HeadingStart.of_checkHeading found).2.2⟩
  | trailingPunctuation options =>
    obtain ⟨entry, -, found⟩ := List.mem_filterMap.1 h
    exact ⟨_, (TrailingPunctuation.of_checkHeading found).2.2⟩
  | finalNewline options =>
    obtain ⟨last, -, -, -, edit⟩ := FinalNewline.mem_check options h
    exact ⟨_, edit⟩

/-- An edit that a rule asks for is carried by a violation on the line. -/
theorem Mends.exists_violation {doc : Document} {line : Line} {rule : Rule} {edit : Edit}
    (h : Mends doc line rule edit) (member : line ∈ doc.lines) :
    ∃ violation ∈ rule.check doc, violation.line = line.number ∧ violation.edit = some edit := by
  cases h with
  | trailing prose found =>
    obtain ⟨violation, found⟩ := Option.isSome_iff_exists.1 found
    have inside := Document.mem_prose.2 ⟨member, prose⟩
    exact ⟨violation, List.mem_filterMap.2 ⟨line, inside, found⟩, TrailingSpaces.of_checkLine found⟩
  | @tabs options run checked found =>
    obtain ⟨violation, reported, facts⟩ : ∃ violation ∈ options.checkLine line,
        violation.line = line.number ∧ violation.edit = some (options.fill line.number run) := by
      rw [HardTabs.checkLine, if_neg checked]
      exact ⟨_, List.mem_map_of_mem found, rfl, rfl⟩
    exact ⟨violation, List.mem_flatMap.2 ⟨line, member, reported⟩, facts⟩
  | blank prose blank found =>
    obtain ⟨violation, reported, deletes⟩ := List.mem_filterMap.1 found
    obtain ⟨other, -, -, -, count, rfl⟩ := MultipleBlanks.exists_of_mem_checkFrom reported
    exact ⟨_, reported, congrArg Edit.line (Option.some.inj deletes), deletes⟩
  | unspaced prose found =>
    rw [← isSome_checkLine] at found
    obtain ⟨violation, found⟩ := Option.isSome_iff_exists.1 found
    have inside := Document.mem_prose.2 ⟨member, prose⟩
    exact ⟨violation, List.mem_filterMap.2 ⟨line, inside, found⟩, MissingSpace.of_checkLine found⟩
  | spaced found several content =>
    have inside := Document.mem_headings.2 ⟨member, found⟩
    exact ⟨_, List.mem_filterMap.2 ⟨_, inside, if_pos ⟨several, content⟩⟩, rfl, rfl⟩
  | indented found indent =>
    have inside := Document.mem_headings.2 ⟨member, found⟩
    exact ⟨_, List.mem_filterMap.2 ⟨_, inside, if_pos indent⟩, rfl, rfl⟩
  | punctuated found content listed plain =>
    have inside := Document.mem_headings.2 ⟨member, found⟩
    exact ⟨_, List.mem_filterMap.2 ⟨_, inside,
      Option.bind_eq_some_iff.2 ⟨_, content, if_pos ⟨listed, plain⟩⟩⟩, rfl, rfl⟩
  | unended last text =>
    simp only [Rule.check, FinalNewline.check, last, if_neg text]
    exact ⟨_, List.mem_singleton.2 rfl, rfl, rfl⟩

namespace Ruleset

/-- An enabled rule that inline comments leave on asks for the edit. -/
def Asks (ruleset : Ruleset) (text : List Char) (line : Line) (edit : Edit) : Prop :=
  ∃ configured ∈ ruleset.rules,
    (Document.ofText text).suppresses line.number configured.id = false ∧
      Mends (.ofText text) line configured.rule edit

theorem Asks.line_eq {ruleset : Ruleset} {text : List Char} {line : Line} {edit : Edit}
    (h : ruleset.Asks text line edit) : edit.line = line.number := by
  obtain ⟨_, -, -, mends⟩ := h
  exact mends.line_eq

def edits (ruleset : Ruleset) (text : List Char) : List Edit :=
  (ruleset.lint text).filterMap Finding.edit

theorem mem_lint {ruleset : Ruleset} {text : List Char} {finding : Finding} :
    finding ∈ ruleset.lint text ↔ ∃ configured ∈ ruleset.rules,
      ∃ violation ∈ configured.rule.check (.ofText text),
        (Document.ofText text).suppresses violation.line configured.id = false ∧
          .ofViolation configured violation = finding := by
  simp only [lint, ConfiguredRule.findings, List.mem_flatMap, List.mem_map, List.mem_filter,
    Bool.not_eq_true', and_assoc]

theorem mem_edits {ruleset : Ruleset} {text : List Char} {edit : Edit} :
    edit ∈ ruleset.edits text ↔ ∃ line ∈ Line.ofText text, ruleset.Asks text line edit := by
  rw [edits, List.mem_filterMap]
  constructor
  · rintro ⟨finding, found, carried⟩
    obtain ⟨configured, enabled, violation, reported, left, rfl⟩ := mem_lint.1 found
    rw [Finding.ofViolation] at carried
    split at carried
    · obtain ⟨line, member, number, mends⟩ := exists_mends reported carried
      exact ⟨line, member, configured, enabled, number ▸ left, mends⟩
    · cases carried
  · rintro ⟨line, member, configured, enabled, left, mends⟩
    obtain ⟨violation, reported, number, carried⟩ := mends.exists_violation member
    rw [← number] at left
    refine ⟨.ofViolation configured violation,
      mem_lint.2 ⟨configured, enabled, violation, reported, left, rfl⟩, ?_⟩
    have fixable : configured.id.fixable = true := mends.fixable
    simp [Finding.ofViolation, fixable, carried]

/-- The edits considered for a line are those that the rules ask for on it. -/
theorem mem_onLine_edits {ruleset : Ruleset} {text : List Char} {line : Line} {edit : Edit}
    (member : line ∈ Line.ofText text) :
    edit ∈ Edit.onLine line.number (ruleset.edits text) ↔ ruleset.Asks text line edit := by
  rw [Edit.mem_onLine, mem_edits]
  constructor
  · rintro ⟨⟨other, found, asks⟩, number⟩
    rw [asks.line_eq] at number
    exact Line.eq_of_number_eq found member number ▸ asks
  · intro asks
    exact ⟨⟨line, member, asks⟩, asks.line_eq⟩

end Ruleset

end DocCheck
