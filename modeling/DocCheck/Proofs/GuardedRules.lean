import DocCheck.Proofs.EditedParts
import DocCheck.Proofs.GuardedHeadings

set_option autoImplicit false

namespace DocCheck

open Text

namespace TrailingSpaces

def guardedCheckLine (options : TrailingSpaces) (line : Line) : Guarded (Option Violation) := do
  let content := trimEnd (· == ' ') line.text
  let trailing ← .sub (byteLength line.text) (byteLength content)
  if trailing = 0 ∨ (options.hardBreak? = some trailing ∧ ¬ allBlank content) then
    return none
  let column ← .add content.length 1
  return some
    { line := line.number
      detail := some (.trailing options.hardBreak? trailing)
      range := some ⟨column, trailing⟩
      edit := some (.deleting line.number column trailing) }

theorem guardedCheckLine_eq (options : TrailingSpaces) {line : Line} (stored : Stored line.text) :
    options.guardedCheckLine line = .ok (options.checkLine line) := by
  have ascii : ∀ c ∈ tailOf (· == ' ') line.text, c.utf8Size = 1 := fun c found =>
    Guarded.utf8Size_of_beq rfl c (of_mem_tailOf (p := (· == ' ')) found)
  have bytes := congrArg byteLength (trimEnd_append_tailOf (· == ' ') line.text)
  rw [byteLength_append, byteLength_eq_length ascii] at bytes
  have chars := length_trimEnd_add_length_tailOf (· == ' ') line.text
  have trailing : byteLength line.text - byteLength (trimEnd (· == ' ') line.text) =
      line.text.length - (trimEnd (· == ' ') line.text).length := by
    omega
  have fewer := length_le_byteLength line.text
  rw [guardedCheckLine, checkLine, Guarded.sub_bind (by omega), trailing]
  split
  · rfl
  · rw [Guarded.add_bind stored (by omega)]
    rfl

def guardedCheck (options : TrailingSpaces) (doc : Document) : Guarded (List Violation) :=
  doc.prose.filterMapM options.guardedCheckLine

theorem guardedCheck_eq (options : TrailingSpaces) {doc : Document} (held : doc.Held) :
    options.guardedCheck doc = .ok (options.check doc) :=
  Guarded.filterMapM_eq fun _ member => options.guardedCheckLine_eq (held.prose member)

end TrailingSpaces

namespace MultipleBlanks

def guardedCheckFrom (options : MultipleBlanks) (blanks : Nat) :
    List Line → Guarded (List Violation)
  | [] => return []
  | line :: rest => do
    if line.kind.isCode ∨ ¬ allBlank line.text then
      options.guardedCheckFrom 0 rest
    else
      let blanks ← .add blanks 1
      if options.maximum < blanks then
        return { line := line.number
                 detail := some (.excess options.maximum blanks)
                 edit := some (.deletingLine line.number) } ::
          (← options.guardedCheckFrom blanks rest)
      else
        options.guardedCheckFrom blanks rest

theorem guardedCheckFrom_eq (options : MultipleBlanks) {blanks : Nat} {lines : List Line}
    (word : blanks + lines.length < wordLimit) :
    options.guardedCheckFrom blanks lines = .ok (options.checkFrom blanks lines) := by
  induction lines generalizing blanks with
  | nil => rfl
  | cons line rest ih =>
    rw [List.length_cons] at word
    rw [guardedCheckFrom, checkFrom]
    split
    · exact ih (by omega)
    · rw [Guarded.add_eq (by omega), Guarded.ok_bind, ih (by omega)]
      split <;> rfl

def guardedCheck (options : MultipleBlanks) (doc : Document) : Guarded (List Violation) :=
  options.guardedCheckFrom 0 doc.lines

theorem guardedCheck_eq (options : MultipleBlanks) {doc : Document} (held : doc.Held) :
    options.guardedCheck doc = .ok (options.check doc) :=
  options.guardedCheckFrom_eq (by simpa using held.count)

end MultipleBlanks

namespace LineLength

def guardedLimitOf (options : LineLength) (line : Line) : Guarded (Option Nat) := do
  if line.kind.isCode then
    return if options.inCode then some (options.codeLimit.getD options.limit) else none
  else if (← Heading.guardedParse line.text).isSome then
    return if options.inHeadings then some (options.headingLimit.getD options.limit) else none
  else
    return some options.limit

theorem guardedLimitOf_eq (options : LineLength) {line : Line} (stored : Stored line.text) :
    options.guardedLimitOf line = .ok (options.limitOf line) := by
  rw [guardedLimitOf, limitOf, Heading.guardedParse_eq stored, Guarded.ok_bind]
  split
  · rfl
  · split <;> rfl

def guardedCheckLine (options : LineLength) (line : Line) : Guarded (Option Violation) := do
  match ← options.guardedLimitOf line with
  | none => return none
  | some limit =>
    let length := line.text.length
    if limit < length ∧ (options.strict ∨ (line.text.drop limit).any isBlank) then
      let column ← .add limit 1
      let excess ← .sub length limit
      return some
        { line := line.number
          detail := some (.excess limit length)
          range := some ⟨column, excess⟩ }
    else
      return none

/-- The limit itself need not be near the end of a word: the column behind it is counted only where
the line is longer. -/
theorem guardedCheckLine_eq (options : LineLength) {line : Line} (stored : Stored line.text) :
    options.guardedCheckLine line = .ok (options.checkLine line) := by
  have fewer := length_le_byteLength line.text
  rw [guardedCheckLine, checkLine, options.guardedLimitOf_eq stored, Guarded.ok_bind]
  cases options.limitOf line with
  | none => rfl
  | some limit =>
    dsimp only [Option.bind_some]
    split
    · rw [Guarded.add_bind stored (by omega), Guarded.sub_bind (by omega)]
      rfl
    · rfl

def guardedCheck (options : LineLength) (doc : Document) : Guarded (List Violation) :=
  doc.lines.filterMapM options.guardedCheckLine

theorem guardedCheck_eq (options : LineLength) {doc : Document} (held : doc.Held) :
    options.guardedCheck doc = .ok (options.check doc) :=
  Guarded.filterMapM_eq fun line member => options.guardedCheckLine_eq (held.stored line member)

end LineLength

namespace FinalNewline

def guardedCheck (_ : FinalNewline) (doc : Document) : Guarded (List Violation) := do
  match doc.lines.getLast? with
  | none => return []
  | some last =>
    if last.text = [] then
      return []
    else
      let column ← .add last.text.length 1
      return [{ line := last.number
                range := some ⟨column, 1⟩
                edit := some (.inserting last.number column ['\n']) }]

theorem guardedCheck_eq (options : FinalNewline) {doc : Document} (held : doc.Held) :
    options.guardedCheck doc = .ok (options.check doc) := by
  rw [guardedCheck, check]
  cases last : doc.lines.getLast? with
  | none => rfl
  | some line =>
    have stored := held.stored line (List.mem_of_getLast? last)
    have fewer := length_le_byteLength line.text
    dsimp only
    rw [Guarded.add_bind stored (by omega)]
    split <;> rfl

end FinalNewline

namespace HardTabs

variable (options : HardTabs)

/-- The violations of the tabs of a text that stands after `index` characters. -/
def guardedFill (number index : Nat) (text : List Char) : Guarded (List Violation) :=
  match text with
  | [] => return []
  | '\t' :: rest => do
    let length := (rest.takeWhile (· == '\t')).length + 1
    let column ← .add index 1
    let spaces ← .spaces (← .mul length options.spacesPerTab)
    let next ← .add index length
    return { line := number
             detail := some (.column column)
             range := some ⟨column, length⟩
             edit := some (.replacing number column length spaces) } ::
      (← guardedFill number next (rest.dropWhile (· == '\t')))
  | _ :: rest => do
    guardedFill number (← .add index 1) rest
termination_by text.length
decreasing_by
  · have := (List.dropWhile_suffix (· == '\t') (l := rest)).length_le
    simp only [List.length_cons]
    omega
  · simp

/-- Why the spaces for a run of tabs cannot be made. -/
def fillBreach? (run : Span) : Option Breach :=
  if wordLimit ≤ run.length * options.spacesPerTab then some .product
  else if signedWordLimit ≤ run.length * options.spacesPerTab then some .capacity
  else none

theorem fillBreach?_eq_none_iff {run : Span} :
    options.fillBreach? run = none ↔ run.length * options.spacesPerTab < signedWordLimit := by
  have double := two_mul_signedWordLimit
  rw [fillBreach?]
  split
  · simp only [reduceCtorEq, false_iff]
    omega
  · split
    · simp only [reduceCtorEq, false_iff]
      omega
    · simp only [true_iff]
      omega

theorem mul_bind_spaces (run : Span) :
    (Guarded.mul run.length options.spacesPerTab >>= Guarded.spaces) =
      .barring (options.fillBreach? run) (options.spaces run.length) := by
  rw [fillBreach?]
  by_cases word : run.length * options.spacesPerTab < wordLimit
  · rw [Guarded.mul_eq word, Guarded.ok_bind, options.spaces_eq_replicate word,
      if_neg (Nat.not_le.2 word)]
    by_cases fits : run.length * options.spacesPerTab < signedWordLimit
    · rw [Guarded.spaces_eq fits, if_neg (Nat.not_le.2 fits), Guarded.barring_none]
    · rw [Guarded.spaces, if_neg fits, if_pos (Nat.not_lt.1 fits), Guarded.barring_some]
  · rw [Guarded.mul, if_neg word, if_pos (Nat.not_lt.1 word), Guarded.error_bind,
      Guarded.barring_some]

theorem runsFrom_replicate {before tabs count : Nat} (some : 0 < tabs + count) :
    runsFrom before tabs (List.replicate count '\t') =
      [⟨before - tabs + 1, tabs + count⟩] := by
  induction count generalizing before tabs with
  | zero =>
    rw [Nat.add_zero] at some
    rw [List.replicate_zero, runsFrom, if_pos some]
    rfl
  | succ count ih =>
    rw [List.replicate_succ, runsFrom, ih (by omega), Nat.add_sub_add_right, Nat.add_right_comm,
      Nat.add_assoc]

/-- The tabs that a text begins with are its first run. -/
theorem runsFrom_tab (before : Nat) (rest : List Char) :
    runsFrom before 0 ('\t' :: rest) =
      ⟨before + 1, (rest.takeWhile (· == '\t')).length + 1⟩ ::
        runsFrom (before + ((rest.takeWhile (· == '\t')).length + 1)) 0
          (rest.dropWhile (· == '\t')) := by
  have whole : '\t' :: rest =
      List.replicate ((rest.takeWhile (· == '\t')).length + 1) '\t' ++ rest.dropWhile (· == '\t') := by
    rw [List.replicate_succ, List.cons_append, replicate_append_dropWhile]
  nth_rewrite 1 [whole]
  rw [runsFrom_append_of_head? (head?_dropWhile_ne '\t' rest), runsFrom_replicate (by omega),
    List.length_replicate, Nat.sub_zero, Nat.zero_add, List.singleton_append]

def violation (number : Nat) (run : Span) : Violation where
  line := number
  detail := some (.column run.column)
  range := some run
  edit := some (options.fill number run)

theorem guardedFill_eq (number : Nat) {index : Nat} {text : List Char}
    (short : index + text.length < signedWordLimit) :
    options.guardedFill number index text =
      .barring ((runsFrom index 0 text).findSome? options.fillBreach?)
        ((runsFrom index 0 text).map (options.violation number)) := by
  fun_induction guardedFill options number index text with
  | case1 index => rfl
  | case2 index rest length ih =>
    have parts := congrArg List.length (List.takeWhile_append_dropWhile (p := (· == '\t')) (l := rest))
    rw [List.length_append] at parts
    rw [List.length_cons] at short
    have filled : (Guarded.mul length options.spacesPerTab >>= Guarded.spaces) =
        .barring (options.fillBreach? ⟨index + 1, length⟩) (options.spaces length) :=
      options.mul_bind_spaces ⟨index + 1, length⟩
    rw [Guarded.add_bind short (by omega), ← bind_assoc, filled, runsFrom_tab, List.findSome?_cons,
      List.map_cons]
    cases options.fillBreach? ⟨index + 1, length⟩ with
    | some breach => rfl
    | none =>
      rw [Guarded.barring_none, Guarded.ok_bind, Guarded.add_bind short (by omega),
        ih (index + length) (by omega)]
      cases (runsFrom (index + length) 0 (rest.dropWhile (· == '\t'))).findSome?
        options.fillBreach? <;> rfl
  | case3 index c rest plain ih =>
    rw [List.length_cons] at short
    rw [Guarded.add_bind short (by omega), ih _ (by omega), runsFrom.eq_3 _ _ _ _ plain,
      if_neg (Nat.lt_irrefl 0)]

def guardedCheckLine (line : Line) : Guarded (List Violation) := do
  if line.kind.isCode ∧ ¬ options.inCode then
    return []
  else
    options.guardedFill line.number 0 line.text

def checkedRuns (line : Line) : List Span :=
  if line.kind.isCode ∧ ¬ options.inCode then [] else runsFrom 0 0 line.text

theorem guardedCheckLine_eq {line : Line} (stored : Stored line.text) :
    options.guardedCheckLine line =
      .barring ((options.checkedRuns line).findSome? options.fillBreach?)
        (options.checkLine line) := by
  have fewer := length_le_byteLength line.text
  rw [Stored] at stored
  rw [guardedCheckLine, checkedRuns, checkLine, options.guardedFill_eq _ (by omega)]
  split <;> rfl

def guardedCheck (doc : Document) : Guarded (List Violation) :=
  doc.lines.flatMapM options.guardedCheckLine

/-- Why the spaces for some run of tabs cannot be made. -/
def breach? (doc : Document) : Option Breach :=
  doc.lines.findSome? fun line => (options.checkedRuns line).findSome? options.fillBreach?

theorem guardedCheck_eq {doc : Document} (held : doc.Held) :
    options.guardedCheck doc = .barring (options.breach? doc) (options.check doc) :=
  Guarded.flatMapM_eq fun line member => options.guardedCheckLine_eq (held.stored line member)

theorem breach?_eq_none_iff {doc : Document} :
    options.breach? doc = none ↔ ∀ line ∈ doc.lines, ∀ run ∈ options.checkedRuns line,
      run.length * options.spacesPerTab < signedWordLimit := by
  simp only [breach?, List.findSome?_eq_none_iff, fillBreach?_eq_none_iff]

end HardTabs

namespace Rule

def guardedCheck (rule : Rule) (doc : Document) : Guarded (List Violation) :=
  match rule with
  | headingIncrement options => options.guardedCheck doc
  | trailingSpaces options => options.guardedCheck doc
  | hardTabs options => options.guardedCheck doc
  | multipleBlanks options => options.guardedCheck doc
  | lineLength options => options.guardedCheck doc
  | missingSpace options => options.guardedCheck doc
  | multipleSpace options => options.guardedCheck doc
  | headingStart options => options.guardedCheck doc
  | singleTitle options => options.guardedCheck doc
  | trailingPunctuation options => options.guardedCheck doc
  | fenceLanguage options => return options.check doc
  | finalNewline options => options.guardedCheck doc

def breach? (rule : Rule) (doc : Document) : Option Breach :=
  match rule with
  | hardTabs options => options.breach? doc
  | _ => none

theorem guardedCheck_eq (rule : Rule) {doc : Document} (held : doc.Held) :
    rule.guardedCheck doc = .barring (rule.breach? doc) (rule.check doc) := by
  cases rule with
  | headingIncrement options => exact options.guardedCheck_eq held
  | trailingSpaces options => exact options.guardedCheck_eq held
  | hardTabs options => exact options.guardedCheck_eq held
  | multipleBlanks options => exact options.guardedCheck_eq held
  | lineLength options => exact options.guardedCheck_eq held
  | missingSpace options => exact options.guardedCheck_eq held
  | multipleSpace options => exact options.guardedCheck_eq held
  | headingStart options => exact options.guardedCheck_eq held
  | singleTitle options => exact options.guardedCheck_eq held
  | trailingPunctuation options => exact options.guardedCheck_eq held
  | fenceLanguage options => rfl
  | finalNewline options => exact options.guardedCheck_eq held

end Rule

def ConfiguredRule.guardedFindings (configured : ConfiguredRule) (doc : Document) :
    Guarded (List Finding) := do
  let violations ← configured.rule.guardedCheck doc
  return (violations.filter fun violation =>
    !doc.suppresses violation.line configured.id).map (.ofViolation configured)

theorem ConfiguredRule.guardedFindings_eq (configured : ConfiguredRule) {doc : Document}
    (held : doc.Held) : configured.guardedFindings doc =
      .barring (configured.rule.breach? doc) (configured.findings doc) := by
  rw [guardedFindings, configured.rule.guardedCheck_eq held]
  cases configured.rule.breach? doc <;> rfl

namespace Ruleset

def guardedLint (ruleset : Ruleset) (text : List Char) : Guarded (List Finding) := do
  let doc ← Document.guardedOfText text
  ruleset.rules.flatMapM (·.guardedFindings doc)

def breach? (ruleset : Ruleset) (text : List Char) : Option Breach :=
  ruleset.rules.findSome? (·.rule.breach? (.ofText text))

theorem guardedLint_eq (ruleset : Ruleset) {text : List Char} (stored : Stored text) :
    ruleset.guardedLint text = .barring (ruleset.breach? text) (ruleset.lint text) := by
  rw [guardedLint, Document.guardedOfText_eq stored, Guarded.ok_bind]
  apply Guarded.flatMapM_eq
  intro configured _
  exact configured.guardedFindings_eq (Document.held_ofText stored)

/-- Linting stops at a run of tabs whose spaces are more than a text can hold, and nowhere else. -/
theorem breach?_eq_none_iff {ruleset : Ruleset} {text : List Char} :
    ruleset.breach? text = none ↔ ∀ options ∈ ruleset.hardTabs?, ∀ line ∈ Line.ofText text,
      ∀ run ∈ options.checkedRuns line, run.length * options.spacesPerTab < signedWordLimit := by
  rw [breach?, List.findSome?_eq_none_iff]
  constructor
  · intro none options enabled
    obtain ⟨configured, listed, own⟩ := List.exists_of_findSome?_eq_some enabled
    have quiet := none configured listed
    rw [ConfiguredRule.hardTabs?_eq_some.1 own] at quiet
    exact options.breach?_eq_none_iff.1 quiet
  · intro fits configured listed
    cases eq : configured.rule with
    | hardTabs options =>
      exact options.breach?_eq_none_iff.2 (fits options (hardTabs?_of_mem listed eq))
    | _ => rfl

end Ruleset

end DocCheck
