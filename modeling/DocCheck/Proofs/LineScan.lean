import DocCheck.Proofs.Mends
import Mathlib.Data.List.Basic

/-!
Rules as scans. Main statement: every rule but the one on the end of the last line reads the document
from its first line to its last, and what it reports on a line follows from that line and from the
headings and blank lines before it.
-/

set_option autoImplicit false

namespace DocCheck

open Text

/-- What rules remember of the lines that they have read. -/
structure Memory where
  /-- The levels of the headings, the last one first. -/
  levels : List Nat
  /-- How many blank lines were read last. -/
  blanks : Nat
  deriving DecidableEq, Repr

namespace Memory

def none : Memory :=
  ⟨[], 0⟩

def after (memory : Memory) (line : Line) : Memory where
  levels := (line.heading?.map Heading.level).toList ++ memory.levels
  blanks := if line.kind.isCode ∨ ¬ allBlank line.text then 0 else memory.blanks + 1

end Memory

def Line.onHeading (line : Line) (check : Heading → Option Violation) : List Violation :=
  (line.heading?.bind check).toList

def Line.onProse (line : Line) (check : Line → Option Violation) : List Violation :=
  if line.kind.isCode then [] else (check line).toList

theorem Line.mem_onHeading {line : Line} {check : Heading → Option Violation}
    {violation : Violation} : violation ∈ line.onHeading check ↔
      ∃ heading, line.heading? = some heading ∧ check heading = some violation := by
  rw [onHeading, Option.mem_toList, Option.bind_eq_some_iff]

theorem Line.mem_onProse {line : Line} {check : Line → Option Violation} {violation : Violation} :
    violation ∈ line.onProse check ↔
      line.kind.isCode = false ∧ check line = some violation := by
  rw [onProse]
  cases line.kind.isCode <;> simp

/-- A heading at the level of titles when there was one before. -/
def SingleTitle.checkHeading (options : SingleTitle) (levels : List Nat) (line : Line)
    (heading : Heading) : Option Violation :=
  if heading.level = options.level ∧ options.level ∈ levels then
    some { line := line.number, context := some (trim line.text) }
  else
    none

namespace Rule

/-- What the rule reports on a line. The rule on the end of the last line waits for that line. -/
def report (rule : Rule) (memory : Memory) (line : Line) : List Violation :=
  match rule with
  | headingIncrement _ =>
    HeadingIncrement.checkFrom memory.levels.head? (line.heading?.toList.map fun h => (line, h))
  | trailingSpaces options => line.onProse options.checkLine
  | hardTabs options => options.checkLine line
  | multipleBlanks options => options.checkFrom memory.blanks [line]
  | lineLength options => (options.checkLine line).toList
  | missingSpace _ => line.onProse MissingSpace.checkLine
  | multipleSpace _ => line.onHeading (MultipleSpace.checkHeading line)
  | headingStart _ => line.onHeading (HeadingStart.checkHeading line)
  | singleTitle options => line.onHeading (options.checkHeading memory.levels line)
  | trailingPunctuation options => line.onHeading (options.checkHeading line)
  | fenceLanguage _ => (FenceLanguage.checkLine line).toList
  | finalNewline _ => []

def scan (rule : Rule) (memory : Memory) : List Line → List Violation
  | [] => []
  | line :: rest => rule.report memory line ++ rule.scan (memory.after line) rest

theorem scan_append (rule : Rule) (memory : Memory) (front back : List Line) :
    rule.scan memory (front ++ back) =
      rule.scan memory front ++ rule.scan (front.foldl Memory.after memory) back := by
  induction front generalizing memory with
  | nil => rfl
  | cons line front ih =>
    rw [List.cons_append, scan, scan, ih, List.append_assoc, List.foldl_cons]

theorem exists_of_mem_scan {rule : Rule} {memory : Memory} {lines : List Line}
    {violation : Violation} (h : violation ∈ rule.scan memory lines) :
    ∃ line ∈ lines, ∃ memory, violation ∈ rule.report memory line := by
  induction lines generalizing memory with
  | nil => cases h
  | cons line rest ih =>
    rcases List.mem_append.1 h with here | later
    · exact ⟨line, List.mem_cons_self .., memory, here⟩
    · obtain ⟨found, member, reported⟩ := ih later
      exact ⟨found, List.mem_cons_of_mem _ member, reported⟩

/-- A rule that remembers nothing reports line by line. -/
theorem flatMap_eq_scan {rule : Rule} {check : Line → List Violation}
    (h : ∀ memory line, rule.report memory line = check line) (memory : Memory)
    (lines : List Line) : lines.flatMap check = rule.scan memory lines := by
  induction lines generalizing memory with
  | nil => rfl
  | cons line rest ih => rw [List.flatMap_cons, scan, h, ih]

end Rule

theorem filterMap_prose (doc : Document) (check : Line → Option Violation) :
    doc.prose.filterMap check = doc.lines.flatMap (·.onProse check) := by
  rw [Document.prose]
  induction doc.lines with
  | nil => rfl
  | cons line rest ih =>
    rw [List.flatMap_cons, ← ih, Line.onProse]
    cases code : line.kind.isCode with
    | true => simp [code]
    | false => cases found : check line <;> simp [code, found]

theorem headings_cons (line : Line) (rest : List Line) (suppressed : Array (List RuleId)) :
    (Document.mk (line :: rest) suppressed).headings =
      (line.heading?.toList.map fun heading => (line, heading)) ++
        (Document.mk rest suppressed).headings := by
  rw [Document.headings, Document.headings, List.filterMap_cons]
  cases line.heading? <;> rfl

theorem filterMap_headings (doc : Document) (check : Line → Heading → Option Violation) :
    (doc.headings.filterMap fun (line, heading) => check line heading) =
      doc.lines.flatMap fun line => line.onHeading (check line) := by
  obtain ⟨lines, suppressed⟩ := doc
  induction lines with
  | nil => rfl
  | cons line rest ih =>
    rw [headings_cons, List.filterMap_append, ih, List.flatMap_cons, Line.onHeading]
    cases line.heading? with
    | none => rfl
    | some heading => cases found : check line heading <;> simp [found]

namespace HeadingIncrement

theorem checkFrom_append (previous : Option Nat) (front back : List (Line × Heading)) :
    checkFrom previous (front ++ back) =
      checkFrom previous front ++
        checkFrom ((front.getLast?.map fun entry => entry.2.level).or previous) back := by
  induction front generalizing previous with
  | nil => rfl
  | cons entry front ih =>
    obtain ⟨line, heading⟩ := entry
    simp only [List.cons_append, checkFrom, ih, List.append_assoc, List.getLast?_cons]
    cases front.getLast? <;> rfl

theorem checkFrom_headings (options : HeadingIncrement) (memory : Memory) (lines : List Line)
    (suppressed : Array (List RuleId)) :
    checkFrom memory.levels.head? (Document.mk lines suppressed).headings =
      (Rule.headingIncrement options).scan memory lines := by
  induction lines generalizing memory with
  | nil => rfl
  | cons line rest ih =>
    rw [headings_cons, checkFrom_append, Rule.scan, ← ih, Rule.report, Memory.after]
    cases line.heading? <;> rfl

end HeadingIncrement

theorem MultipleBlanks.checkFrom_eq_scan (options : MultipleBlanks) (memory : Memory)
    (lines : List Line) :
    options.checkFrom memory.blanks lines = (Rule.multipleBlanks options).scan memory lines := by
  induction lines generalizing memory with
  | nil => rfl
  | cons line rest ih =>
    rw [Rule.scan, ← ih, Rule.report, Memory.after, checkFrom, checkFrom]
    split
    · rfl
    · split <;> rfl

/-- All headings at the level of titles are reported when there was one before, else all but the
first one. -/
theorem SingleTitle.drop_eq_scan (options : SingleTitle) (memory : Memory) (lines : List Line)
    (suppressed : Array (List RuleId)) :
    ((((Document.mk lines suppressed).headings.filter (·.2.level == options.level)).drop
        (if options.level ∈ memory.levels then 0 else 1)).map fun (line, _) =>
      ({ line := line.number, context := some (trim line.text) } : Violation)) =
        (Rule.singleTitle options).scan memory lines := by
  induction lines generalizing memory with
  | nil => simp [Document.headings, Rule.scan]
  | cons line rest ih =>
    rw [headings_cons, Rule.scan, ← ih, Rule.report, Memory.after, Line.onHeading]
    cases line.heading? with
    | none => rfl
    | some heading =>
      by_cases level : heading.level = options.level
      · by_cases before : options.level ∈ memory.levels <;>
          simp [SingleTitle.checkHeading, level, before]
      · simp [SingleTitle.checkHeading, level, Ne.symm level]

/-- A rule reads the document line by line. -/
theorem Rule.check_eq_scan {rule : Rule} (inner : rule.id ≠ .finalNewline) (doc : Document) :
    rule.check doc = rule.scan .none doc.lines := by
  cases rule with
  | headingIncrement options =>
    exact HeadingIncrement.checkFrom_headings options .none doc.lines doc.suppressed
  | trailingSpaces options =>
    exact (filterMap_prose doc _).trans (flatMap_eq_scan (fun _ _ => rfl) _ _)
  | hardTabs options => exact flatMap_eq_scan (fun _ _ => rfl) _ _
  | multipleBlanks options => exact options.checkFrom_eq_scan .none doc.lines
  | lineLength options =>
    exact (List.filterMap_eq_flatMap_toList _ _).trans (flatMap_eq_scan (fun _ _ => rfl) _ _)
  | missingSpace options =>
    exact (filterMap_prose doc _).trans (flatMap_eq_scan (fun _ _ => rfl) _ _)
  | multipleSpace options =>
    exact (filterMap_headings doc _).trans (flatMap_eq_scan (fun _ _ => rfl) _ _)
  | headingStart options =>
    exact (filterMap_headings doc _).trans (flatMap_eq_scan (fun _ _ => rfl) _ _)
  | singleTitle options => exact options.drop_eq_scan .none doc.lines doc.suppressed
  | trailingPunctuation options =>
    exact (filterMap_headings doc _).trans (flatMap_eq_scan (fun _ _ => rfl) _ _)
  | fenceLanguage options =>
    exact (List.filterMap_eq_flatMap_toList _ _).trans (flatMap_eq_scan (fun _ _ => rfl) _ _)
  | finalNewline options => exact absurd rfl inner

/-- The findings of some rules are those that these rules report. -/
theorem Ruleset.filter_lint (ruleset : Ruleset) (text : List Char) (among : RuleId → Bool) :
    ((ruleset.lint text).filter fun finding => among finding.rule) =
      (ruleset.rules.filter fun configured => among configured.id).flatMap
        (·.findings (.ofText text)) := by
  rw [lint, List.filter_flatMap]
  induction ruleset.rules with
  | nil => rfl
  | cons configured rest ih =>
    have one : ((configured.findings (.ofText text)).filter fun finding => among finding.rule) =
        if among configured.id then configured.findings (.ofText text) else [] := by
      rw [ConfiguredRule.findings, List.filter_map]
      cases named : among configured.id with
      | true => exact congrArg _ (List.filter_eq_self.2 fun _ _ => named)
      | false =>
        exact congrArg _ (List.filter_eq_nil_iff.2 fun _ _ => (Bool.eq_false_iff.1 named :))
    rw [List.flatMap_cons, ih, one, List.filter_cons]
    cases among configured.id <;> rfl

end DocCheck
