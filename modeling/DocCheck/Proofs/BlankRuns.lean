import DocCheck.Proofs.FencesKept
import DocCheck.Proofs.LineRules
import DocCheck.Proofs.LineScan
import DocCheck.Proofs.RuleSwitches

set_option autoImplicit false

namespace DocCheck

open Text

namespace Suppression

/-- What is off before a line and not for one line alone decides what is off behind it. -/
theorem line_congr {state other : Suppression} {a b : Line}
    (standing : other.standing = state.standing) (next : other.next = state.next)
    (comments : b.comments = a.comments) : other.line b = state.line a := by
  rw [line, line, standing, next, comments]

theorem line_of_no_comments {line : Line} (none : line.comments = []) (state : Suppression) :
    state.line line = ⟨state.standing, state.next, []⟩ := by
  rw [Suppression.line, none]
  rfl

end Suppression

/-- What the rules on blank lines and inline comments read off a line. -/
def Line.look (line : Line) : Bool × List Char :=
  (line.kind.isCode, line.text)

theorem Line.comments_eq_of_look {a b : Line} (same : a.look = b.look) : a.comments = b.comments := by
  obtain ⟨code, text⟩ := Prod.mk.inj same
  rw [comments, comments, code, text]

theorem Line.comments_of_allBlank {line : Line} (blank : allBlank line.text = true) :
    line.comments = [] := by
  have plain : '<' ∉ line.text := fun mark =>
    absurd (List.all_eq_true.1 blank _ mark) (by decide)
  rw [comments, InlineComment.ofLine_eq_nil plain, ite_self]

namespace MultipleBlanks

variable (options : MultipleBlanks)

theorem checkFrom_append (memory : Memory) (front back : List Line) :
    options.checkFrom memory.blanks (front ++ back) =
      options.checkFrom memory.blanks front ++
        options.checkFrom (front.foldl Memory.after memory).blanks back := by
  rw [checkFrom_eq_scan, checkFrom_eq_scan, checkFrom_eq_scan, Rule.scan_append]

/-- The line is one blank line too many, and inline comments leave the rule on for it. -/
def drops (state : Suppression) (memory : Memory) (line : Line) : Bool :=
  !line.kind.isCode && allBlank line.text && decide (options.maximum < memory.blanks + 1) &&
    decide (.multipleBlanks ∉ RuleId.union (state.line line).here (state.line line).standing)

/-- The lines without those that are dropped, where `state` and `memory` hold before them. -/
def prune (state : Suppression) (memory : Memory) : List Line → List Line
  | [] => []
  | line :: rest =>
    let kept := prune (state.line line) (memory.after line) rest
    if options.drops state memory line then kept else line :: kept

variable {options}

/-- The state before a line while blank lines are dropped, and before its copy among the kept lines: a
run of the copy is as long as the run, up to the maximum where the rule is on. -/
structure Alike (options : MultipleBlanks) (state copy : Suppression) (memory after : Memory) :
    Prop where
  standing : copy.standing = state.standing
  next : copy.next = state.next
  /-- Behind a blank line nothing is off for one line alone. -/
  settled : 0 < memory.blanks → state.next = []
  blanks : after.blanks =
    if .multipleBlanks ∈ state.standing then memory.blanks else min memory.blanks options.maximum

variable {state copy : Suppression} {memory after : Memory} {line other : Line}

theorem Alike.of_bare (alike : Alike options state copy memory after)
    (bare : line.kind.isCode = true ∨ ¬ allBlank line.text = true) (same : other.look = line.look) :
    Alike options (state.line line) (copy.line other) (memory.after line) (after.after other) := by
  obtain ⟨code, text⟩ := Prod.mk.inj same
  have states := Suppression.line_congr alike.standing alike.next (Line.comments_eq_of_look same)
  have none : (memory.after line).blanks = 0 := if_pos bare
  have none' : (after.after other).blanks = 0 := if_pos (by rwa [code, text])
  rw [states]
  refine ⟨rfl, rfl, fun positive => ?_, ?_⟩
  · omega
  · rw [none, none', Nat.zero_min, ite_self]

section Blank

variable (prose : line.kind.isCode = false) (blank : allBlank line.text = true)

include prose blank

theorem after_of_blank (memory : Memory) : (memory.after line).blanks = memory.blanks + 1 :=
  if_neg (by simp [prose, blank])

theorem drops_of_blank :
    options.drops state memory line = true ↔
      options.maximum < memory.blanks + 1 ∧ .multipleBlanks ∉ state.next ∧
        .multipleBlanks ∉ state.standing := by
  simp [drops, prose, blank, Suppression.line_of_no_comments (Line.comments_of_allBlank blank)]

/-- A dropped blank line leaves the copy where it is. -/
theorem Alike.of_drops (positive : 1 ≤ options.maximum)
    (alike : Alike options state copy memory after)
    (dropped : options.drops state memory line = true) :
    Alike options (state.line line) copy (memory.after line) after := by
  obtain ⟨long, -, on⟩ := (drops_of_blank prose blank).1 dropped
  have next := alike.settled (by omega)
  have blanks := alike.blanks
  rw [Suppression.line_of_no_comments (Line.comments_of_allBlank blank)]
  refine ⟨alike.standing, alike.next.trans next, fun _ => rfl, ?_⟩
  rw [if_neg on] at blanks ⊢
  rw [after_of_blank prose blank]
  omega

/-- A kept blank line counts in the copy as it does before it, and is not one too many there. -/
theorem Alike.of_kept (positive : 1 ≤ options.maximum)
    (alike : Alike options state copy memory after)
    (kept : options.drops state memory line = false) (same : other.look = line.look) :
    options.drops copy after other = false ∧
      Alike options (state.line line) (copy.line other) (memory.after line) (after.after other) := by
  obtain ⟨code, text⟩ := Prod.mk.inj same
  have prose' : other.kind.isCode = false := code.trans prose
  have blank' : allBlank other.text = true := by rw [text, blank]
  have states := Suppression.line_congr alike.standing alike.next (Line.comments_eq_of_look same)
  have blanks := alike.blanks
  rw [← Bool.not_eq_true, drops_of_blank prose blank, not_and, not_and, Decidable.not_not] at kept
  have settled := alike.settled
  rw [← Bool.not_eq_true, drops_of_blank prose' blank', alike.standing, alike.next, states]
  by_cases on : .multipleBlanks ∈ state.standing
  · rw [if_pos on] at blanks
    refine ⟨fun all => all.2.2 on, rfl, rfl, fun _ => ?_, ?_⟩
    · rw [Suppression.line_of_no_comments (Line.comments_of_allBlank blank)]
    · rw [after_of_blank prose blank, after_of_blank prose' blank', blanks,
        Suppression.line_of_no_comments (Line.comments_of_allBlank blank), if_pos on]
  · -- The rule is on, so the run is not too long yet.
    have short : memory.blanks + 1 ≤ options.maximum := by
      by_contra long
      have here : .multipleBlanks ∈ state.next := by
        by_contra off
        exact on (kept (Nat.not_le.1 long) off)
      rw [settled (by omega)] at here
      cases here
    rw [if_neg on, Nat.min_eq_left (by omega)] at blanks
    refine ⟨fun all => absurd all.1 (by omega), rfl, rfl, fun _ => ?_, ?_⟩
    · rw [Suppression.line_of_no_comments (Line.comments_of_allBlank blank)]
    · rw [after_of_blank prose blank, after_of_blank prose' blank', blanks,
        Suppression.line_of_no_comments (Line.comments_of_allBlank blank), if_neg on]
      omega

end Blank

theorem blank_of_drops (dropped : options.drops state memory line = true) :
    line.kind.isCode = false ∧ allBlank line.text = true := by
  simp only [drops, Bool.and_eq_true, Bool.not_eq_true'] at dropped
  exact dropped.1.1

/-- A kept line is kept in the copy, and what follows goes on alike. -/
theorem Alike.of_keeps (positive : 1 ≤ options.maximum)
    (alike : Alike options state copy memory after)
    (kept : options.drops state memory line = false) (same : other.look = line.look) :
    options.drops copy after other = false ∧
      Alike options (state.line line) (copy.line other) (memory.after line) (after.after other) := by
  by_cases bare : line.kind.isCode = true ∨ ¬ allBlank line.text = true
  · refine ⟨?_, alike.of_bare bare same⟩
    obtain ⟨code, text⟩ := Prod.mk.inj same
    rw [← Bool.not_eq_true]
    intro dropped
    obtain ⟨prose, blank⟩ := blank_of_drops dropped
    rw [code] at prose
    rw [text] at blank
    simp [prose, blank] at bare
  · rw [not_or, Bool.not_eq_true, Decidable.not_not] at bare
    exact alike.of_kept bare.1 bare.2 positive kept same

/-- The kept lines are kept again. -/
theorem prune_eq_self (positive : 1 ≤ options.maximum) {lines copies : List Line}
    (alike : Alike options state copy memory after)
    (same : copies.map Line.look = (options.prune state memory lines).map Line.look) :
    options.prune copy after copies = copies := by
  -- `Alike` relates the lines to their copies along the induction.
  induction lines generalizing state copy memory after copies with
  | nil =>
    rw [prune, List.map_nil, List.map_eq_nil_iff] at same
    rw [same, prune]
  | cons line rest ih =>
    rw [prune] at same
    cases dropped : options.drops state memory line with
    | true =>
      obtain ⟨prose, blank⟩ := blank_of_drops dropped
      rw [dropped, if_pos rfl] at same
      exact ih (alike.of_drops prose blank positive dropped) same
    | false =>
      rw [dropped, if_neg Bool.false_ne_true, List.map_cons] at same
      obtain ⟨other, others, rfl, first, tail⟩ := List.map_eq_cons_iff.1 same
      obtain ⟨kept, next⟩ := alike.of_keeps positive dropped first
      rw [prune, kept, if_neg Bool.false_ne_true, ih next tail]

theorem Alike.start (options : MultipleBlanks) :
    Alike options .none .none .none .none where
  standing := rfl
  next := rfl
  settled := fun positive => absurd positive (Nat.lt_irrefl 0)
  blanks := by simp [Memory.none]

/-- The first line is no blank line too many. -/
theorem prune_ne_nil (positive : 1 ≤ options.maximum) {lines : List Line} (some : lines ≠ []) :
    options.prune .none .none lines ≠ [] := by
  cases lines with
  | nil => exact absurd rfl some
  | cons line rest =>
    have kept : options.drops .none .none line = false := by
      rw [← Bool.not_eq_true]
      intro dropped
      obtain ⟨prose, blank⟩ := blank_of_drops dropped
      have long := ((drops_of_blank prose blank).1 dropped).1
      simp only [Memory.none] at long
      omega
    rw [prune, kept, if_neg Bool.false_ne_true]
    exact List.cons_ne_nil _ _

theorem exists_of_deletingLine {blanks number : Nat} {lines : List Line}
    (h : Edit.deletingLine number ∈ (options.checkFrom blanks lines).filterMap Violation.edit) :
    ∃ line ∈ lines, line.number = number := by
  obtain ⟨violation, reported, carried⟩ := List.mem_filterMap.1 h
  obtain ⟨line, member, -, -, count, rfl⟩ := exists_of_mem_checkFrom reported
  exact ⟨line, member, congrArg Edit.line (Option.some.inj carried)⟩

/-- A line among others with other numbers is deleted when it is a blank line too many. -/
theorem deletingLine_mem_iff {front back : List Line}
    (before : ∀ other ∈ front, other.number ≠ line.number)
    (behind : ∀ other ∈ back, other.number ≠ line.number) :
    Edit.deletingLine line.number ∈
        (options.checkFrom Memory.none.blanks (front ++ line :: back)).filterMap Violation.edit ↔
      ¬ (line.kind.isCode = true ∨ ¬ allBlank line.text = true) ∧
        options.maximum < (front.foldl Memory.after .none).blanks + 1 := by
  have first {blanks : Nat} : Edit.deletingLine line.number ∉
      (options.checkFrom blanks front).filterMap Violation.edit := fun found =>
    have ⟨other, member, same⟩ := exists_of_deletingLine found
    before other member same
  have last {blanks : Nat} : Edit.deletingLine line.number ∉
      (options.checkFrom blanks back).filterMap Violation.edit := fun found =>
    have ⟨other, member, same⟩ := exists_of_deletingLine found
    behind other member same
  rw [checkFrom_append, List.filterMap_append, List.mem_append, or_iff_right first, checkFrom]
  split
  · rename_i bare
    simp only [bare, not_true, false_and, iff_false]
    exact last
  · rename_i blank
    split
    · rename_i long
      exact iff_of_true (List.mem_cons_self ..) ⟨blank, long⟩
    · rename_i short
      simp only [short, and_false, iff_false]
      exact last

end MultipleBlanks

theorem mends_multipleBlanks_iff {doc : Document} {line : Line} {options : MultipleBlanks}
    {edit : Edit} :
    Mends doc line (.multipleBlanks options) edit ↔
      edit = .deletingLine line.number ∧ line.kind.isCode = false ∧ allBlank line.text = true ∧
        Edit.deletingLine line.number ∈ (options.check doc).filterMap Violation.edit := by
  constructor
  · intro mends
    cases mends with
    | blank prose blank found => exact ⟨rfl, prose, blank, found⟩
  · rintro ⟨rfl, prose, blank, found⟩
    exact .blank prose blank found

namespace Ruleset

variable {ruleset : Ruleset} {options : MultipleBlanks} {severity : Severity} {text : List Char}
  {line : Line} (alone : ruleset.rules = [⟨.multipleBlanks options, severity⟩])

include alone

theorem asks_iff_of_blanksAlone {edit : Edit} :
    ruleset.Asks text line edit ↔
      (Document.ofText text).suppresses line.number .multipleBlanks = false ∧
        Mends (.ofText text) line (.multipleBlanks options) edit :=
  asks_iff_of_alone alone

theorem not_asks_of_kept (member : line ∈ Line.ofText text)
    (kept : ruleset.deletes text line = false) (edit : Edit) : ¬ ruleset.Asks text line edit := by
  intro asks
  have same := (mends_multipleBlanks_iff.1 ((asks_iff_of_blanksAlone alone).1 asks).2).1
  rw [same, ← deletes_iff member, kept] at asks
  cases asks

theorem deletes_eq_drops {front back : List Line}
    (split : Line.ofText text = front ++ line :: back) :
    ruleset.deletes text line =
      options.drops (front.foldl Suppression.line .none) (front.foldl Memory.after .none) line := by
  have member : line ∈ Line.ofText text := by simp [split]
  have here : (Line.ofText text)[front.length]? = some line := by simp [split]
  have number : line.number = front.length + 1 := by
    rw [Line.number_of_getElem?_ofText here, Nat.add_comm]
  have numbers := Line.pairwise_number text
  rw [split, List.pairwise_append, List.pairwise_cons] at numbers
  obtain ⟨-, ⟨behind, -⟩, before⟩ := numbers
  have off : (Document.ofText text).suppresses line.number .multipleBlanks = false ↔
      .multipleBlanks ∉ RuleId.union ((front.foldl Suppression.line .none).line line).here
        ((front.foldl Suppression.line .none).line line).standing := by
    rw [number, Document.suppresses, Document.ofText]
    simp [Suppression.getElem?_perLine, split]
  have listed := @MultipleBlanks.deletingLine_mem_iff options line front back
    (fun other found => Nat.ne_of_lt (before other found line (List.mem_cons_self ..)))
    fun other found => Nat.ne_of_gt (behind other found)
  have whole : options.check (.ofText text) =
      options.checkFrom Memory.none.blanks (front ++ line :: back) := by rw [← split]; rfl
  rw [Bool.eq_iff_iff, deletes_iff member, asks_iff_of_blanksAlone alone, off,
    mends_multipleBlanks_iff, whole, listed, MultipleBlanks.drops]
  simp only [Bool.and_eq_true, Bool.not_eq_true', decide_eq_true_eq]
  grind

/-- The lines that the pass keeps are those that are not dropped. -/
theorem filter_deletes {front back : List Line} (split : Line.ofText text = front ++ back) :
    (back.filter fun line => !ruleset.deletes text line) =
      options.prune (front.foldl Suppression.line .none) (front.foldl Memory.after .none) back := by
  -- On the lines from some line on, with what is remembered of those before.
  induction back generalizing front with
  | nil => rfl
  | cons line back ih =>
    have tail := @ih (front ++ [line]) (by simp [split])
    rw [List.foldl_append, List.foldl_append] at tail
    rw [List.filter_cons, tail, deletes_eq_drops alone split, MultipleBlanks.prune]
    cases options.drops _ _ line <;> rfl

theorem kept_eq_prune : ruleset.kept text = options.prune .none .none (Line.ofText text) := by
  have split : Line.ofText text = [] ++ Line.ofText text := rfl
  exact filter_deletes alone split

/-- The kept lines are the lines of the repaired text, and they are what they were. -/
theorem map_look_repair (positive : 1 ≤ options.maximum) (stored : Stored text) :
    (Line.ofText (repair text (ruleset.lint text))).map Line.look =
      (ruleset.kept text).map Line.look := by
  have some : ruleset.kept text ≠ [] := by
    rw [kept_eq_prune alone]
    exact MultipleBlanks.prune_ne_nil positive (Line.ofText_ne_nil text)
  have open_ : ruleset.enables .finalNewline = false := by
    rw [enables_of_alone alone]
    rfl
  have made : lines (repair text (ruleset.lint text)) = (ruleset.kept text).map Line.text := by
    rw [lines_repair_of_none_ends stored fun line => ends_eq_false_of_off open_, if_neg some]
    refine List.map_congr_left fun line found => ?_
    obtain ⟨member, kept⟩ := mem_kept.1 found
    exact mended_eq_self member (not_asks_of_kept alone member kept)
  have tabs (line : Line) : ruleset.tabs? text line = none := by
    rw [tabs?, alone]
    rfl
  have code : (Line.ofText (repair text (ruleset.lint text))).map (·.kind.isCode) =
      (ruleset.kept text).map (·.kind.isCode) := by
    have first := ruleset.code_isPrefix stored
    rw [untabbedCode_eq_of_outline fun line _ => by rw [untabbedText, untabbed, tabs],
      filter_zip_map fun line => !ruleset.deletes text line] at first
    refine (first.eq_of_length ?_).symm
    have length := congrArg List.length made
    rw [← Line.length_ofText, List.length_map] at length
    rw [List.length_map, List.length_map, length, kept]
  have texts : (Line.ofText (repair text (ruleset.lint text))).map Line.text =
      (ruleset.kept text).map Line.text := (Line.map_text_ofText _).trans made
  have looks (lines : List Line) :
      lines.map Line.look = (lines.map (·.kind.isCode)).zip (lines.map Line.text) :=
    (List.zip_map' ..).symm
  rw [looks, looks, code, texts]

/-- With at least one blank line allowed, no blank line is too many behind the pass. -/
theorem lint_repair_of_multipleBlanks (positive : 1 ≤ options.maximum) (stored : Stored text) :
    ruleset.lint (repair text (ruleset.lint text)) = [] := by
  have stays : ruleset.kept (repair text (ruleset.lint text)) =
      Line.ofText (repair text (ruleset.lint text)) := by
    have looks := map_look_repair alone positive stored
    rw [kept_eq_prune alone] at looks
    rw [kept_eq_prune alone]
    exact MultipleBlanks.prune_eq_self positive (.start options) looks
  rw [lint_eq_nil_iff_not_asks alone rfl]
  intro line member
  exact not_asks_of_kept alone member (mem_kept.1 (stays ▸ member)).2

end Ruleset

end DocCheck
