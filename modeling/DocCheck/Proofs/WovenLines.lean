import DocCheck.Lint
import DocCheck.Proofs.LineBreaks
import DocCheck.Proofs.LinePass
import Mathlib.Data.List.Basic

set_option autoImplicit false

namespace DocCheck

open Text

namespace Text

theorem unbroken_iff {text : List Char} : Unbroken text ↔ '\r' ∉ text ∧ '\n' ∉ text := by
  constructor
  · intro unbroken
    exact ⟨fun found => absurd (unbroken _ found) (by decide),
      fun found => absurd (unbroken _ found) (by decide)⟩
  · rintro ⟨noCr, noLf⟩ c found
    have cr : c ≠ '\r' := fun eq => noCr (eq ▸ found)
    have lf : c ≠ '\n' := fun eq => noLf (eq ▸ found)
    simp [isBreak, cr, lf]

/-- The lines with the line breaks between them, in their order. -/
def weave : List (List Char) → List LineEnding → List Char
  | part :: parts, ending :: endings => part ++ (ending.toList ++ weave parts endings)
  | parts, [] => parts.flatten
  | [], _ => []

theorem weave_cons (part : List Char) (parts : List (List Char)) (ending : LineEnding)
    (endings : List LineEnding) :
    weave (part :: parts) (ending :: endings) = part ++ (ending.toList ++ weave parts endings) :=
  rfl

theorem weave_singleton (part : List Char) : weave [part] [] = part := by
  rw [weave, List.flatten_singleton]

/-- Where a line ends, the break that ended it is put back. -/
theorem weave_linesFrom (before text : List Char) :
    weave (linesFrom before text) (breaks text) = before.reverse ++ text := by
  fun_induction linesFrom before text with
  | case1 before =>
    show weave [before.reverse] [] = before.reverse ++ []
    rw [weave_singleton, List.append_nil]
  | case2 before rest ih =>
    rw [breaks, weave_cons, ih]
    rfl
  | case3 before rest apart ih =>
    rw [breaks.eq_3 _ apart, weave_cons, ih]
    rfl
  | case4 before rest ih =>
    rw [breaks, weave_cons, ih]
    rfl
  | case5 before c rest crlf cr lf ih =>
    rw [breaks.eq_5 _ _ (fun _ eq _ => cr eq) cr lf, ih, List.reverse_cons, List.append_assoc,
      List.singleton_append]

theorem weave_lines (text : List Char) : weave (lines text) (breaks text) = text :=
  weave_linesFrom [] text

theorem weave_replicate (ending : LineEnding) (part : List Char) (parts : List (List Char)) :
    weave (part :: parts) (List.replicate parts.length ending) = joinLines ending (part :: parts) := by
  induction parts generalizing part with
  | nil => exact (weave_singleton part).trans (joinLines_singleton ending part).symm
  | cons next parts ih =>
    rw [List.length_cons, List.replicate_succ, weave_cons, ih, joinLines_cons_cons]

def SameBreaks (text : List Char) : Prop :=
  ∀ a ∈ breaks text, ∀ b ∈ breaks text, a = b

theorem SameBreaks.breaks_eq {text : List Char} (same : SameBreaks text) :
    breaks text = List.replicate (breaks text).length (lineEnding text) := by
  rw [lineEnding_eq]
  cases eq : breaks text with
  | nil => rfl
  | cons first rest =>
    rw [List.eq_replicate_iff]
    refine ⟨rfl, fun ending found => ?_⟩
    rw [← eq] at found
    apply same ending found
    rw [eq]
    exact List.mem_cons_self ..

/-- Joining the lines with the first line break puts it in the place of all others. -/
theorem uniform_iff_sameBreaks (text : List Char) : Uniform text ↔ SameBreaks text := by
  have unbroken : ∀ line ∈ lines text, Unbroken line := fun _ found => unbroken_of_mem_lines found
  constructor
  · intro joined
    have same : breaks text = List.replicate ((lines text).length - 1) (lineEnding text) := by
      rw [← breaks_joinLines (lineEnding text) unbroken, joined]
    intro a foundA b foundB
    rw [same] at foundA foundB
    rw [List.eq_of_mem_replicate foundA, List.eq_of_mem_replicate foundB]
  · intro same
    have woven := weave_lines text
    have count := length_lines text
    obtain ⟨part, parts, eq⟩ := List.exists_cons_of_ne_nil (lines_ne_nil text)
    have length : (breaks text).length = parts.length := by
      rw [eq, List.length_cons] at count
      omega
    rw [eq, same.breaks_eq, length, weave_replicate, ← eq] at woven
    exact woven

end Text

/-- Edits that name no line of the text leave its lines as they are. -/
theorem Edit.applyAll_eq_joinLines {text : List Char} {edits : List Edit}
    (idle : ∀ edit ∈ edits, edit.line = 0 ∨ (lines text).length < edit.line) :
    applyAll text edits = joinLines (lineEnding text) (lines text) := by
  have each : ∀ entry ∈ (lines text).zipIdx 1,
      repairLine (lineEnding text) (onLine entry.2 edits) entry.1 = some entry.1 := by
    intro entry found
    have bounds := List.snd_lt_of_mem_zipIdx found
    have start := List.le_snd_of_mem_zipIdx found
    have none : onLine entry.2 edits = [] := by
      rw [List.eq_nil_iff_forall_not_mem]
      intro edit considered
      obtain ⟨member, named⟩ := mem_onLine.1 considered
      have := idle edit member
      omega
    rw [none]
    rfl
  have kept : survivors (lineEnding text) (lines text) (schedule edits) = lines text := by
    rw [survivors_schedule, List.filterMap_congr each]
    exact (congrFun List.filterMap_eq_map _).trans (List.zipIdx_map_fst 1 (lines text))
  show joinLines (lineEnding text) (survivors (lineEnding text) (lines text) (schedule edits)) = _
  rw [kept]

/-- A text is its lines, which hold no break, with its line breaks between them; lines that were joined
are read back; and findings whose edits name no line of the text join its lines with its first line
break, which gives the text back exactly when all its line breaks are the same. -/
theorem weave_lines_breaks (text : List Char) :
    (lines text ≠ [] ∧ (∀ line ∈ lines text, '\r' ∉ line ∧ '\n' ∉ line) ∧
      (lines text).length = (breaks text).length + 1 ∧
      weave (lines text) (breaks text) = text) ∧
    (∀ (ending : LineEnding) (parts : List (List Char)), parts ≠ [] →
      (∀ part ∈ parts, '\r' ∉ part ∧ '\n' ∉ part) → lines (joinLines ending parts) = parts) ∧
    (∀ findings : List Finding,
      (∀ edit ∈ findings.filterMap Finding.edit, edit.line = 0 ∨ (lines text).length < edit.line) →
        repair text findings = joinLines (lineEnding text) (lines text)) ∧
    (joinLines (lineEnding text) (lines text) = text ↔
      ∀ a ∈ breaks text, ∀ b ∈ breaks text, a = b) := by
  refine ⟨⟨lines_ne_nil text, ?_, length_lines text, weave_lines text⟩, ?_, ?_,
    uniform_iff_sameBreaks text⟩
  · intro line found
    exact unbroken_iff.1 (unbroken_of_mem_lines found)
  · intro ending parts ne unbroken
    exact lines_joinLines ending ne fun part found => unbroken_iff.2 (unbroken part found)
  · intro findings idle
    exact Edit.applyAll_eq_joinLines idle

/-- The first of three different line breaks is put in the place of the others, although the only edit
names no line. -/
theorem weave_lines_breaks_mixed :
    weave ["a".toList, [], [], "b".toList] [.cr, .crlf, .lf] = "a\r\r\n\nb".toList ∧
    lines (joinLines .crlf [[], "b".toList]) = [[], "b".toList] ∧
    repair "a\r\r\n\nb".toList
        [⟨5, .finalNewline, none, none, none, .error, some (.inserting 5 1 ['x'])⟩] =
      "a\r\r\rb".toList ∧
    joinLines (lineEnding "a\r\r\n\nb".toList) (lines "a\r\r\n\nb".toList) ≠
      "a\r\r\n\nb".toList := by
  obtain ⟨⟨-, -, -, woven⟩, joined, idle, same⟩ := weave_lines_breaks "a\r\r\n\nb".toList
  refine ⟨woven, joined .crlf _ (by decide) (by decide), ?_, ?_⟩
  · exact (idle _ (by decide)).trans (by decide)
  · rw [Ne, same]
    decide

end DocCheck
