import DocCheck.Proofs.RepairedLines
import Mathlib.Data.List.Basic

set_option autoImplicit false

namespace DocCheck.Edit

open Text

variable (ending : LineEnding)

theorem splice_singleton (edit : Edit) (front gone back : List Char)
    (start : edit.start = front.length) (width : edit.width = gone.length) :
    splice ending 0 [edit] (front ++ (gone ++ back)) = front ++ (edit.insertion ending ++ back) := by
  have before : (front ++ (gone ++ back)).take edit.start = front := by
    rw [start, List.take_left]
  have behind : (front ++ (gone ++ back)).drop edit.finish = back := by
    rw [finish, start, width, ← List.append_assoc,
      List.drop_left' (List.length_append ..)]
  rw [splice, splice, Nat.sub_zero, Nat.sub_zero, before, behind]

theorem effective_singleton (edit : Edit) : effective [edit] = [edit] := by
  rw [effective, applied, if_pos (clearsStart_none edit), applied, List.reverse_singleton]

theorem onLine_singleton (number : Nat) (edit : Edit) :
    onLine number [edit] = if edit.line = number then [edit] else [] := by
  have alone : schedule [edit] = [edit] := by
    simp [schedule, dropRepeats]
  rw [onLine, alone, List.filter_singleton, Bool.cond_decide]

theorem lines_applyAll_singleton {edit : Edit} {text : List Char} {line : Line}
    (member : line ∈ Line.ofText text) (here : edit.line = line.number)
    (fits : Fits line.text.length edit) (plain : Unbroken edit.insert) :
    lines (applyAll text [edit]) = (Line.ofText text).map fun other =>
      if other = line then splice (lineEnding text) 0 [edit] line.text else other.text := by
  have each (other : Line) (found : other ∈ Line.ofText text) :
      repairLine (lineEnding text) (onLine other.number [edit]) other.text =
        some (if other = line then splice (lineEnding text) 0 [edit] line.text
          else other.text) := by
    rw [onLine_singleton, here]
    by_cases same : other = line
    · rw [if_pos same, same, if_pos rfl, repairLine_eq_splice _ (by simpa using fits)
        (List.pairwise_singleton ..), effective_singleton]
    · have apart : line.number ≠ other.number := fun equal =>
        same (Line.eq_of_number_eq found member equal.symm)
      rw [if_neg apart, if_neg same]
      rfl
  have made : survivors (lineEnding text) (lines text) (schedule [edit]) =
      (Line.ofText text).map fun other =>
        if other = line then splice (lineEnding text) 0 [edit] line.text else other.text := by
    rw [survivors_schedule, Line.zipIdx_lines, List.filterMap_map, ← List.filterMap_eq_map]
    exact List.filterMap_congr each
  rw [applyAll, made]
  refine lines_joinLines _ (by simp [Line.ofText_ne_nil]) fun part found => ?_
  obtain ⟨other, there, rfl⟩ := List.mem_map.1 found
  split
  · intro c inside
    have whole : edit.insertion (lineEnding text) = edit.insert :=
      insertion_eq (fun newline => absurd (plain _ newline) (by decide)) _
    rcases mem_splice inside with old | ⟨only, listed, new⟩
    · exact unbroken_of_mem_lines (Line.text_mem_lines member) c old
    · rw [List.mem_singleton.1 listed, whole] at new
      exact plain c new
  · exact unbroken_of_mem_lines (Line.text_mem_lines there)

end DocCheck.Edit
