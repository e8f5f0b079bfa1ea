import DocCheck.Proofs.EditOrder
import DocCheck.Proofs.GuardedLines

set_option autoImplicit false

namespace DocCheck

open Text

namespace Edit

def guardedStop (edit : Edit) (count : Nat) : Guarded Nat :=
  .add edit.start count

def guardedClears (edit : Edit) (line : Nat) : Option Mark → Guarded Bool
  | none => return true
  | some mark =>
    match edit.deletion with
    | .wholeLine => return true
    | .chars count => do
      if mark.line ≠ line then
        return true
      let stop ← edit.guardedStop count
      let bound := if 0 < count then mark.start else mark.start - 1
      return stop ≤ bound && !(count = 0 && mark.start = 0)

def guardedApplyTo (edit : Edit) (ending : LineEnding) (line : List Char) :
    Guarded (Option (List Char)) :=
  match edit.deletion with
  | .wholeLine => return none
  | .chars count => do
    let stop ← edit.guardedStop count
    return some (line.take edit.start ++ edit.insertion ending ++ line.drop stop)

def Progress.guardedStep (ending : LineEnding) (state : Progress) (edit : Edit) :
    Guarded Progress := do
  match edit.line with
  | 0 => return state
  | line + 1 =>
    let last : Mark := ⟨line, edit.start⟩
    if ← edit.guardedClears line state.last then
      match state.lines[line]? with
      | none | some none => return ⟨state.lines, some last⟩
      | some (some text) =>
        let edited ← edit.guardedApplyTo ending text
        return ⟨state.lines.setIfInBounds line edited, some last⟩
    else
      return ⟨state.lines, some last⟩

def guardedApplyAll (text : List Char) (edits : List Edit) : Guarded (List Char) := do
  let ending := lineEnding text
  let parts ← Guarded.linesFrom [] text
  let progress ← (schedule edits).foldlM (Progress.guardedStep ending) ⟨(parts.map some).toArray, none⟩
  return joinLines ending (progress.lines.toList.filterMap id)

section Arrays

variable {α : Type} {items : Array α} {index : Nat} {f : α → α}

theorem modify_eq_self (same : ∀ item ∈ items[index]?, f item = item) :
    items.modify index f = items := by
  apply Array.ext_getElem?
  intro other
  rw [Array.getElem?_modify]
  split
  · rename_i here
    rw [← here]
    cases found : items[index]? with
    | none => rfl
    | some item => rw [Option.map_some, same item found]
  · rfl

theorem setIfInBounds_eq_modify {item : α} (found : items[index]? = some item) :
    items.setIfInBounds index (f item) = items.modify index f := by
  apply Array.ext_getElem?
  intro other
  rw [Array.getElem?_modify, Array.getElem?_setIfInBounds]
  split
  · rename_i here
    obtain ⟨inside, -⟩ := Array.getElem?_eq_some_iff.1 found
    rw [← here, found, if_pos inside, Option.map_some]
  · rfl

end Arrays

section Step

variable {edit : Edit} (word : edit.deletesLine = false → edit.finish < wordLimit)

include word

theorem guardedStop_eq {count : Nat} (keeps : edit.deletion = .chars count) :
    edit.guardedStop count = .ok (edit.stop count) := by
  have finish : edit.finish = edit.start + count := by rw [finish, width, keeps]
  have fits : edit.start + count < wordLimit := by
    rw [← finish]
    apply word
    rw [deletesLine, keeps]
    rfl
  rw [guardedStop, Guarded.add_eq fits, stop, Nat.mod_eq_of_lt fits]

theorem guardedClears_eq (line : Nat) (last : Option Mark) :
    edit.guardedClears line last = .ok (edit.clears line last) := by
  cases last with
  | none => rfl
  | some mark =>
    rw [guardedClears, clears]
    cases keeps : edit.deletion with
    | wholeLine => rfl
    | chars count =>
      dsimp only
      rw [guardedStop_eq word keeps, Guarded.ok_bind]
      by_cases same : mark.line = line
      · rw [if_neg (not_not_intro same)]
        by_cases some : 0 < count
        · simp [same, some, Nat.ne_of_gt some]
        · obtain rfl : count = 0 := by omega
          simp [same, Nat.pos_iff_ne_zero, Bool.and_comm]
      · simp [same]

theorem guardedApplyTo_eq (ending : LineEnding) (line : List Char) :
    edit.guardedApplyTo ending line = .ok (edit.applyTo ending line) := by
  rw [guardedApplyTo, applyTo]
  cases keeps : edit.deletion with
  | wholeLine => rfl
  | chars count =>
    dsimp only
    rw [guardedStop_eq word keeps, Guarded.ok_bind, Guarded.pure_eq_ok]

theorem guardedStep_eq (ending : LineEnding) (state : Progress) :
    state.guardedStep ending edit = .ok (state.step ending edit) := by
  rw [Progress.guardedStep, Progress.step]
  cases edit.line with
  | zero => rfl
  | succ line =>
    dsimp only
    rw [guardedClears_eq word, Guarded.ok_bind]
    cases edit.clears line state.last with
    | false => rfl
    | true =>
      simp only [if_true]
      cases found : state.lines[line]? with
      | none =>
        rw [modify_eq_self (by simp [found])]
        rfl
      | some here =>
        cases here with
        | none =>
          rw [modify_eq_self (by simp [found])]
          rfl
        | some text =>
          dsimp only
          rw [guardedApplyTo_eq word, Guarded.ok_bind, Guarded.pure_eq_ok,
            ← setIfInBounds_eq_modify found, Option.bind_some]

end Step

theorem guardedApplyAll_eq {text : List Char} {edits : List Edit} (stored : Stored text)
    (words : InWords edits) : guardedApplyAll text edits = .ok (applyAll text edits) := by
  have steps : ∀ edit ∈ schedule edits, ∀ state : Progress,
      state.guardedStep (lineEnding text) edit = .ok (state.step (lineEnding text) edit) :=
    fun edit scheduled => guardedStep_eq (words edit (mem_schedule.1 scheduled)) (lineEnding text)
  have double := two_mul_signedWordLimit
  unfold Stored at stored
  rw [guardedApplyAll, Guarded.linesFrom_eq (by rw [byteLength_nil]; omega), Guarded.ok_bind,
    Guarded.foldlM_eq steps, Guarded.ok_bind]
  rfl

end Edit

def guardedRepair (text : List Char) (findings : List Finding) : Guarded (List Char) :=
  Edit.guardedApplyAll text (findings.filterMap Finding.edit)

/-- The edits of the findings of a text are applied without a breach. -/
theorem Ruleset.guardedRepair_eq (ruleset : Ruleset) {text : List Char} (stored : Stored text)
    {findings : List Finding} (linted : ∀ finding ∈ findings, finding ∈ ruleset.lint text) :
    guardedRepair text findings = .ok (repair text findings) := by
  have words : Edit.InWords (ruleset.edits text) := inWords_edits stored
  apply Edit.guardedApplyAll_eq stored
  intro edit carried
  obtain ⟨finding, found, own⟩ := List.mem_filterMap.1 carried
  exact words edit (List.mem_filterMap.2 ⟨finding, linted finding found, own⟩)

end DocCheck
