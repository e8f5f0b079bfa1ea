import DocCheck.Proofs.Schedule

set_option autoImplicit false

namespace DocCheck.Edit

open Text

/-- Whether an edit keeps clear of the edit of the same line that was considered before it and
starts at `last`. -/
def clearsStart (edit : Edit) (last : Option Nat) : Bool :=
  edit.clears 0 (last.map (Mark.mk 0))

theorem clears_of_ne {edit : Edit} {line : Nat} {mark : Mark} (h : mark.line ≠ line) :
    edit.clears line (some mark) = true := by
  simp only [clears]
  split <;> simp [h]

theorem clears_mark (edit : Edit) (line start : Nat) :
    edit.clears line (some ⟨line, start⟩) = edit.clearsStart (some start) := by
  simp [clearsStart, clears]

/-- A line under repair, unless it is deleted, and the start of the edit of it that was considered
last. -/
structure LineProgress where
  text : Option (List Char)
  last : Option Nat
  deriving DecidableEq, Repr

def LineProgress.step (ending : LineEnding) (state : LineProgress) (edit : Edit) :
    LineProgress where
  text :=
    if edit.clearsStart state.last then state.text.bind (edit.applyTo ending) else state.text
  last := some edit.start

def repairLine (ending : LineEnding) (edits : List Edit) (line : List Char) : Option (List Char) :=
  (edits.foldl (LineProgress.step ending) ⟨some line, none⟩).text

/-- The start of the edit considered last, if it is an edit of the line at `index`. -/
def Progress.lastOn (state : Progress) (index : Nat) : Option Nat :=
  state.last.bind fun mark => if mark.line = index then some mark.start else none

theorem clears_last (edit : Edit) (state : Progress) (index : Nat) :
    edit.clears index state.last = edit.clearsStart (state.lastOn index) := by
  rcases h : state.last with _ | mark
  · simp [Progress.lastOn, h, clearsStart, clears]
  · by_cases same : mark.line = index
    · subst same
      simp only [Progress.lastOn, h, Option.bind_some, if_true]
      exact clears_mark edit mark.line mark.start
    · rw [clears_of_ne same]
      simp [Progress.lastOn, h, same, clearsStart, clears]

variable (ending : LineEnding)

theorem step_same (state : Progress) {edit : Edit} {index : Nat} (h : edit.line = index + 1) :
    (state.step ending edit).lastOn index = some edit.start ∧
      (state.step ending edit).lines[index]? = state.lines[index]?.map fun text =>
        if edit.clearsStart (state.lastOn index) then text.bind (edit.applyTo ending)
        else text := by
  simp only [Progress.step, h]
  refine ⟨by simp [Progress.lastOn], ?_⟩
  rw [clears_last]
  split
  · simp [Array.getElem?_modify]
  · simp

theorem step_other {state : Progress} {edit : Edit} {index : Nat} (h : edit.line ≠ index + 1) :
    (state.step ending edit).lines[index]? = state.lines[index]? := by
  simp only [Progress.step]
  split
  · rfl
  · rename_i line eq
    have differs : line ≠ index := by omega
    split
    · simp [Array.getElem?_modify, differs]
    · rfl

/-- The lines still to come lie at or above the one considered last. -/
def Progress.Descends (state : Progress) (edits : List Edit) : Prop :=
  ∀ mark ∈ state.last, ∀ edit ∈ edits, edit.line ≤ mark.line + 1

theorem descends_step {state : Progress} {edit : Edit} {rest : List Edit}
    (below : state.Descends (edit :: rest)) (sorted : ∀ next ∈ rest, next.line ≤ edit.line) :
    (state.step ending edit).Descends rest := by
  intro mark marked next found
  simp only [Progress.step] at marked
  split at marked
  · exact below mark marked next (List.mem_cons_of_mem _ found)
  · rename_i line eq
    simp only [Option.mem_def, Option.some.injEq] at marked
    subst marked
    simpa [eq] using sorted next found

/-- Off the line at `index`, either the mark does not matter or no edit of that line is still to
come. -/
theorem lastOn_step_other {state : Progress} {edit : Edit} {rest : List Edit} {index : Nat}
    (h : edit.line ≠ index + 1) (below : state.Descends (edit :: rest))
    (sorted : ∀ next ∈ rest, next.line ≤ edit.line) :
    (state.step ending edit).lastOn index = state.lastOn index ∨
      rest.filter (·.line = index + 1) = [] := by
  rcases marked : state.last with _ | mark
  · left
    simp only [Progress.step]
    split
    · rfl
    · rename_i line eq
      have differs : line ≠ index := by omega
      simp [Progress.lastOn, marked, differs]
  · by_cases same : mark.line = index
    · right
      have bound := below mark (by simp [marked]) edit (List.mem_cons_self ..)
      rw [List.filter_eq_nil_iff]
      intro next found
      have := sorted next found
      simp only [decide_eq_true_eq]
      omega
    · left
      simp only [Progress.step]
      split
      · rfl
      · rename_i line eq
        have differs : line ≠ index := by omega
        simp [Progress.lastOn, marked, differs, same]

/-- The line at `index` is repaired by its own edits. -/
theorem getElem?_foldl_step {edits : List Edit} {state : Progress} (index : Nat)
    (sorted : edits.Pairwise fun a b => b.line ≤ a.line) (below : state.Descends edits) :
    (edits.foldl (Progress.step ending) state).lines[index]? =
      state.lines[index]?.map fun text =>
        ((edits.filter (·.line = index + 1)).foldl (LineProgress.step ending)
          ⟨text, state.lastOn index⟩).text := by
  -- On the schedule: lines only fall along it, so the edits of one line stand together.
  induction edits generalizing state with
  | nil => simp
  | cons edit rest ih =>
    obtain ⟨first, others⟩ := List.pairwise_cons.1 sorted
    rw [List.foldl_cons, ih others (descends_step ending below first)]
    by_cases h : edit.line = index + 1
    · obtain ⟨last, lines⟩ := step_same ending state h
      rw [last, lines, List.filter_cons_of_pos (by simpa using h), Option.map_map]
      rfl
    · rw [step_other ending h, List.filter_cons_of_neg (by simpa using h)]
      rcases lastOn_step_other ending h below first with same | none
      · rw [same]
      · simp [none]

/-- The lines that are left after a pass. -/
theorem survivors_schedule (lines : List (List Char)) (edits : List Edit) :
    survivors ending lines (schedule edits) =
      (lines.zipIdx 1).filterMap fun line =>
        repairLine ending (onLine line.2 edits) line.1 := by
  have each : ((schedule edits).foldl (Progress.step ending)
      ⟨(lines.map some).toArray, none⟩).lines.toList =
        (lines.zipIdx 1).map fun line => repairLine ending (onLine line.2 edits) line.1 := by
    apply List.ext_getElem?
    intro index
    rw [Array.getElem?_toList, getElem?_foldl_step ending index (pairwise_line_schedule edits)
      (by simp [Progress.Descends])]
    simp only [List.getElem?_toArray, List.getElem?_map, List.getElem?_zipIdx, Option.map_map]
    cases lines[index]? with
    | none => rfl
    | some line => simp [repairLine, onLine, Progress.lastOn, Nat.add_comm 1 index]
  rw [survivors, each, List.filterMap_map]
  rfl

end DocCheck.Edit
