import DocCheck.Lint
import DocCheck.Proofs.Splice
import Mathlib.Data.List.Dedup
import Mathlib.Data.List.Nodup

set_option autoImplicit false

namespace DocCheck

open Text

namespace Edit

variable (ending : LineEnding)

/-- What edits put in before the character at a column. -/
def insertedAt (edits : List Edit) (column : Nat) : List Char :=
  (edits.filter (·.start = column)).flatMap (·.insertion ending)

def covers (edits : List Edit) (column : Nat) : Bool :=
  edits.any fun edit => edit.start ≤ column && column < edit.finish

/-- Text that begins at `column` of its line, with every edit carried out on the columns of that line.
No edit sees what another one leaves. -/
def atOnce (edits : List Edit) (column : Nat) : List Char → List Char
  | [] => insertedAt ending edits column
  | c :: rest =>
    insertedAt ending edits column ++
      ((if covers edits column then [] else [c]) ++ atOnce edits (column + 1) rest)

variable {edits : List Edit} {edit : Edit} {column : Nat}

theorem insertedAt_eq_nil (h : ∀ edit ∈ edits, edit.start ≠ column) :
    insertedAt ending edits column = [] := by
  rw [insertedAt, List.filter_eq_nil_iff.2 (by simpa using h), List.flatMap_nil]

theorem insertedAt_cons_of_ne (h : edit.start ≠ column) :
    insertedAt ending (edit :: edits) column = insertedAt ending edits column := by
  rw [insertedAt, List.filter_cons_of_neg (by simpa using h), insertedAt]

theorem covers_eq_true_iff :
    covers edits column = true ↔ ∃ edit ∈ edits, edit.start ≤ column ∧ column < edit.finish := by
  simp [covers]

theorem covers_eq_false (h : ∀ edit ∈ edits, column < edit.start) :
    covers edits column = false := by
  rw [← Bool.not_eq_true, covers_eq_true_iff]
  rintro ⟨edit, found, start, -⟩
  have := h edit found
  omega

theorem atOnce_eq_take_append {middle : Nat} {text : List Char} (le : column ≤ middle)
    (right : ∀ edit ∈ edits, middle ≤ edit.start) (inside : middle ≤ column + text.length) :
    atOnce ending edits column text =
      text.take (middle - column) ++ atOnce ending edits middle (text.drop (middle - column)) := by
  induction text generalizing column with
  | nil =>
    obtain rfl : column = middle := by
      simp only [List.length_nil] at inside
      omega
    simp
  | cons c rest ih =>
    by_cases same : column = middle
    · simp [same]
    · have later : ∀ edit ∈ edits, column < edit.start := fun edit found => by
        have := right edit found
        omega
      have none := insertedAt_eq_nil ending fun edit found => (Nat.ne_of_lt (later edit found)).symm
      have step : middle - column = middle - (column + 1) + 1 := by omega
      simp only [List.length_cons] at inside
      rw [atOnce, none, covers_eq_false later, ih (by omega) (by omega), step, List.take_succ_cons,
        List.drop_succ_cons]
      rfl

theorem atOnce_cons_of_finish_le {text : List Char} (before : edit.start < column)
    (ends : edit.finish ≤ column) :
    atOnce ending (edit :: edits) column text = atOnce ending edits column text := by
  induction text generalizing column with
  | nil => exact insertedAt_cons_of_ne ending (Nat.ne_of_lt before)
  | cons c rest ih =>
    have covered : covers (edit :: edits) column = covers edits column := by
      have out : ¬ column < edit.finish := by omega
      simp [covers, out]
    rw [atOnce, insertedAt_cons_of_ne ending (Nat.ne_of_lt before), covered, ih (by omega) (by omega),
      atOnce]

theorem atOnce_cons_of_le_finish {text : List Char} (before : edit.start < column)
    (within : column ≤ edit.finish) (right : ∀ next ∈ edits, edit.finish ≤ next.start)
    (inside : ∀ next ∈ edits, next.start ≤ column + text.length) :
    atOnce ending (edit :: edits) column text =
      atOnce ending edits edit.finish (text.drop (edit.finish - column)) := by
  induction text generalizing column with
  | nil =>
    by_cases same : column = edit.finish
    · rw [← same, atOnce_cons_of_finish_le ending before (Nat.le_of_eq same.symm), List.drop_nil]
    · have none : edits = [] := by
        rw [List.eq_nil_iff_forall_not_mem]
        intro next found
        have := right next found
        have := inside next found
        simp only [List.length_nil] at this
        omega
      rw [none, atOnce, insertedAt_eq_nil ending (by simp; omega), List.drop_nil, atOnce,
        insertedAt_eq_nil ending (by simp)]
  | cons c rest ih =>
    by_cases same : column = edit.finish
    · rw [← same, atOnce_cons_of_finish_le ending before (Nat.le_of_eq same.symm), Nat.sub_self,
        List.drop_zero]
    · have none : insertedAt ending (edit :: edits) column = [] := by
        refine insertedAt_eq_nil ending (List.forall_mem_cons.2 ⟨by omega, ?_⟩)
        intro next found
        have := right next found
        omega
      have covered : covers (edit :: edits) column = true :=
        covers_eq_true_iff.2 ⟨edit, List.mem_cons_self .., by omega, by omega⟩
      have step : edit.finish - column = edit.finish - (column + 1) + 1 := by omega
      simp only [List.length_cons] at inside
      rw [atOnce, none, covered, ih (by omega) (by omega) (fun next found => by
        have := inside next found
        omega), step, List.drop_succ_cons]
      rfl

/-- The first edit puts its text in, and behind what it removes come the others. -/
theorem atOnce_cons {text : List Char} (apart : ∀ next ∈ edits, Apart edit next)
    (inside : ∀ next ∈ edits, next.start ≤ edit.start + text.length) :
    atOnce ending (edit :: edits) edit.start text =
      edit.insertion ending ++ atOnce ending edits edit.finish (text.drop edit.width) := by
  have later : ∀ next ∈ edits, next.start ≠ edit.start := fun next found =>
    (Nat.ne_of_lt (apart next found).start_lt).symm
  have inserted : insertedAt ending (edit :: edits) edit.start = edit.insertion ending := by
    have others := insertedAt_eq_nil ending later
    rw [insertedAt] at others
    rw [insertedAt, List.filter_cons_of_pos (by simp), List.flatMap_cons, others, List.append_nil]
  have finish : edit.finish = edit.start + edit.width := rfl
  cases text with
  | nil =>
    have none : edits = [] := by
      rw [List.eq_nil_iff_forall_not_mem]
      intro next found
      have := (apart next found).start_lt
      have := inside next found
      simp only [List.length_nil] at this
      omega
    rw [atOnce, inserted, none, List.drop_nil, atOnce, insertedAt_eq_nil ending (by simp),
      List.append_nil]
  | cons c rest =>
    simp only [List.length_cons] at inside
    rw [atOnce, inserted]
    congr 1
    by_cases wide : edit.width = 0
    · -- An insertion removes nothing, and the other edits start behind the character.
      have bare : covers (edit :: edits) edit.start = false := by
        rw [← Bool.not_eq_true, covers_eq_true_iff]
        rintro ⟨next, found, start, stop⟩
        rcases List.mem_cons.1 found with rfl | found
        · omega
        · have := (apart next found).start_lt
          omega
      have here : edit.finish = edit.start := by omega
      rw [bare, atOnce_cons_of_finish_le ending (by omega) (by omega), wide, List.drop_zero, here,
        atOnce, insertedAt_eq_nil ending later,
        covers_eq_false fun next found => (apart next found).start_lt]
      rfl
    · have covered : covers (edit :: edits) edit.start = true :=
        covers_eq_true_iff.2 ⟨edit, List.mem_cons_self .., Nat.le_refl _, by omega⟩
      have step : edit.width = edit.finish - (edit.start + 1) + 1 := by omega
      rw [covered, atOnce_cons_of_le_finish ending (by omega) (by omega)
        (fun next found => (apart next found).finish_le)
        (fun next found => by
          have := inside next found
          omega), step, List.drop_succ_cons]
      rfl

/-- One after the other from left to right, the edits do what they do at once. -/
theorem splice_eq_atOnce {text : List Char} (apart : edits.Pairwise Apart)
    (right : ∀ edit ∈ edits, column ≤ edit.start)
    (inside : ∀ edit ∈ edits, edit.start ≤ column + text.length) :
    splice ending column edits text = atOnce ending edits column text := by
  induction edits generalizing column text with
  | nil =>
    rw [splice, atOnce_eq_take_append ending (Nat.le_add_right column text.length) (by simp)
      (Nat.le_refl _), Nat.add_sub_cancel_left, List.take_length, List.drop_length, atOnce,
      insertedAt_eq_nil ending (by simp), List.append_nil]
  | cons edit rest ih =>
    obtain ⟨first, others⟩ := List.pairwise_cons.1 apart
    have start := right edit (List.mem_cons_self ..)
    have length := inside edit (List.mem_cons_self ..)
    have finish : edit.finish = edit.start + edit.width := rfl
    have cut : text.drop (edit.finish - column) =
        (text.drop (edit.start - column)).drop edit.width := by
      rw [List.drop_drop, show edit.start - column + edit.width = edit.finish - column by omega]
    have behind : ∀ next ∈ rest,
        next.start ≤ edit.start + (text.drop (edit.start - column)).length := by
      intro next found
      have := inside next (List.mem_cons_of_mem _ found)
      rw [List.length_drop]
      omega
    -- The other edits see the text behind what the first one removes.
    have tail : splice ending edit.finish rest (text.drop (edit.finish - column)) =
        atOnce ending rest edit.finish (text.drop (edit.finish - column)) := by
      refine ih others (fun next found => (first next found).finish_le) fun next found => ?_
      have := inside next (List.mem_cons_of_mem _ found)
      have := (first next found).finish_le
      rw [List.length_drop]
      omega
    rw [splice, tail, cut, ← atOnce_cons ending first behind]
    refine (atOnce_eq_take_append ending start ?_ length).symm
    intro next found
    rcases List.mem_cons.1 found with rfl | found
    · exact Nat.le_refl _
    · exact Nat.le_of_lt (first next found).start_lt

theorem atOnce_congr {others : List Edit}
    (inserted : ∀ column, insertedAt ending edits column = insertedAt ending others column)
    (covered : ∀ column, covers edits column = covers others column) (column : Nat)
    (text : List Char) :
    atOnce ending edits column text = atOnce ending others column text := by
  induction text generalizing column with
  | nil => exact inserted column
  | cons c rest ih => rw [atOnce, inserted, covered, ih, atOnce]

/-- At most one of the edits that lie apart starts at a column. -/
theorem filter_start_of_apart (apart : edits.Pairwise Apart) (column : Nat) :
    edits.filter (·.start = column) = [] ∨
      ∃ edit, edits.filter (·.start = column) = [edit] := by
  have ordered := apart.filter fun edit => decide (edit.start = column)
  rcases starting : edits.filter (·.start = column) with _ | ⟨edit, _ | ⟨next, rest⟩⟩
  · exact .inl starting
  · exact .inr ⟨edit, starting⟩
  · have starts : ∀ other ∈ edit :: next :: rest, other.start = column := by
      intro other found
      rw [← starting] at found
      exact of_decide_eq_true (List.mem_filter.1 found).2
    rw [starting] at ordered
    have less := ((List.pairwise_cons.1 ordered).1 next (List.mem_cons_self ..)).start_lt
    have := starts edit (by simp)
    have := starts next (by simp)
    omega

/-- Neither the order nor the number of copies of the edits matters. -/
theorem atOnce_eq_of_mem_iff {distinct : List Edit} (apart : edits.Pairwise Apart)
    (nodup : distinct.Nodup) (same : ∀ edit, edit ∈ edits ↔ edit ∈ distinct) (column : Nat)
    (text : List Char) :
    atOnce ending edits column text = atOnce ending distinct column text := by
  have differ : edits.Nodup := by
    refine List.Pairwise.imp ?_ apart
    rintro a _ apart rfl
    exact Nat.lt_irrefl _ apart.start_lt
  have perm : edits.Perm distinct := (List.perm_ext_iff_of_nodup differ nodup).2 same
  refine atOnce_congr ending (fun column => ?_) (fun column => perm.any_eq) column text
  have starting := perm.filter fun edit => decide (edit.start = column)
  rcases filter_start_of_apart apart column with none | ⟨edit, one⟩
  · rw [none] at starting
    rw [insertedAt, insertedAt, none, List.nil_perm.1 starting]
  · rw [one] at starting
    rw [insertedAt, insertedAt, one, List.singleton_perm.1 starting]

/-- What edits that lie apart make of a line: nothing if one of them deletes it. -/
def rewritten? (edits : List Edit) (line : List Char) (number : Nat) : Option (List Char) :=
  let own := edits.filter (·.line = number)
  if own.any deletesLine then none else some (atOnce ending own.dedup 0 line)

/-- Two edits that keep the same line are equal or lie apart. Each starts on its line, if there is
such a line, and where it ends is a word. -/
structure Compatible (text : List Char) (edits : List Edit) : Prop where
  apart : ∀ a ∈ edits, ∀ b ∈ edits, a.deletesLine = false → b.deletesLine = false →
    a.line = b.line → a = b ∨ Apart a b ∨ Apart b a
  start_le : ∀ edit ∈ edits, edit.deletesLine = false → ∀ entry ∈ (lines text).zipIdx 1,
    edit.line = entry.2 → edit.start ≤ entry.1.length
  finish_lt : ∀ edit ∈ edits, edit.deletesLine = false → edit.finish < wordLimit

theorem repairLine_eq_rewritten? {text line : List Char} {number : Nat}
    (compatible : Compatible text edits) (entry : (line, number) ∈ (lines text).zipIdx 1) :
    repairLine ending (onLine number edits) line = rewritten? ending edits line number := by
  rw [rewritten?]
  split
  · rename_i deleted
    obtain ⟨edit, found, deletes⟩ := List.any_eq_true.1 deleted
    rw [List.mem_filter, decide_eq_true_iff] at found
    exact repairLine_eq_none ending (mem_onLine.2 found) deletes line
  · rename_i kept
    have keeps : ∀ edit ∈ onLine number edits, edit.deletesLine = false := by
      intro edit found
      rw [← Bool.not_eq_true]
      intro deletes
      refine kept (List.any_eq_true.2 ⟨edit, ?_, deletes⟩)
      rw [List.mem_filter, decide_eq_true_iff]
      exact mem_onLine.1 found
    have fits : ∀ edit ∈ onLine number edits, Fits line.length edit := by
      intro edit found
      obtain ⟨member, there⟩ := mem_onLine.1 found
      have stays := keeps edit found
      exact ⟨stays, compatible.start_le edit member stays _ entry there,
        compatible.finish_lt edit member stays⟩
    have agree : ∀ a ∈ onLine number edits, ∀ b ∈ onLine number edits,
        a = b ∨ Apart a b ∨ Apart b a := by
      intro a ha b hb
      obtain ⟨left, first⟩ := mem_onLine.1 ha
      obtain ⟨right, second⟩ := mem_onLine.1 hb
      exact compatible.apart a left b right (keeps a ha) (keeps b hb) (first.trans second.symm)
    have sorted := pairwise_start_onLine keeps
    have apart := pairwise_effective fits sorted
    have same : ∀ edit, edit ∈ effective (onLine number edits) ↔
        edit ∈ (edits.filter (·.line = number)).dedup := by
      intro edit
      rw [mem_effective_iff fits sorted agree, mem_onLine, List.mem_dedup, List.mem_filter,
        decide_eq_true_iff]
    rw [repairLine_eq_splice ending fits sorted,
      splice_eq_atOnce ending apart (fun _ _ => Nat.zero_le _) (fun edit found => by
        rw [Nat.zero_add]
        exact (fits edit (mem_of_mem_effective found)).start_le),
      atOnce_eq_of_mem_iff ending apart (List.nodup_dedup _) same]

end Edit

/-- Edits that lie apart are carried out all at once: a line that one of them deletes is gone, every
other line has all its edits carried out on its own columns, and what is left is joined in order with
the line break of the text. -/
theorem repair_eq_atOnce (text : List Char) (findings : List Finding)
    (compatible : Edit.Compatible text (findings.filterMap Finding.edit)) :
    repair text findings =
      joinLines (lineEnding text) (((lines text).zipIdx 1).filterMap fun (line, number) =>
        Edit.rewritten? (lineEnding text) (findings.filterMap Finding.edit) line number) := by
  rw [repair, Edit.applyAll]
  simp only
  rw [Edit.survivors_schedule]
  congr 1
  apply List.filterMap_congr
  intro entry found
  exact Edit.repairLine_eq_rewritten? _ compatible found

/-- Findings with edits that touch, that are repeated, that reach behind the end of their line, that
share a line with its deletion, and that name no line of the text. -/
def scattered : List Finding :=
  [.replacing 1 5 99 ['!'], .inserting 1 0 ['X', '\n'], .replacing 1 2 1 [' ', ' '],
    .deleting 1 3 1, .inserting 2 3 "end".toList, .inserting 3 1 "gone".toList, .deletingLine 3,
    .replacing 1 2 1 [' ', ' '], .inserting 0 7 ['?'], .deleting 9 1 4].map fun edit =>
      ⟨edit.line, .trailingSpaces, none, none, none, .error, some edit⟩

theorem repair_eq_atOnce_scattered :
    Edit.Compatible "a\tbcde\r\nxy\r\n\r\nz\n".toList (scattered.filterMap Finding.edit) ∧
      repair "a\tbcde\r\nxy\r\n\r\nz\n".toList scattered =
        "X\r\na  c!\r\nxyend\r\nz\r\n".toList := by
  have compatible : Edit.Compatible "a\tbcde\r\nxy\r\n\r\nz\n".toList
      (scattered.filterMap Finding.edit) := by
    refine ⟨?_, by decide +kernel, by decide +kernel⟩
    have apart : ∀ a ∈ scattered.filterMap Finding.edit,
        ∀ b ∈ scattered.filterMap Finding.edit, a.deletesLine = false → b.deletesLine = false →
          a.line = b.line → a = b ∨ (a.finish ≤ b.start ∧ a.start < b.start) ∨
            (b.finish ≤ a.start ∧ b.start < a.start) := by decide +kernel
    intro a ha b hb left right same
    exact (apart a ha b hb left right same).imp_right
      (Or.imp (fun h => ⟨h.1, h.2⟩) fun h => ⟨h.1, h.2⟩)
  exact ⟨compatible, (repair_eq_atOnce _ scattered compatible).trans (by decide +kernel)⟩

end DocCheck
