import DocCheck.Proofs.JoinedLines
import DocCheck.Proofs.Mends

set_option autoImplicit false

namespace DocCheck

open Text

namespace Text

/-- A text that memory holds: its length in bytes is a signed word. -/
def Stored (text : List Char) : Prop :=
  byteLength text < signedWordLimit

instance (text : List Char) : Decidable (Stored text) :=
  inferInstanceAs (Decidable (byteLength text < signedWordLimit))

theorem length_le_byteLength (text : List Char) : text.length ≤ byteLength text := by
  induction text with
  | nil => simp
  | cons c text ih =>
    have := c.utf8Size_pos
    simp only [List.length_cons, byteLength_cons]
    omega

theorem length_le_of_mem_linesFrom {before text line : List Char}
    (h : line ∈ linesFrom before text) : line.length ≤ before.length + text.length := by
  fun_induction linesFrom before text with
  | case1 before => simp [List.mem_singleton.1 h]
  | case2 before rest ih | case3 before rest _ ih | case4 before rest ih =>
    simp only [List.length_cons]
    rcases List.mem_cons.1 h with rfl | h
    · rw [List.length_reverse]
      omega
    · have := ih h
      simp only [List.length_nil] at this
      omega
  | case5 before c rest _ _ _ ih =>
    have := ih h
    simp only [List.length_cons] at this ⊢
    omega

theorem Stored.length_lt {text line : List Char} (stored : Stored text)
    (h : line ∈ lines text) : line.length < wordLimit := by
  have inside := length_le_of_mem_linesFrom h
  have bytes := length_le_byteLength text
  have double := two_mul_signedWordLimit
  rw [Stored] at stored
  simp only [List.length_nil] at inside
  omega

/-- The text ends with a line break, so that its last line is empty. -/
def Ended (text : List Char) : Prop :=
  (lines text).getLast? = some []

instance (text : List Char) : Decidable (Ended text) :=
  inferInstanceAs (Decidable ((lines text).getLast? = some []))

end Text

namespace Mends

variable {doc : Document} {line : Line} {rule : Rule} {edit : Edit}

theorem finish_le (h : Mends doc line rule edit) (keeps : edit.deletesLine = false) :
    edit.finish ≤ line.text.length := by
  cases h with
  | trailing =>
    have := length_trimEnd_le (· == ' ') line.text
    simp only [Edit.deleting, Edit.finish_mk]
    omega
  | tabs _ found =>
    have := HardTabs.bounds_of_mem_runsFrom (Nat.le_refl 0) found
    simp only [HardTabs.fill, Edit.replacing, Edit.finish_mk]
    omega
  | blank => simp [Edit.deletingLine, Edit.deletesLine] at keeps
  | unspaced _ found =>
    obtain ⟨indent, level, rest, eq, positive, head, -⟩ := lacksSpace_iff.1 found
    have length := length_hashLine indent level rest
    rw [eq, takeWhile_hashLine positive, dropWhile_hashLine positive,
      takeWhile_replicate_append head]
    simp only [Edit.inserting, Edit.finish_mk, List.length_replicate]
    omega
  | @spaced _ heading found =>
    obtain ⟨spacing, tail, shape⟩ := Heading.shape_of_parse? (Line.heading?_eq_some.1 found).2
    have length := shape.length_spacing
    rw [shape.line_eq, length_hashLine]
    simp only [Edit.deleting, Edit.finish_mk, List.length_append]
    omega
  | @indented _ heading found =>
    obtain ⟨spacing, tail, shape⟩ := Heading.shape_of_parse? (Line.heading?_eq_some.1 found).2
    rw [shape.line_eq, length_hashLine]
    simp only [Edit.deleting, Edit.finish_mk]
    omega
  | @punctuated _ heading last found content =>
    obtain ⟨spacing, tail, shape⟩ := Heading.shape_of_parse? (Line.heading?_eq_some.1 found).2
    have length := shape.length_spacing
    have nonempty : 0 < heading.content.length :=
      List.length_pos_iff.2 (by rintro empty; simp [empty] at content)
    rw [shape.line_eq, length_hashLine]
    simp only [Edit.deleting, Edit.finish_mk, List.length_append, Heading.contentStart]
    omega
  | unended => simp [Edit.inserting]

/-- Only a repeated blank line is deleted. -/
theorem of_deletes (h : Mends doc line rule edit) (deletes : edit.deletesLine = true) :
    rule.id = .multipleBlanks ∧ edit = .deletingLine line.number ∧ allBlank line.text = true := by
  cases h with
  | blank _ blank => exact ⟨rfl, rfl, blank⟩
  | _ => cases deletes

/-- A line break is inserted only in a last line that is not empty. -/
theorem of_mem_insert (h : Mends doc line rule edit) (found : '\n' ∈ edit.insert) :
    rule.id = .finalNewline ∧ doc.lines.getLast? = some line ∧ line.text ≠ [] := by
  cases h with
  | unended last text => exact ⟨rfl, last, text⟩
  | trailing | blank | spaced | indented | punctuated => cases found
  | @tabs options => exact absurd (options.eq_space_of_mem_spaces found) (by decide)
  | unspaced => exact absurd (List.mem_singleton.1 found) (by decide)

theorem start_lt (h : Mends doc line rule edit) (keeps : edit.deletesLine = false)
    (other : edit ≠ .inserting line.number (line.text.length + 1) ['\n']) :
    edit.start < line.text.length := by
  have finish := h.finish_le keeps
  cases h with
  | trailing _ found =>
    simp only [TrailingSpaces.checkLine] at found
    split at found
    · cases found
    · rename_i trailing
      simp only [Edit.deleting, Edit.start_mk]
      omega
  | tabs _ found =>
    have := HardTabs.bounds_of_mem_runsFrom (Nat.le_refl 0) found
    simp only [HardTabs.fill, Edit.replacing, Edit.start_mk, Edit.finish_mk] at finish ⊢
    omega
  | blank => simp [Edit.deletingLine, Edit.deletesLine] at keeps
  | unspaced _ found =>
    obtain ⟨indent, level, rest, eq, positive, head, -, next, -⟩ := lacksSpace_iff.1 found
    have length := length_hashLine indent level rest
    have more : 0 < rest.length := List.length_pos_iff.2 (by rintro rfl; simp at next)
    rw [eq, takeWhile_hashLine positive, dropWhile_hashLine positive,
      takeWhile_replicate_append head]
    simp only [Edit.inserting, Edit.start_mk, List.length_replicate]
    omega
  | spaced _ several =>
    simp only [Edit.deleting, Edit.start_mk, Edit.finish_mk] at finish ⊢
    omega
  | indented _ indent =>
    simp only [Edit.deleting, Edit.start_mk, Edit.finish_mk] at finish ⊢
    omega
  | punctuated =>
    simp only [Edit.deleting, Edit.start_mk, Edit.finish_mk] at finish ⊢
    omega
  | unended => exact absurd rfl other

/-- An edit that removes nothing puts a space where the line lacks one, or ends the line. -/
theorem width_pos_or (h : Mends doc line rule edit) (keeps : edit.deletesLine = false) :
    0 < edit.width ∨ edit.insert ≠ [] ∧ (lacksSpace line.text = true ∨
      edit = .inserting line.number (line.text.length + 1) ['\n']) := by
  cases h with
  | trailing _ found =>
    simp only [TrailingSpaces.checkLine] at found
    split at found
    · cases found
    · rename_i trailing
      left
      simp only [Edit.deleting, Edit.width_mk]
      omega
  | tabs _ found => exact .inl (HardTabs.bounds_of_mem_runsFrom (Nat.le_refl 0) found).2.1
  | blank => simp [Edit.deletingLine, Edit.deletesLine] at keeps
  | unspaced _ lacks => exact .inr ⟨List.cons_ne_nil _ _, .inl lacks⟩
  | spaced _ several => exact .inl (Nat.sub_pos_of_lt several)
  | indented _ indent => exact .inl indent
  | punctuated => exact .inl Nat.one_pos
  | unended => exact .inr ⟨List.cons_ne_nil _ _, .inr rfl⟩

theorem eq_space_of_mem_insert (h : Mends doc line rule edit)
    (other : edit ≠ .inserting line.number (line.text.length + 1) ['\n']) {c : Char}
    (found : c ∈ edit.insert) : c = ' ' := by
  cases h with
  | trailing | blank | spaced | indented | punctuated => cases found
  | @tabs options => exact options.eq_space_of_mem_spaces found
  | unspaced => exact List.mem_singleton.1 found
  | unended => exact absurd rfl other

end Mends

namespace Edit

/-- What a splice holds was there or was inserted. -/
theorem mem_splice {ending : LineEnding} {edits : List Edit} {column : Nat} {text : List Char}
    {c : Char} (h : c ∈ splice ending column edits text) :
    c ∈ text ∨ ∃ edit ∈ edits, c ∈ edit.insertion ending := by
  induction edits generalizing column text with
  | nil => exact .inl h
  | cons edit rest ih =>
    rw [splice, List.mem_append, List.mem_append] at h
    rcases h with h | h | h
    · exact .inl (List.mem_of_mem_take h)
    · exact .inr ⟨edit, List.mem_cons_self .., h⟩
    · rcases ih h with h | ⟨next, found, h⟩
      · exact .inl (List.mem_of_mem_drop h)
      · exact .inr ⟨next, List.mem_cons_of_mem _ found, h⟩

theorem splice_congr {ending other : LineEnding} {edits : List Edit}
    (same : ∀ edit ∈ edits, edit.insertion ending = edit.insertion other) (column : Nat)
    (text : List Char) : splice ending column edits text = splice other column edits text := by
  induction edits generalizing column text with
  | nil => rfl
  | cons edit rest ih =>
    obtain ⟨first, others⟩ := List.forall_mem_cons.1 same
    rw [splice, splice, first, ih others]

end Edit

namespace Ruleset

variable (ruleset : Ruleset) (text : List Char) (line : Line)

def deletes : Bool :=
  Edit.deletingLine line.number ∈ ruleset.edits text

def newline : Edit :=
  .inserting line.number (line.text.length + 1) ['\n']

/-- The pass ends the line with a line break. -/
def ends : Bool :=
  newline line ∈ ruleset.edits text

/-- The edits that act within the line, from left to right. -/
def acting : List Edit :=
  (Edit.effective (Edit.onLine line.number (ruleset.edits text))).filter (· ≠ newline line)

/-- What the pass makes of a line that it keeps, without the line break it may add. -/
def mended : List Char :=
  Edit.splice (lineEnding text) 0 (ruleset.acting text line) line.text

def parts : List (List Char) :=
  if ruleset.deletes text line then []
  else ruleset.mended text line :: if ruleset.ends text line then [[]] else []

variable {ruleset text line}

theorem deletes_iff (member : line ∈ Line.ofText text) :
    ruleset.deletes text line = true ↔ ruleset.Asks text line (.deletingLine line.number) := by
  rw [deletes, decide_eq_true_iff, ← mem_onLine_edits member, Edit.mem_onLine]
  simp [Edit.deletingLine]

theorem ends_iff (member : line ∈ Line.ofText text) :
    ruleset.ends text line = true ↔ ruleset.Asks text line (newline line) := by
  rw [ends, decide_eq_true_iff, ← mem_onLine_edits member, Edit.mem_onLine]
  simp [newline, Edit.inserting]

theorem getLast?_of_ends (member : line ∈ Line.ofText text) (h : ruleset.ends text line = true) :
    (Line.ofText text).getLast? = some line ∧ line.text ≠ [] := by
  obtain ⟨_, -, -, mends⟩ := (ends_iff member).1 h
  exact (mends.of_mem_insert (List.mem_singleton.2 rfl)).2

/-- On a line that is kept, every edit fits. -/
theorem fits_onLine (stored : Stored text) (member : line ∈ Line.ofText text)
    (kept : ruleset.deletes text line = false) {edit : Edit}
    (h : edit ∈ Edit.onLine line.number (ruleset.edits text)) :
    Edit.Fits line.text.length edit := by
  have asks := (mem_onLine_edits member).1 h
  obtain ⟨_, _, _, mends⟩ := id asks
  have keeps : edit.deletesLine = false := by
    rw [← Bool.not_eq_true]
    intro deletes
    obtain ⟨-, rfl, -⟩ := mends.of_deletes deletes
    rw [← deletes_iff member, kept] at asks
    cases asks
  have finish := mends.finish_le keeps
  have short := stored.length_lt (Line.text_mem_lines member)
  have le : edit.start ≤ edit.finish := Nat.le_add_right ..
  exact ⟨keeps, by omega, by omega⟩

theorem pairwise_effective_onLine (stored : Stored text) (member : line ∈ Line.ofText text)
    (kept : ruleset.deletes text line = false) :
    (Edit.effective (Edit.onLine line.number (ruleset.edits text))).Pairwise Edit.Apart :=
  Edit.pairwise_effective (fun _ => fits_onLine stored member kept)
    (Edit.pairwise_start_onLine fun _ found => (fits_onLine stored member kept found).keeps)

structure Acts (ruleset : Ruleset) (text : List Char) (line : Line) (edit : Edit) : Prop where
  asks : ruleset.Asks text line edit
  keeps : edit.deletesLine = false
  inner : edit ≠ newline line

theorem acts_of_mem_acting (stored : Stored text) (member : line ∈ Line.ofText text)
    (kept : ruleset.deletes text line = false) {edit : Edit}
    (h : edit ∈ ruleset.acting text line) : Acts ruleset text line edit := by
  obtain ⟨found, inner⟩ := List.mem_filter.1 h
  have considered := Edit.mem_of_mem_effective found
  exact ⟨(mem_onLine_edits member).1 considered, (fits_onLine stored member kept considered).keeps,
    by simpa using inner⟩

theorem pairwise_acting (ruleset : Ruleset) (stored : Stored text)
    (member : line ∈ Line.ofText text) (kept : ruleset.deletes text line = false) :
    (ruleset.acting text line).Pairwise Edit.Apart :=
  (pairwise_effective_onLine stored member kept).filter _

theorem Acts.start_lt {edit : Edit} (h : Acts ruleset text line edit) :
    edit.start < line.text.length := by
  obtain ⟨_, -, -, mends⟩ := h.asks
  exact mends.start_lt h.keeps h.inner

theorem Acts.finish_le {edit : Edit} (h : Acts ruleset text line edit) :
    edit.finish ≤ line.text.length := by
  obtain ⟨_, -, -, mends⟩ := h.asks
  exact mends.finish_le h.keeps

theorem Acts.eq_space {edit : Edit} (h : Acts ruleset text line edit) {c : Char}
    (found : c ∈ edit.insert) : c = ' ' := by
  obtain ⟨_, -, -, mends⟩ := h.asks
  exact mends.eq_space_of_mem_insert h.inner found

theorem Acts.insertion_eq {edit : Edit} (h : Acts ruleset text line edit) (ending : LineEnding) :
    edit.insertion ending = edit.insert :=
  Edit.insertion_eq (fun found => absurd (h.eq_space found) (by decide)) ending

theorem newline_mem_effective (stored : Stored text) (member : line ∈ Line.ofText text)
    (kept : ruleset.deletes text line = false) (ends : ruleset.ends text line = true) :
    newline line ∈ Edit.effective (Edit.onLine line.number (ruleset.edits text)) := by
  have asked := (mem_onLine_edits member).2 ((ends_iff member).1 ends)
  refine Edit.mem_effective (fits_onLine stored member kept asked)
    (Edit.pairwise_start_onLine fun _ found => (fits_onLine stored member kept found).keeps) ?_ asked
  intro edit found
  obtain ⟨_, -, -, mends⟩ := (mem_onLine_edits member).1 found
  have keeps := (fits_onLine stored member kept found).keeps
  by_cases other : edit = newline line
  · exact .inl other
  · exact .inr (.inl ⟨mends.finish_le keeps, mends.start_lt keeps other⟩)

/-- What acts on a line, and after it the line break that ends it. -/
theorem effective_onLine (stored : Stored text) (member : line ∈ Line.ofText text)
    (kept : ruleset.deletes text line = false) :
    Edit.effective (Edit.onLine line.number (ruleset.edits text)) =
      ruleset.acting text line ++ if ruleset.ends text line then [newline line] else [] := by
  have apart := pairwise_effective_onLine stored member kept
  have fits (edit : Edit)
      (found : edit ∈ Edit.effective (Edit.onLine line.number (ruleset.edits text))) :=
    fits_onLine stored member kept (Edit.mem_of_mem_effective found)
  have start : (newline line).start = line.text.length := rfl
  split
  · rename_i ends
    obtain ⟨front, back, split⟩ :=
      List.append_of_mem (newline_mem_effective stored member kept ends)
    rw [split] at apart fits
    obtain ⟨-, right, left⟩ := List.pairwise_append.1 apart
    -- The edit that ends the line starts where no other edit does, behind all characters.
    have last : back = [] := by
      cases back with
      | nil => rfl
      | cons edit back =>
        have behind := ((List.pairwise_cons.1 right).1 edit (List.mem_cons_self ..)).start_lt
        have := (fits edit (by simp)).start_le
        omega
    have differ : ∀ edit ∈ front, edit ≠ newline line := by
      rintro edit found rfl
      have := (left _ found _ (List.mem_cons_self ..)).start_lt
      omega
    rw [acting, split, last, List.filter_append, List.filter_eq_self.2 (by simpa using differ)]
    simp
  · rename_i ends
    rw [acting, List.append_nil, List.filter_eq_self.2]
    intro edit found
    simp only [ne_eq, decide_eq_true_eq]
    rintro rfl
    exact ends ((ends_iff member).2
      ((mem_onLine_edits member).1 (Edit.mem_of_mem_effective found)))

theorem splice_acting (ending : LineEnding) (stored : Stored text)
    (member : line ∈ Line.ofText text) (kept : ruleset.deletes text line = false) :
    Edit.splice ending 0 (ruleset.acting text line) line.text = ruleset.mended text line := by
  refine Edit.splice_congr (fun edit found => ?_) 0 line.text
  have acts := acts_of_mem_acting stored member kept found
  rw [acts.insertion_eq, acts.insertion_eq]

theorem repairLine_onLine (ending : LineEnding) (stored : Stored text)
    (member : line ∈ Line.ofText text) (kept : ruleset.deletes text line = false) :
    Edit.repairLine ending (Edit.onLine line.number (ruleset.edits text)) line.text =
      some (ruleset.mended text line ++
        if ruleset.ends text line then ending.toList else []) := by
  rw [Edit.repairLine_eq_splice ending (fun _ => fits_onLine stored member kept)
    (Edit.pairwise_start_onLine fun _ found => (fits_onLine stored member kept found).keeps),
    effective_onLine stored member kept]
  split
  · have outside : ∀ edit ∈ [newline line], 0 + line.text.length ≤ edit.start := by
      simp [newline, Edit.inserting]
    have joined := Edit.splice_append ending [newline line] 0 line.text []
      (ruleset.pairwise_acting stored member kept)
      (fun edit found => ⟨Nat.zero_le _, by
        simpa using (acts_of_mem_acting stored member kept found).finish_le⟩)
      outside
    rw [List.append_nil, splice_acting ending stored member kept] at joined
    rw [joined]
    simp [Edit.splice, newline, Edit.inserting, Edit.insertion]
  · rw [List.append_nil, List.append_nil, splice_acting ending stored member kept]

/-- Edits that act on a line put spaces among its characters. -/
theorem mem_splice_of_acting (stored : Stored text) (member : line ∈ Line.ofText text)
    (kept : ruleset.deletes text line = false) {edits : List Edit}
    (acting : edits ⊆ ruleset.acting text line) {column : Nat} {part : List Char} {c : Char}
    (found : c ∈ Edit.splice (lineEnding text) column edits part) : c ∈ part ∨ c = ' ' := by
  rcases Edit.mem_splice found with there | ⟨edit, acts, inserted⟩
  · exact .inl there
  · have acts := acts_of_mem_acting stored member kept (acting acts)
    rw [acts.insertion_eq] at inserted
    exact .inr (acts.eq_space inserted)

theorem unbroken_mended (stored : Stored text) (member : line ∈ Line.ofText text)
    (kept : ruleset.deletes text line = false) : Unbroken (ruleset.mended text line) := by
  intro c found
  rcases mem_splice_of_acting stored member kept (List.Subset.refl _) found with there | rfl
  · exact unbroken_of_mem_lines (Line.text_mem_lines member) c there
  · rfl

theorem unbroken_of_mem_parts (stored : Stored text) (member : line ∈ Line.ofText text)
    {part : List Char} (h : part ∈ ruleset.parts text line) : Unbroken part := by
  rw [parts] at h
  split at h
  · cases h
  · rename_i kept
    rcases List.mem_cons.1 h with rfl | h
    · exact unbroken_mended stored member (by simpa using kept)
    · split at h
      · rw [List.mem_singleton.1 h]
        exact .nil
      · cases h

def enables (ruleset : Ruleset) (id : RuleId) : Bool :=
  id ∈ ruleset.rules.map ConfiguredRule.id

theorem enables_of_deletes (member : line ∈ Line.ofText text)
    (h : ruleset.deletes text line = true) : ruleset.enables .multipleBlanks = true := by
  obtain ⟨configured, found, -, mends⟩ := (deletes_iff member).1 h
  have id : configured.id = .multipleBlanks := (mends.of_deletes rfl).1
  exact decide_eq_true (id ▸ List.mem_map_of_mem found)

theorem deletes_eq_false_of_off (off : ruleset.enables .multipleBlanks = false)
    (member : line ∈ Line.ofText text) : ruleset.deletes text line = false := by
  rw [← Bool.not_eq_true] at off ⊢
  exact mt (enables_of_deletes member) off

theorem enables_of_ends (member : line ∈ Line.ofText text) (h : ruleset.ends text line = true) :
    ruleset.enables .finalNewline = true := by
  obtain ⟨configured, found, -, mends⟩ := (ends_iff member).1 h
  have id : configured.id = .finalNewline := (mends.of_mem_insert (List.mem_singleton.2 rfl)).1
  exact decide_eq_true (id ▸ List.mem_map_of_mem found)

theorem ends_eq_false_of_off (off : ruleset.enables .finalNewline = false)
    (member : line ∈ Line.ofText text) : ruleset.ends text line = false := by
  rw [← Bool.not_eq_true] at off ⊢
  exact mt (enables_of_ends member) off

def repairedLines (ruleset : Ruleset) (text : List Char) : List (List Char) :=
  (Line.ofText text).flatMap (ruleset.parts text)

theorem repairLine_eq_none (member : line ∈ Line.ofText text)
    (gone : ruleset.deletes text line = true) (ending : LineEnding) :
    Edit.repairLine ending (Edit.onLine line.number (ruleset.edits text)) line.text = none :=
  Edit.repairLine_eq_none ending ((mem_onLine_edits member).2 ((deletes_iff member).1 gone)) rfl _

/-- Where the pass does not end the line, it makes at most one line of it. -/
theorem toList_repairLine (ending : LineEnding) (stored : Stored text)
    (member : line ∈ Line.ofText text) (ends : ruleset.ends text line = false) :
    (Edit.repairLine ending (Edit.onLine line.number (ruleset.edits text))
      line.text).toList = ruleset.parts text line := by
  rw [parts, ends]
  split
  · rename_i gone
    rw [repairLine_eq_none member gone]
    rfl
  · rename_i kept
    rw [repairLine_onLine ending stored member (by simpa using kept), ends]
    simp

/-- Only the last line is ended. -/
theorem ends_eq_false {front : List Line} {last : Line}
    (split : Line.ofText text = front ++ [last]) (h : line ∈ front) :
    ruleset.ends text line = false := by
  have member : line ∈ Line.ofText text := by simp [split, h]
  rw [← Bool.not_eq_true]
  intro ends
  have found := (getLast?_of_ends member ends).1
  rw [split, List.getLast?_concat] at found
  obtain rfl := Option.some.inj found
  obtain ⟨index, here⟩ := List.mem_iff_getElem?.1 h
  have inside := (List.getElem?_eq_some_iff.1 here).1
  have first : (Line.ofText text)[index]? = some last := by
    rw [split, List.getElem?_append_left inside, here]
  have second : (Line.ofText text)[front.length]? = some last := by
    simp [split]
  have := Line.number_of_getElem?_ofText first
  have := Line.number_of_getElem?_ofText second
  omega

theorem filterMap_eq_flatMap {α β : Type} {f : α → Option β} {g : α → List β} {as : List α}
    (h : ∀ a ∈ as, (f a).toList = g a) : as.filterMap f = as.flatMap g := by
  induction as with
  | nil => rfl
  | cons a as ih =>
    obtain ⟨head, tail⟩ := List.forall_mem_cons.1 h
    rw [List.filterMap_cons, List.flatMap_cons, ← head, ih tail]
    cases f a <;> rfl

/-- Whatever line break is used, the edits make the repaired lines of the text. -/
theorem joinLines_survivors (ending : LineEnding) (stored : Stored text) :
    joinLines ending
        (Edit.survivors ending (lines text) (Edit.schedule (ruleset.edits text))) =
      joinLines ending (ruleset.repairedLines text) := by
  have left : Edit.survivors ending (lines text) (Edit.schedule (ruleset.edits text)) =
      (Line.ofText text).filterMap fun line =>
        Edit.repairLine ending (Edit.onLine line.number (ruleset.edits text)) line.text := by
    rw [Edit.survivors_schedule, Line.zipIdx_lines, List.filterMap_map]
    rfl
  rw [left, repairedLines]
  rcases List.eq_nil_or_concat (Line.ofText text) with empty | ⟨front, last, split⟩
  · rw [empty]
    rfl
  · rw [List.concat_eq_append] at split
    have member : last ∈ Line.ofText text := by simp [split]
    have inner : ∀ line ∈ front, line ∈ Line.ofText text := by simp +contextual [split]
    -- Lines before the last one are never ended.
    have before : (front.filterMap fun line =>
        Edit.repairLine ending (Edit.onLine line.number (ruleset.edits text)) line.text) =
          front.flatMap (ruleset.parts text) :=
      filterMap_eq_flatMap fun line found =>
        toList_repairLine ending stored (inner line found) (ends_eq_false split found)
    rw [split, List.filterMap_append, List.flatMap_append, List.flatMap_singleton, before]
    by_cases ends : ruleset.ends text last = true
    · by_cases gone : ruleset.deletes text last = true
      · have none : ruleset.parts text last = [] := if_pos gone
        rw [none]
        simp [repairLine_eq_none member gone]
      · have two : ruleset.parts text last = [ruleset.mended text last, []] := by
          simp [parts, gone, ends]
        -- The break that ends the line makes an empty line behind it.
        have whole := repairLine_onLine ending stored member (by simpa using gone)
        rw [ends, if_pos rfl] at whole
        rw [two, ← joinLines_append_break]
        simp [whole]
    · rw [Bool.not_eq_true] at ends
      rw [← toList_repairLine ending stored member ends]
      cases h : Edit.repairLine ending (Edit.onLine last.number (ruleset.edits text))
        last.text <;> simp [h]

theorem repair_eq_joinLines (stored : Stored text) :
    repair text (ruleset.lint text) = joinLines (lineEnding text) (ruleset.repairedLines text) :=
  joinLines_survivors (lineEnding text) stored

def kept (ruleset : Ruleset) (text : List Char) : List Line :=
  (Line.ofText text).filter fun line => !ruleset.deletes text line

theorem mem_kept : line ∈ ruleset.kept text ↔
    line ∈ Line.ofText text ∧ ruleset.deletes text line = false := by
  simp [kept]

/-- Each kept line is mended in its place; an empty line may follow. -/
theorem repairedLines_eq (ruleset : Ruleset) (text : List Char) :
    ruleset.repairedLines text =
      (ruleset.kept text).map (ruleset.mended text) ++
        if (ruleset.kept text).any (ruleset.ends text) then [[]] else [] := by
  have inner (lines : List Line) (none : ∀ line ∈ lines, ruleset.ends text line = false) :
      lines.flatMap (ruleset.parts text) =
        (lines.filter fun line => !ruleset.deletes text line).map (ruleset.mended text) := by
    induction lines with
    | nil => rfl
    | cons line lines ih =>
      obtain ⟨head, tail⟩ := List.forall_mem_cons.1 none
      rw [List.flatMap_cons, ih tail, parts, head]
      by_cases gone : ruleset.deletes text line = true <;> simp [gone]
  rcases List.eq_nil_or_concat (Line.ofText text) with empty | ⟨front, last, split⟩
  · rw [repairedLines, kept, empty]
    rfl
  · rw [List.concat_eq_append] at split
    have none : ∀ line ∈ front, ruleset.ends text line = false := fun line found =>
      ends_eq_false split found
    have any : (front.filter fun line => !ruleset.deletes text line).any (ruleset.ends text) =
        false := by
      rw [List.any_eq_false]
      intro line found
      simp [none line ((List.mem_filter.1 found).1)]
    rw [repairedLines, kept, split, List.flatMap_append, List.filter_append, List.any_append, any,
      inner front none, List.flatMap_singleton, parts]
    by_cases gone : ruleset.deletes text last = true <;> simp [gone]

theorem unbroken_of_mem_repairedLines (stored : Stored text) {part : List Char}
    (h : part ∈ ruleset.repairedLines text) : Unbroken part := by
  obtain ⟨line, member, found⟩ := List.mem_flatMap.1 h
  exact unbroken_of_mem_parts stored member found

/-- Splitting the repaired text gives the repaired lines. When no line is kept, an empty line is
left. -/
theorem lines_repair (stored : Stored text) :
    lines (repair text (ruleset.lint text)) =
      if ruleset.repairedLines text = [] then [[]] else ruleset.repairedLines text := by
  rw [repair_eq_joinLines stored]
  split
  · rename_i empty
    rw [empty]
    rfl
  · rename_i some
    exact lines_joinLines _ some fun _ found => unbroken_of_mem_repairedLines stored found

theorem lines_repair_of_none_ends (stored : Stored text)
    (none : ∀ line ∈ Line.ofText text, ruleset.ends text line = false) :
    lines (repair text (ruleset.lint text)) =
      if ruleset.kept text = [] then [[]]
      else (ruleset.kept text).map (ruleset.mended text) := by
  have any : (ruleset.kept text).any (ruleset.ends text) = false := by
    rw [List.any_eq_false]
    intro line found
    rw [none line (mem_kept.1 found).1]
    exact Bool.false_ne_true
  rw [lines_repair stored, repairedLines_eq, any, if_neg Bool.false_ne_true, List.append_nil]
  simp only [List.map_eq_nil_iff]

/-- A repaired text has one kind of line break. -/
theorem uniform_repair (stored : Stored text) : Uniform (repair text (ruleset.lint text)) := by
  rw [repair_eq_joinLines stored]
  exact uniform_joinLines _ fun _ found => unbroken_of_mem_repairedLines stored found

end Ruleset

end DocCheck
