import DocCheck.Proofs.LinePass

set_option autoImplicit false

namespace DocCheck.Edit

open Text

/-- The number of characters that an edit removes from a line that it keeps. -/
def width (edit : Edit) : Nat :=
  match edit.deletion with
  | .chars count => count
  | .wholeLine => 0

/-- The column, counted from zero, at which the edit ends. -/
def finish (edit : Edit) : Nat :=
  edit.start + edit.width

@[simp] theorem start_mk (line column : Nat) (deletion : Deletion) (insert : List Char) :
    (Edit.mk line column deletion insert).start = column - 1 :=
  rfl

@[simp] theorem width_mk (line column count : Nat) (insert : List Char) :
    (Edit.mk line column (.chars count) insert).width = count :=
  rfl

@[simp] theorem finish_mk (line column count : Nat) (insert : List Char) :
    (Edit.mk line column (.chars count) insert).finish = column - 1 + count :=
  rfl

theorem insertion_eq {edit : Edit} (plain : '\n' ∉ edit.insert) (ending : LineEnding) :
    edit.insertion ending = edit.insert := by
  rw [insertion]
  generalize edit.insert = text at plain
  induction text with
  | nil => rfl
  | cons c text ih =>
    obtain ⟨head, tail⟩ := not_or.1 (mt List.mem_cons.2 plain)
    rw [List.flatMap_cons, ih tail, if_neg (Ne.symm head), List.singleton_append]

/-- The first edit ends before the second one begins. -/
structure Apart (a b : Edit) : Prop where
  finish_le : a.finish ≤ b.start
  start_lt : a.start < b.start

instance : Std.Irrefl Apart :=
  ⟨fun _ apart => Nat.lt_irrefl _ apart.start_lt⟩

instance : Std.Antisymm Apart :=
  ⟨fun _ _ forth back => absurd forth.start_lt (Nat.lt_asymm back.start_lt)⟩

/-- The edit keeps a line of `length` characters and starts on it, and where it ends is a word. -/
structure Fits (length : Nat) (edit : Edit) : Prop where
  keeps : edit.deletesLine = false
  start_le : edit.start ≤ length
  finish_lt : edit.finish < wordLimit

def removed (edit : Edit) (line : List Char) : List Char :=
  (line.drop edit.start).take edit.width

theorem mem_removed_of_getElem? {edit : Edit} {text : List Char} {index : Nat} {c : Char}
    (found : text[index]? = some c) (start : edit.start ≤ index) (finish : index < edit.finish) :
    c ∈ edit.removed text := by
  have inside : index - edit.start < edit.width := by
    rw [Edit.finish] at finish
    omega
  apply List.mem_of_getElem? (i := index - edit.start)
  rw [removed, List.getElem?_take_of_lt inside, List.getElem?_drop, Nat.add_sub_of_le start, found]

theorem removed_eq_nil {edit : Edit} (narrow : edit.width = 0) (line : List Char) :
    edit.removed line = [] := by
  rw [removed, narrow, List.take_zero]

theorem removed_ne_nil {edit : Edit} {line : List Char} (wide : 0 < edit.width)
    (inside : edit.start < line.length) : edit.removed line ≠ [] := by
  rw [← List.length_pos_iff, removed, List.length_take, List.length_drop]
  omega

theorem Fits.deletion {length : Nat} {edit : Edit} (h : Fits length edit) :
    edit.deletion = .chars edit.width := by
  have keeps := h.keeps
  rcases edit with ⟨line, column, count | _, insert⟩
  · rfl
  · simp [deletesLine] at keeps

theorem Fits.applyTo {length : Nat} {edit : Edit} (h : Fits length edit) (ending : LineEnding)
    (line : List Char) :
    edit.applyTo ending line =
      some (line.take edit.start ++ (edit.insertion ending ++ line.drop edit.finish)) := by
  have word : edit.stop edit.width = edit.finish := Nat.mod_eq_of_lt h.finish_lt
  rw [Edit.applyTo, h.deletion, ← List.append_assoc]
  simp only [word]

theorem clearsStart_none (edit : Edit) : edit.clearsStart none = true :=
  rfl

theorem Fits.clearsStart {length : Nat} {edit : Edit} (h : Fits length edit) (last : Nat) :
    edit.clearsStart (some last) = true ↔ edit.finish ≤ last ∧ edit.start < last := by
  have word : edit.stop edit.width = edit.finish := Nat.mod_eq_of_lt h.finish_lt
  have sum : edit.finish = edit.start + edit.width := rfl
  have bound := h.finish_lt
  have here : edit.stop 0 = edit.start := Nat.mod_eq_of_lt (by omega)
  simp only [Edit.clearsStart, Option.map_some, clears, h.deletion, word, here]
  split
  · simp
    omega
  · simp
    omega

/-- The edits that are applied, where the edit considered before them starts at `last`. -/
def applied (last : Option Nat) : List Edit → List Edit
  | [] => []
  | edit :: rest =>
    if edit.clearsStart last then edit :: applied (some edit.start) rest
    else applied (some edit.start) rest

theorem applied_sublist (last : Option Nat) (edits : List Edit) :
    (applied last edits).Sublist edits := by
  fun_induction applied last edits with
  | case1 => exact List.Sublist.slnil
  | case2 last edit rest _ ih => exact ih.cons_cons edit
  | case3 last edit rest _ ih => exact ih.cons edit

theorem foldl_step_text (ending : LineEnding) (edits : List Edit) (state : LineProgress) :
    (edits.foldl (LineProgress.step ending) state).text =
      (applied state.last edits).foldl (fun text edit => text.bind (edit.applyTo ending))
        state.text := by
  induction edits generalizing state with
  | nil => rfl
  | cons edit rest ih =>
    rw [List.foldl_cons, ih, applied]
    split
    · rename_i clear
      simp [LineProgress.step, clear]
    · rename_i clear
      simp [LineProgress.step, clear]

/-- What is applied lies apart, from right to left, and clear of what was considered before. -/
theorem pairwise_applied {length : Nat} {edits : List Edit} (last : Option Nat)
    (fits : ∀ edit ∈ edits, Fits length edit)
    (sorted : edits.Pairwise fun a b => b.start ≤ a.start)
    (below : ∀ start ∈ last, ∀ edit ∈ edits, edit.start ≤ start) :
    ((applied last edits).Pairwise fun a b => Apart b a) ∧
      ∀ start ∈ last, ∀ edit ∈ applied last edits, edit.finish ≤ start ∧ edit.start < start := by
  induction edits generalizing last with
  | nil => simp [applied]
  | cons edit rest ih =>
    obtain ⟨first, others⟩ := List.pairwise_cons.1 sorted
    obtain ⟨apart, clear⟩ := ih (some edit.start)
      (fun next found => fits next (List.mem_cons_of_mem _ found)) others (by simpa using first)
    have right : ∀ next ∈ applied (some edit.start) rest,
        next.finish ≤ edit.start ∧ next.start < edit.start := clear edit.start rfl
    have bounded : ∀ start ∈ last, ∀ next ∈ applied (some edit.start) rest,
        next.finish ≤ start ∧ next.start < start := by
      intro start marked next found
      have := right next found
      have := below start marked edit (List.mem_cons_self ..)
      omega
    rw [applied]
    split
    · rename_i clears
      refine ⟨List.pairwise_cons.2 ⟨fun next found => ?_, apart⟩, ?_⟩
      · exact ⟨(right next found).1, (right next found).2⟩
      · intro start marked next found
        rcases List.mem_cons.1 found with rfl | found
        · rw [Option.mem_def.1 marked, (fits next (List.mem_cons_self ..)).clearsStart] at clears
          exact clears
        · exact bounded start marked next found
    · exact ⟨apart, bounded⟩

/-- An edit from which every other one lies apart is applied, once for all its copies. -/
theorem mem_applied {length : Nat} {edits : List Edit} {edit : Edit} (fits : Fits length edit)
    (last : Option Nat) (sorted : edits.Pairwise fun a b => b.start ≤ a.start)
    (agree : ∀ other ∈ edits, other = edit ∨ Apart other edit ∨ Apart edit other)
    (clear : ∀ start ∈ last, edit.finish ≤ start ∧ edit.start < start) (found : edit ∈ edits) :
    edit ∈ applied last edits := by
  induction edits generalizing last with
  | nil => cases found
  | cons first rest ih =>
    obtain ⟨bound, others⟩ := List.pairwise_cons.1 sorted
    obtain ⟨here, there⟩ := List.forall_mem_cons.1 agree
    by_cases same : first = edit
    · have clears : first.clearsStart last = true := by
        rcases last with _ | start
        · exact clearsStart_none first
        · exact same ▸ (fits.clearsStart start).2 (clear start rfl)
      rw [applied, if_pos clears, same]
      exact List.mem_cons_self ..
    · have behind : edit ∈ rest := by
        rcases List.mem_cons.1 found with equal | behind
        · exact absurd equal.symm same
        · exact behind
      have left : Apart edit first := by
        rcases here with equal | right | left
        · exact absurd equal same
        · exact absurd (bound edit behind) (Nat.not_le.2 right.start_lt)
        · exact left
      have tail := ih (some first.start) others there
        (by simpa using ⟨left.finish_le, left.start_lt⟩) behind
      rw [applied]
      split
      · exact List.mem_cons_of_mem _ tail
      · exact tail

/-- Text that begins at `column`, with what edits remove and insert counted in columns of the whole
line. The edits stand from left to right. -/
def splice (ending : LineEnding) (column : Nat) : List Edit → List Char → List Char
  | [], text => text
  | edit :: rest, text =>
    text.take (edit.start - column) ++
      (edit.insertion ending ++
        splice ending edit.finish rest (text.drop (edit.finish - column)))

variable (ending : LineEnding)

theorem splice_eq_take_append {edits : List Edit} {column middle : Nat} (le : column ≤ middle)
    (right : ∀ edit ∈ edits, middle ≤ edit.start) (text : List Char) :
    splice ending column edits text =
      text.take (middle - column) ++
        splice ending middle edits (text.drop (middle - column)) := by
  cases edits with
  | nil => simp [splice]
  | cons edit rest =>
    have start := right edit (List.mem_cons_self ..)
    have finish : edit.start ≤ edit.finish := Nat.le_add_right ..
    have cut : text.take (edit.start - column) =
        text.take (middle - column) ++
          (text.drop (middle - column)).take (edit.start - middle) := by
      rw [← List.take_add,
        show middle - column + (edit.start - middle) = edit.start - column by omega]
    have after : (text.drop (middle - column)).drop (edit.finish - middle) =
        text.drop (edit.finish - column) := by
      rw [List.drop_drop,
        show middle - column + (edit.finish - middle) = edit.finish - column by omega]
    rw [splice, splice, cut, after, List.append_assoc]

theorem splice_cons {edits : List Edit} {column : Nat}
    (right : ∀ edit ∈ edits, column < edit.start) (c : Char) (text : List Char) :
    splice ending column edits (c :: text) = c :: splice ending (column + 1) edits text := by
  rw [splice_eq_take_append ending (Nat.le_succ column) right, Nat.succ_sub (Nat.le_refl column),
    Nat.sub_self]
  rfl

/-- Edits of a first part and edits of a second part act each on their own. -/
theorem splice_append {left : List Edit} (right : List Edit) (column : Nat) (front back : List Char)
    (apart : left.Pairwise Apart)
    (inside : ∀ edit ∈ left, column ≤ edit.start ∧ edit.finish ≤ column + front.length)
    (outside : ∀ edit ∈ right, column + front.length ≤ edit.start) :
    splice ending column (left ++ right) (front ++ back) =
      splice ending column left front ++ splice ending (column + front.length) right back := by
  induction left generalizing column front with
  | nil =>
    rw [List.nil_append, splice_eq_take_append ending (Nat.le_add_right ..) outside,
      Nat.add_sub_cancel_left, List.take_left, List.drop_left, splice]
  | cons edit rest ih =>
    obtain ⟨first, others⟩ := List.pairwise_cons.1 apart
    have bounds := inside edit (List.mem_cons_self ..)
    have le : edit.start ≤ edit.finish := Nat.le_add_right ..
    have width : edit.finish + (front.drop (edit.finish - column)).length =
        column + front.length := by
      rw [List.length_drop]
      omega
    have tail := ih edit.finish (front.drop (edit.finish - column)) others
      (fun next found => ⟨(first next found).finish_le,
        Nat.le_trans (inside next (List.mem_cons_of_mem _ found)).2 (Nat.le_of_eq width.symm)⟩)
      (by rw [width]; exact outside)
    rw [List.cons_append, splice, splice, List.take_append_of_le_length (by omega),
      List.drop_append_of_le_length (by omega), tail, width]
    simp only [List.append_assoc]

/-- One more edit, to the left of all others, acts on columns that are still those of the line. -/
theorem applyTo_splice {edit : Edit} {rest : List Edit} {line : List Char}
    (fits : ∀ next ∈ edit :: rest, Fits line.length next)
    (apart : ∀ next ∈ rest, Apart edit next) :
    edit.applyTo ending (splice ending 0 rest line) =
      some (splice ending 0 (edit :: rest) line) := by
  have fit := fits edit (List.mem_cons_self ..)
  have start := fit.start_le
  have right : ∀ next ∈ rest, edit.finish ≤ next.start := fun next found =>
    (apart next found).finish_le
  have le : edit.start ≤ edit.finish := Nat.le_add_right ..
  have split := splice_eq_take_append ending (Nat.zero_le edit.finish) right line
  rw [Nat.sub_zero] at split
  have front : (splice ending 0 rest line).take edit.start = line.take edit.start := by
    rw [split, List.take_append_of_le_length (by rw [List.length_take]; omega), List.take_take,
      Nat.min_eq_left le]
  have back : (splice ending 0 rest line).drop edit.finish =
      splice ending edit.finish rest (line.drop edit.finish) := by
    by_cases inside : edit.finish ≤ line.length
    · rw [split, List.drop_left' (List.length_take_of_le inside)]
    · -- An edit that ends behind the line has no other edit to its right.
      have alone : rest = [] := by
        cases rest with
        | nil => rfl
        | cons next rest =>
          have := right next (List.mem_cons_self ..)
          have := (fits next (by simp)).start_le
          omega
      rw [alone, splice, splice]
  rw [fit.applyTo, front, back, splice, Nat.sub_zero, Nat.sub_zero]

theorem foldr_applyTo {edits : List Edit} {line : List Char}
    (fits : ∀ edit ∈ edits, Fits line.length edit) (apart : edits.Pairwise Apart) :
    edits.foldr (fun edit text => text.bind (edit.applyTo ending)) (some line) =
      some (splice ending 0 edits line) := by
  induction edits with
  | nil => rfl
  | cons edit rest ih =>
    obtain ⟨first, others⟩ := List.pairwise_cons.1 apart
    rw [List.foldr_cons, ih (fun next found => fits next (List.mem_cons_of_mem _ found)) others]
    exact applyTo_splice ending fits first

/-- The edits of a line that are applied, from left to right. -/
def effective (edits : List Edit) : List Edit :=
  (applied none edits).reverse

theorem mem_of_mem_effective {edit : Edit} {edits : List Edit} (h : edit ∈ effective edits) :
    edit ∈ edits :=
  (applied_sublist none edits).subset (List.mem_reverse.1 h)

theorem mem_effective {length : Nat} {edit : Edit} {edits : List Edit} (fits : Fits length edit)
    (sorted : edits.Pairwise fun a b => b.start ≤ a.start)
    (agree : ∀ other ∈ edits, other = edit ∨ Apart other edit ∨ Apart edit other)
    (found : edit ∈ edits) : edit ∈ effective edits :=
  List.mem_reverse.2 (mem_applied fits none sorted agree (by simp) found)

theorem mem_effective_iff {length : Nat} {edit : Edit} {edits : List Edit}
    (fits : ∀ edit ∈ edits, Fits length edit)
    (sorted : edits.Pairwise fun a b => b.start ≤ a.start)
    (agree : ∀ a ∈ edits, ∀ b ∈ edits, a = b ∨ Apart a b ∨ Apart b a) :
    edit ∈ effective edits ↔ edit ∈ edits :=
  ⟨mem_of_mem_effective, fun found =>
    mem_effective (fits edit found) sorted (fun other there => agree other there edit found) found⟩

theorem pairwise_effective {length : Nat} {edits : List Edit}
    (fits : ∀ edit ∈ edits, Fits length edit)
    (sorted : edits.Pairwise fun a b => b.start ≤ a.start) : (effective edits).Pairwise Apart :=
  List.pairwise_reverse.2 (pairwise_applied none fits sorted (by simp)).1

/-- Edits that fit a line act on it all at once. -/
theorem repairLine_eq_splice {edits : List Edit} {line : List Char}
    (fits : ∀ edit ∈ edits, Fits line.length edit)
    (sorted : edits.Pairwise fun a b => b.start ≤ a.start) :
    repairLine ending edits line = some (splice ending 0 (effective edits) line) := by
  rw [repairLine, foldl_step_text, ← foldr_applyTo ending
    (fun edit found => fits edit (mem_of_mem_effective found)) (pairwise_effective fits sorted),
    effective, List.foldr_reverse]

theorem repairLine_eq_none {edits : List Edit} {edit : Edit} (found : edit ∈ edits)
    (deletes : edit.deletesLine = true) (line : List Char) :
    repairLine ending edits line = none := by
  have stays (rest : List Edit) (last : Option Nat) :
      (rest.foldl (LineProgress.step ending) ⟨none, last⟩).text = none := by
    induction rest generalizing last with
    | nil => rfl
    | cons next rest ih => simpa [LineProgress.step] using ih (some next.start)
  have whole : edit.deletion = .wholeLine := by simpa [deletesLine] using deletes
  obtain ⟨before, after, rfl⟩ := List.append_of_mem found
  rw [repairLine, List.foldl_append, List.foldl_cons]
  have clear (last : Option Nat) : edit.clearsStart last = true := by
    cases last <;> simp [clearsStart, clears, whole]
  have gone (text : Option (List Char)) : text.bind (edit.applyTo ending) = none := by
    cases text <;> simp [applyTo, whole]
  simp only [LineProgress.step, clear, gone, if_true]
  exact stays after _

theorem drop_eq_append {edit : Edit} {column : Nat} (right : column ≤ edit.start)
    (line : List Char) :
    line.drop column = (line.drop column).take (edit.start - column) ++
      (edit.removed line ++ line.drop edit.finish) := by
  have here : (line.drop column).drop (edit.start - column) = line.drop edit.start := by
    rw [List.drop_drop, show column + (edit.start - column) = edit.start by omega]
  have there : line.drop edit.finish = (line.drop edit.start).drop edit.width :=
    List.drop_drop.symm
  rw [there, removed, List.take_append_drop, ← here, List.take_append_drop]

theorem drop_finish {edit : Edit} {column : Nat} (right : column ≤ edit.start)
    (line : List Char) : (line.drop column).drop (edit.finish - column) = line.drop edit.finish := by
  have finish : edit.start ≤ edit.finish := Nat.le_add_right ..
  rw [List.drop_drop, show column + (edit.finish - column) = edit.finish by omega]

/-- What is counted before the pass and what is inserted are what is removed and what is counted
after the pass. -/
theorem countP_splice_add (p : Char → Bool) (line : List Char) {edits : List Edit} {column : Nat}
    (apart : edits.Pairwise Apart) (right : ∀ edit ∈ edits, column ≤ edit.start) :
    (splice ending column edits (line.drop column)).countP p +
        (edits.flatMap fun edit => edit.removed line).countP p =
      (line.drop column).countP p + (edits.flatMap fun edit => edit.insertion ending).countP p := by
  induction edits generalizing column with
  | nil => simp [splice]
  | cons edit rest ih =>
    obtain ⟨first, others⟩ := List.pairwise_cons.1 apart
    have start := right edit (List.mem_cons_self ..)
    have tail := ih others fun next found => (first next found).finish_le
    have counted := congrArg (List.countP p) (drop_eq_append start line)
    simp only [List.countP_append] at counted
    simp only [splice, drop_finish start, List.countP_append, List.flatMap_cons]
    omega

/-- Of the characters with a property, only those edits change anything that remove or insert
some. -/
theorem filter_splice (p : Char → Bool) (counts : Edit → Bool) (line : List Char)
    {edits : List Edit} {column : Nat} (apart : edits.Pairwise Apart)
    (right : ∀ edit ∈ edits, column ≤ edit.start)
    (idle : ∀ edit ∈ edits, counts edit = false →
      (edit.removed line).filter p = [] ∧ (edit.insertion ending).filter p = []) :
    (splice ending column edits (line.drop column)).filter p =
      (splice ending column (edits.filter counts) (line.drop column)).filter p := by
  induction edits generalizing column with
  | nil => rfl
  | cons edit rest ih =>
    obtain ⟨first, others⟩ := List.pairwise_cons.1 apart
    obtain ⟨start, -⟩ := List.forall_mem_cons.1 right
    obtain ⟨here, there⟩ := List.forall_mem_cons.1 idle
    have tail := ih others (fun next found => (first next found).finish_le) there
    rw [splice, drop_finish start, List.filter_append, List.filter_append, tail]
    by_cases counted : counts edit = true
    · rw [List.filter_cons_of_pos counted, splice, drop_finish start, List.filter_append,
        List.filter_append]
    · -- The edit takes nothing from what stands before the edits that are left.
      obtain ⟨removed, inserted⟩ := here (by simpa using counted)
      have le : edit.start ≤ edit.finish := Nat.le_add_right ..
      have behind : ∀ next ∈ rest.filter counts, edit.finish ≤ next.start := fun next found =>
        (first next (List.mem_filter.1 found).1).finish_le
      have front : ((line.drop column).take (edit.finish - column)).filter p =
          ((line.drop column).take (edit.start - column)).filter p := by
        have cut := congrArg (List.filter p) (drop_eq_append start line)
        have whole := congrArg (List.filter p)
          (List.take_append_drop (edit.finish - column) (line.drop column))
        rw [drop_finish start, cut] at whole
        simp only [List.filter_append, removed, List.nil_append] at whole
        exact List.append_cancel_right whole
      rw [List.filter_cons_of_neg counted, inserted, List.nil_append,
        splice_eq_take_append ending (by omega : column ≤ edit.finish) behind, drop_finish start,
        List.filter_append, front]

end DocCheck.Edit
