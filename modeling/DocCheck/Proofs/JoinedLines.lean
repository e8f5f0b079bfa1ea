import DocCheck.Text.Lines

set_option autoImplicit false

namespace DocCheck.Text

/-- No character of the text is part of a line break. -/
def Unbroken (text : List Char) : Prop :=
  ∀ c ∈ text, isBreak c = false

theorem Unbroken.nil : Unbroken [] :=
  fun _ found => absurd found List.not_mem_nil

theorem unbroken_cons {c : Char} {text : List Char} :
    Unbroken (c :: text) ↔ isBreak c = false ∧ Unbroken text := by
  simp [Unbroken]

theorem Unbroken.of_subset {text part : List Char} (h : Unbroken text) (sub : part ⊆ text) :
    Unbroken part :=
  fun c found => h c (sub found)

theorem linesFrom_cons {c : Char} (h : isBreak c = false) (before rest : List Char) :
    linesFrom before (c :: rest) = linesFrom (c :: before) rest := by
  simp only [isBreak, Bool.or_eq_false_iff, beq_eq_false_iff_ne] at h
  exact linesFrom.eq_5 before c rest (fun _ e _ => h.1 e) (fun e => h.1 e) (fun e => h.2 e)

theorem linesFrom_append {part : List Char} (h : Unbroken part) (before rest : List Char) :
    linesFrom before (part ++ rest) = linesFrom (part.reverse ++ before) rest := by
  induction part generalizing before with
  | nil => rfl
  | cons c part ih =>
    obtain ⟨head, tail⟩ := unbroken_cons.1 h
    rw [List.cons_append, linesFrom_cons head, ih tail]
    simp

/-- A lone `\r` ends a line only where no `\n` follows. -/
theorem linesFrom_break (ending : LineEnding) (before : List Char) {rest : List Char}
    (h : ending = .cr → rest.head? ≠ some '\n') :
    linesFrom before (ending.toList ++ rest) = before.reverse :: lines rest := by
  cases ending with
  | lf => rw [LineEnding.toList, List.singleton_append, linesFrom, lines]
  | crlf => rw [LineEnding.toList, List.cons_append, List.singleton_append, linesFrom, lines]
  | cr =>
    rw [LineEnding.toList, List.singleton_append, linesFrom.eq_3, lines]
    rintro after rfl
    exact h rfl rfl

theorem joinLines_cons_cons (ending : LineEnding) (part next : List Char)
    (parts : List (List Char)) :
    joinLines ending (part :: next :: parts) =
      part ++ (ending.toList ++ joinLines ending (next :: parts)) := by
  rw [joinLines, List.intercalate_cons_cons, List.append_assoc, joinLines]

theorem joinLines_singleton (ending : LineEnding) (part : List Char) :
    joinLines ending [part] = part :=
  List.intercalate_singleton

/-- A break at the end of the last line adds an empty line. -/
theorem joinLines_append_break (ending : LineEnding) (parts : List (List Char))
    (part : List Char) :
    joinLines ending (parts ++ [part ++ ending.toList]) =
      joinLines ending (parts ++ [part, []]) := by
  induction parts with
  | nil => simp [joinLines_cons_cons, joinLines_singleton]
  | cons first parts ih =>
    cases parts with
    | nil => simp [joinLines_cons_cons, joinLines_singleton]
    | cons next parts =>
      simp only [List.cons_append] at ih
      simp only [List.cons_append, joinLines_cons_cons, ih]

/-- Joined with `\r`, lines without breaks hold no `\n`. -/
theorem head?_joinLines_cr {parts : List (List Char)} (h : ∀ part ∈ parts, Unbroken part) :
    (joinLines .cr parts).head? ≠ some '\n' := by
  cases parts with
  | nil => simp [joinLines]
  | cons part parts =>
    have unbroken := h part (List.mem_cons_self ..)
    cases part with
    | nil =>
      cases parts with
      | nil => simp [joinLines_singleton]
      | cons next parts => simp [joinLines_cons_cons, LineEnding.toList]
    | cons c part =>
      have head : c ≠ '\n' := by
        rintro rfl
        exact absurd (unbroken_cons.1 unbroken).1 (by decide)
      cases parts with
      | nil => simpa [joinLines_singleton] using head
      | cons next parts => simpa [joinLines_cons_cons] using head

/-- Lines that were joined come back. -/
theorem lines_joinLines (ending : LineEnding) {parts : List (List Char)} (ne : parts ≠ [])
    (h : ∀ part ∈ parts, Unbroken part) : lines (joinLines ending parts) = parts := by
  induction parts with
  | nil => exact absurd rfl ne
  | cons part parts ih =>
    have first := h part (List.mem_cons_self ..)
    have others : ∀ part ∈ parts, Unbroken part := fun part found =>
      h part (List.mem_cons_of_mem _ found)
    cases parts with
    | nil =>
      rw [joinLines_singleton, lines, linesFrom_of_no_break [] part first]
      rfl
    | cons next parts =>
      have apart : ending = .cr →
          (joinLines ending (next :: parts)).head? ≠ some '\n' := by
        rintro rfl
        exact head?_joinLines_cr others
      rw [joinLines_cons_cons, lines, linesFrom_append first, linesFrom_break ending _ apart,
        ih (List.cons_ne_nil _ _) others]
      simp

theorem unbroken_of_mem_linesFrom {before text line : List Char} (h : Unbroken before)
    (found : line ∈ linesFrom before text) : Unbroken line := by
  fun_induction linesFrom before text with
  | case1 before =>
    rw [List.mem_singleton.1 found]
    exact h.of_subset fun c => List.mem_reverse.1
  | case2 before rest ih | case3 before rest _ ih | case4 before rest ih =>
    rcases List.mem_cons.1 found with rfl | found
    · exact h.of_subset fun c => List.mem_reverse.1
    · exact ih .nil found
  | case5 before c rest _ notCr notLf ih =>
    have plain : isBreak c = false := by simp_all [isBreak]
    exact ih (unbroken_cons.2 ⟨plain, h⟩) found

theorem unbroken_of_mem_lines {text line : List Char} (h : line ∈ lines text) : Unbroken line :=
  unbroken_of_mem_linesFrom .nil h

def breaks : List Char → List LineEnding
  | [] => []
  | '\r' :: '\n' :: rest => .crlf :: breaks rest
  | '\r' :: rest => .cr :: breaks rest
  | '\n' :: rest => .lf :: breaks rest
  | _ :: rest => breaks rest

theorem lineEnding_eq (text : List Char) : lineEnding text = (breaks text).head?.getD .lf := by
  fun_induction lineEnding text with
  | case1 => rfl
  | case2 rest => rfl
  | case3 rest apart => rw [breaks.eq_3 _ apart]; rfl
  | case4 rest => rw [breaks]; rfl
  | case5 c rest crlf cr lf ih => rw [ih, breaks.eq_5 _ _ (fun _ eq _ => cr eq) cr lf]

theorem breaks_append {part : List Char} (h : Unbroken part) (rest : List Char) :
    breaks (part ++ rest) = breaks rest := by
  induction part with
  | nil => rfl
  | cons c part ih =>
    obtain ⟨head, tail⟩ := unbroken_cons.1 h
    simp only [isBreak, Bool.or_eq_false_iff, beq_eq_false_iff_ne] at head
    rw [List.cons_append, breaks.eq_5 c _ (fun _ eq _ => head.1 eq) head.1 head.2, ih tail]

/-- A lone `\r` is a line break of its own only where no `\n` follows. -/
theorem breaks_toList_append (ending : LineEnding) {rest : List Char}
    (h : ending = .cr → rest.head? ≠ some '\n') :
    breaks (ending.toList ++ rest) = ending :: breaks rest := by
  cases ending with
  | lf | crlf => rfl
  | cr =>
    rw [LineEnding.toList, List.singleton_append, breaks.eq_3]
    rintro after rfl
    exact h rfl rfl

theorem lineEnding_append {part : List Char} (h : Unbroken part) (rest : List Char) :
    lineEnding (part ++ rest) = lineEnding rest := by
  rw [lineEnding_eq, breaks_append h, ← lineEnding_eq]

theorem lineEnding_toList_append (ending : LineEnding) {rest : List Char}
    (h : ending = .cr → rest.head? ≠ some '\n') :
    lineEnding (ending.toList ++ rest) = ending := by
  rw [lineEnding_eq, breaks_toList_append ending h, List.head?_cons, Option.getD_some]

/-- The text has one kind of line break, so joining its lines gives it back. -/
def Uniform (text : List Char) : Prop :=
  joinLines (lineEnding text) (lines text) = text

/-- Whatever joined the lines without breaks, the text has one kind of line break. -/
theorem uniform_joinLines (ending : LineEnding) {parts : List (List Char)}
    (h : ∀ part ∈ parts, Unbroken part) : Uniform (joinLines ending parts) := by
  cases parts with
  | nil => rfl
  | cons part parts =>
    rw [Uniform, lines_joinLines ending (List.cons_ne_nil _ _) h]
    cases parts with
    | nil => rw [joinLines_singleton, joinLines_singleton]
    | cons next parts =>
      have apart : ending = .cr → (joinLines ending (next :: parts)).head? ≠ some '\n' := by
        rintro rfl
        exact head?_joinLines_cr fun part found => h part (List.mem_cons_of_mem _ found)
      have same : lineEnding (joinLines ending (part :: next :: parts)) = ending := by
        rw [joinLines_cons_cons, lineEnding_append (h part (List.mem_cons_self ..)),
          lineEnding_toList_append ending apart]
      rw [same]

end DocCheck.Text
