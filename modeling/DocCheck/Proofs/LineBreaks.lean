import DocCheck.Proofs.JoinedLines

set_option autoImplicit false

namespace DocCheck.Text

def withBreaks (ending : LineEnding) : List Char → List Char
  | [] => []
  | '\r' :: '\n' :: rest => ending.toList ++ withBreaks ending rest
  | '\r' :: rest => ending.toList ++ withBreaks ending rest
  | '\n' :: rest => ending.toList ++ withBreaks ending rest
  | c :: rest => c :: withBreaks ending rest

theorem length_linesFrom (before text : List Char) :
    (linesFrom before text).length = (breaks text).length + 1 := by
  fun_induction linesFrom before text with
  | case1 before => rfl
  | case2 before rest ih => rw [List.length_cons, ih, breaks, List.length_cons]
  | case3 before rest apart ih => rw [List.length_cons, ih, breaks.eq_3 _ apart, List.length_cons]
  | case4 before rest ih => rw [List.length_cons, ih, breaks, List.length_cons]
  | case5 before c rest crlf cr lf ih => rw [ih, breaks.eq_5 _ _ (fun _ eq _ => cr eq) cr lf]

theorem length_lines (text : List Char) : (lines text).length = (breaks text).length + 1 :=
  length_linesFrom [] text

theorem joinLines_cons (ending : LineEnding) (part : List Char) {parts : List (List Char)}
    (ne : parts ≠ []) :
    joinLines ending (part :: parts) = part ++ (ending.toList ++ joinLines ending parts) := by
  obtain ⟨next, parts, rfl⟩ := List.exists_cons_of_ne_nil ne
  exact joinLines_cons_cons ending part next parts

theorem joinLines_linesFrom (ending : LineEnding) (before text : List Char) :
    joinLines ending (linesFrom before text) = before.reverse ++ withBreaks ending text := by
  fun_induction linesFrom before text with
  | case1 before => rw [joinLines_singleton, withBreaks, List.append_nil]
  | case2 before rest ih =>
    rw [joinLines_cons ending _ (linesFrom_ne_nil [] rest), ih, withBreaks]
    rfl
  | case3 before rest apart ih =>
    rw [joinLines_cons ending _ (linesFrom_ne_nil [] rest), ih, withBreaks.eq_3 _ _ apart]
    rfl
  | case4 before rest ih =>
    rw [joinLines_cons ending _ (linesFrom_ne_nil [] rest), ih, withBreaks]
    rfl
  | case5 before c rest crlf cr lf ih =>
    rw [ih, withBreaks.eq_5 _ _ _ (fun _ eq _ => cr eq) cr lf, List.reverse_cons,
      List.append_assoc, List.singleton_append]

/-- Putting one line break in the place of all others is joining the lines with it. -/
theorem withBreaks_eq_joinLines (ending : LineEnding) (text : List Char) :
    withBreaks ending text = joinLines ending (lines text) :=
  (joinLines_linesFrom ending [] text).symm

@[simp] theorem lines_withBreaks (ending : LineEnding) (text : List Char) :
    lines (withBreaks ending text) = lines text := by
  rw [withBreaks_eq_joinLines]
  exact lines_joinLines ending (lines_ne_nil text) fun _ found => unbroken_of_mem_lines found

/-- What joined the lines plays no part when another line break takes its place. -/
theorem withBreaks_joinLines (ending other : LineEnding) {parts : List (List Char)}
    (h : ∀ part ∈ parts, Unbroken part) :
    withBreaks ending (joinLines other parts) = joinLines ending parts := by
  by_cases empty : parts = []
  · rw [empty]
    rfl
  · rw [withBreaks_eq_joinLines, lines_joinLines other empty h]

theorem breaks_joinLines (ending : LineEnding) {parts : List (List Char)}
    (h : ∀ part ∈ parts, Unbroken part) :
    breaks (joinLines ending parts) = List.replicate (parts.length - 1) ending := by
  induction parts with
  | nil => rfl
  | cons part parts ih =>
    obtain ⟨first, others⟩ := List.forall_mem_cons.1 h
    cases parts with
    | nil =>
      have alone := breaks_append first []
      rw [List.append_nil] at alone
      rw [joinLines_singleton, alone]
      rfl
    | cons next parts =>
      have apart : ending = .cr → (joinLines ending (next :: parts)).head? ≠ some '\n' := by
        rintro rfl
        exact head?_joinLines_cr others
      rw [joinLines_cons_cons, breaks_append first, breaks_toList_append ending apart, ih others]
      rfl

theorem lineEnding_withBreaks (ending : LineEnding) {text : List Char} (broken : breaks text ≠ []) :
    lineEnding (withBreaks ending text) = ending := by
  obtain ⟨first, rest, eq⟩ := List.exists_cons_of_ne_nil broken
  rw [lineEnding_eq, withBreaks_eq_joinLines,
    breaks_joinLines ending fun _ found => unbroken_of_mem_lines found, length_lines, eq]
  rfl

end DocCheck.Text
