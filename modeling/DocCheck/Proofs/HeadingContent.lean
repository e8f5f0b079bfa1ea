import DocCheck.Proofs.TabWidth

set_option autoImplicit false

namespace DocCheck

open Text

namespace Text

variable {width : Nat} {p : Char → Bool}

theorem dropWhile_widen (wide : 1 ≤ width) (same : p '\t' = p ' ') (text : List Char) :
    (widen width text).dropWhile p = widen width (text.dropWhile p) := by
  obtain ⟨more, rfl⟩ := Nat.exists_eq_add_of_le' wide
  induction text with
  | nil => rfl
  | cons c text ih =>
    by_cases tab : c = '\t'
    · subst tab
      rw [widen_tab, List.dropWhile_cons]
      cases blank : p '\t' with
      | true =>
        rw [List.dropWhile_append_of_pos, ih, if_pos rfl]
        intro d found
        rw [List.eq_of_mem_replicate found, ← same, blank]
      | false =>
        rw [List.replicate_succ, List.cons_append, List.dropWhile_cons_of_neg, if_neg, widen_tab,
          List.replicate_succ, List.cons_append]
        · exact Bool.false_ne_true
        · rw [← same, blank]
          exact Bool.false_ne_true
    · rw [widen_cons tab, List.dropWhile_cons, List.dropWhile_cons]
      split
      · exact ih
      · rw [widen_cons tab]

theorem dropWhile_eq_self {text : List Char} (h : ∀ c, text.head? = some c → p c = false) :
    text.dropWhile p = text := by
  cases text with
  | nil => rfl
  | cons c text => exact List.dropWhile_cons_of_neg (by simp [h c rfl])

theorem reverse_widen (text : List Char) :
    (widen width text).reverse = widen width text.reverse := by
  induction text with
  | nil => rfl
  | cons c text ih =>
    rw [List.reverse_cons, widen_append, ← ih]
    by_cases tab : c = '\t'
    · subst tab
      rw [widen_tab, List.reverse_append, List.reverse_replicate, widen_tab, widen_nil,
        List.append_nil]
    · rw [widen_cons tab, List.reverse_cons, widen_cons tab, widen_nil]

theorem trimEnd_widen (wide : 1 ≤ width) (same : p '\t' = p ' ') (text : List Char) :
    trimEnd p (widen width text) = widen width (trimEnd p text) := by
  rw [trimEnd, reverse_widen, dropWhile_widen wide same, reverse_widen, trimEnd]

/-- A text ends in the same character with wider tabs, or in a space for a tab. -/
theorem all_getLast?_widen (wide : 1 ≤ width) (same : p '\t' = p ' ') (text : List Char) :
    (widen width text).getLast?.all p = text.getLast?.all p := by
  obtain ⟨more, rfl⟩ := Nat.exists_eq_add_of_le' wide
  rcases List.eq_nil_or_concat text with rfl | ⟨front, c, rfl⟩
  · rfl
  · rw [List.concat_eq_append, widen_append]
    by_cases tab : c = '\t'
    · subst tab
      rw [widen_tab, widen_nil, List.append_nil, List.replicate_succ', ← List.append_assoc]
      simp [same]
    · rw [widen_cons tab, widen_nil]
      simp

end Text

namespace Heading

/-- The content of a heading, from what follows its hashes. -/
def contentOf (after : List Char) : List Char :=
  withoutClosing (trimEnd isSpaceOrTab (after.dropWhile isSpaceOrTab))

theorem withoutClosing_eq (body : List Char) :
    withoutClosing body =
      if tailOf (· == '#') body ≠ [] ∧ (trimEnd (· == '#') body).getLast?.all isSpaceOrTab = true
      then trimEnd isSpaceOrTab (trimEnd (· == '#') body) else body := by
  have lengths := length_trimEnd_add_length_tailOf (· == '#') body
  have shorter : (trimEnd (· == '#') body).length < body.length ↔
      tailOf (· == '#') body ≠ [] := by
    rw [← List.length_pos_iff]
    omega
  simp only [withoutClosing, shorter]

theorem tailOf_hash_widen {width : Nat} (wide : 1 ≤ width) (body : List Char) :
    tailOf (· == '#') (widen width body) = tailOf (· == '#') body := by
  have plain : '\t' ∉ tailOf (· == '#') body := by
    intro tab
    exact absurd (of_mem_tailOf tab) (by decide)
  have whole := trimEnd_append_tailOf (· == '#') (widen width body)
  rw [trimEnd_widen wide rfl] at whole
  apply (List.append_right_inj (widen width (trimEnd (· == '#') body))).1
  calc widen width (trimEnd (· == '#') body) ++ tailOf (· == '#') (widen width body)
    _ = widen width (trimEnd (· == '#') body ++ tailOf (· == '#') body) := by
      rw [whole, trimEnd_append_tailOf]
    _ = widen width (trimEnd (· == '#') body) ++ tailOf (· == '#') body := by
      rw [widen_append, widen_eq_self plain]

theorem withoutClosing_widen {width : Nat} (wide : 1 ≤ width) (body : List Char) :
    withoutClosing (widen width body) = widen width (withoutClosing body) := by
  rw [withoutClosing_eq, withoutClosing_eq, trimEnd_widen wide rfl, all_getLast?_widen wide rfl,
    tailOf_hash_widen wide]
  split
  · rw [trimEnd_widen wide rfl]
  · rfl

theorem contentOf_widen {width : Nat} (wide : 1 ≤ width) (after : List Char) :
    contentOf (widen width after) = widen width (contentOf after) := by
  rw [contentOf, dropWhile_widen wide rfl, trimEnd_widen wide rfl, withoutClosing_widen wide,
    contentOf]

/-- Blanks around it are no part of the content. -/
theorem contentOf_append {front back : List Char} (before : ∀ c ∈ front, isSpaceOrTab c = true)
    (behind : ∀ c ∈ back, isSpaceOrTab c = true) (core : List Char) :
    contentOf (front ++ (core ++ back)) = contentOf core := by
  rw [contentOf, List.dropWhile_append_of_pos before, List.dropWhile_append]
  split
  · rename_i blank
    have none : (back ++ []).dropWhile isSpaceOrTab = [] := List.dropWhile_append_of_pos behind
    rw [List.append_nil] at none
    rw [none, contentOf, List.isEmpty_iff.1 blank]
  · rw [trimEnd_append_of_all behind, contentOf]

theorem contentOf_eq_nil {after : List Char} (blank : ∀ c ∈ after, isSpaceOrTab c = true) :
    contentOf after = [] := by
  have none : contentOf (after ++ ([] ++ [])) = contentOf [] :=
    contentOf_append blank (by simp) []
  rw [List.append_nil, List.append_nil] at none
  exact none

/-- A text without blanks at its ends loses at most a closing run of hashes. -/
theorem contentOf_eq_withoutClosing {core : List Char}
    (first : ∀ c, core.head? = some c → isSpaceOrTab c = false)
    (last : ∀ c, core.getLast? = some c → isSpaceOrTab c = false) :
    contentOf core = withoutClosing core := by
  rw [contentOf, dropWhile_eq_self first, trimEnd_eq_self last]

theorem parse?_hashLine {indent level : Nat} {rest : List Char} (le : indent ≤ 3)
    (positive : 0 < level) (most : level ≤ 6) (spaced : rest.head?.all isSpaceOrTab = true) :
    Heading.parse? (hashLine indent level rest) =
      some ⟨indent, level, (rest.takeWhile isSpaceOrTab).length, contentOf rest⟩ := by
  have head : rest.head? ≠ some '#' := by
    intro hash
    rw [hash] at spaced
    cases spaced
  simp only [Heading.parse?, takeWhile_hashLine positive, dropWhile_hashLine positive,
    takeWhile_replicate_append head, dropWhile_replicate_append head, List.length_replicate]
  rw [if_pos ⟨le, positive, most, spaced⟩, contentOf]

/-- The content when its last character is gone. Where no run of hashes closes it, one that it ends in
then may. -/
def unmarkedContent (heading : Heading) (closed : Bool) : List Char :=
  if closed then trimEnd isSpaceOrTab heading.content.dropLast
  else withoutClosing (trimEnd isSpaceOrTab heading.content.dropLast)

theorem withoutClosing_of_hashes {hashes : List Char} (all : ∀ c ∈ hashes, (c == '#') = true) :
    withoutClosing hashes = [] := by
  have none : trimEnd (· == '#') ([] ++ hashes) = trimEnd (· == '#') [] :=
    trimEnd_append_of_all all []
  rw [List.nil_append] at none
  rw [withoutClosing, none]
  cases hashes with
  | nil => rfl
  | cons c hashes => rfl

theorem withoutClosing_append {front gap hashes : List Char} (blank : ∀ c ∈ gap, isSpaceOrTab c = true)
    (apart : gap ≠ []) (all : ∀ c ∈ hashes, (c == '#') = true) (some : hashes ≠ []) :
    withoutClosing (front ++ (gap ++ hashes)) = trimEnd isSpaceOrTab front := by
  have last := List.getLast?_eq_some_getLast apart
  have ends : (front ++ gap).getLast? = gap.getLast? := by
    rw [List.getLast?_append, last, Option.some_or]
  have ended : isSpaceOrTab (gap.getLast apart) = true := blank _ (List.getLast_mem apart)
  have stays : trimEnd (· == '#') (front ++ (gap ++ hashes)) = front ++ gap := by
    rw [← List.append_assoc, trimEnd_append_of_all all]
    apply trimEnd_eq_self
    intro c found
    rw [ends, last, Option.some.injEq] at found
    rw [Bool.eq_false_iff]
    intro hash
    rw [found, beq_iff_eq.1 hash] at ended
    cases ended
  have shorter : (front ++ gap).length < (front ++ (gap ++ hashes)).length := by
    have positive := List.length_pos_iff.2 some
    simp only [List.length_append]
    omega
  rw [withoutClosing, stays, if_pos, trimEnd_append_of_all blank]
  refine ⟨shorter, ?_⟩
  rw [ends, last]
  exact ended

/-- The hashes close the content: they stand alone, or spaces and tabs divide them from it. -/
structure Closes (content gap hashes : List Char) : Prop where
  blank : ∀ c ∈ gap, isSpaceOrTab c = true
  marks : ∀ c ∈ hashes, (c == '#') = true
  some : hashes ≠ []
  apart : content ≠ [] → gap ≠ []

/-- No run of hashes at the end of the text closes what stands before it. -/
def Unclosed (text : List Char) : Prop :=
  ∀ front gap hashes, text = front ++ (gap ++ hashes) → ¬ Closes front gap hashes

section Closing

variable {content gap hashes : List Char}

/-- A closing run goes, and so do the blanks in front of it. -/
theorem Closes.withoutClosing_eq (closes : Closes content gap hashes) :
    withoutClosing (content ++ (gap ++ hashes)) = trimEnd isSpaceOrTab content := by
  by_cases alone : gap = []
  · have empty : content = [] := by
      by_contra some
      exact closes.apart some alone
    rw [empty, alone]
    exact withoutClosing_of_hashes closes.marks
  · exact withoutClosing_append closes.blank alone closes.marks closes.some

theorem closes_of_accepted {core : List Char} (hashes : tailOf (· == '#') core ≠ [])
    (ended : (trimEnd (· == '#') core).getLast?.all isSpaceOrTab = true) :
    Closes (trimEnd isSpaceOrTab (trimEnd (· == '#') core))
      (tailOf isSpaceOrTab (trimEnd (· == '#') core)) (tailOf (· == '#') core) where
  blank := fun _ => of_mem_tailOf
  marks := fun _ => of_mem_tailOf
  some := hashes
  apart := by
    intro nonempty alone
    have whole := trimEnd_append_tailOf isSpaceOrTab (trimEnd (· == '#') core)
    rw [alone, List.append_nil] at whole
    have last := List.getLast?_eq_some_getLast nonempty
    have solid := getLast?_trimEnd last
    rw [← whole, last, Option.all_some, solid] at ended
    cases ended

/-- Either no run closes a text, or the one that does is split off. -/
theorem withoutClosing_cases (core : List Char) :
    withoutClosing core = core ∧ Unclosed core ∨
      ∃ gap hashes, core = withoutClosing core ++ (gap ++ hashes) ∧
        Closes (withoutClosing core) gap hashes := by
  by_cases accepted : tailOf (· == '#') core ≠ [] ∧
      (trimEnd (· == '#') core).getLast?.all isSpaceOrTab = true
  · right
    rw [withoutClosing_eq, if_pos accepted]
    refine ⟨_, _, ?_, closes_of_accepted accepted.1 accepted.2⟩
    rw [← List.append_assoc, trimEnd_append_tailOf, trimEnd_append_tailOf]
  · left
    have stays : withoutClosing core = core := by
      rw [withoutClosing_eq, if_neg accepted]
    refine ⟨stays, ?_⟩
    intro front gap hashes split closes
    -- A run that could be split off would leave less than the text.
    have shorter := length_trimEnd_le isSpaceOrTab front
    have positive := List.length_pos_iff.2 closes.some
    have whole := congrArg List.length split
    rw [split, closes.withoutClosing_eq] at stays
    have same := congrArg List.length stays
    simp only [List.length_append] at same
    omega

theorem Unclosed.withoutClosing_eq (unclosed : Unclosed content) :
    withoutClosing content = content := by
  cases withoutClosing_cases content with
  | inl stays => exact stays.1
  | inr split =>
    obtain ⟨gap, hashes, eq, closes⟩ := split
    exact absurd closes (unclosed _ gap hashes eq)

end Closing

/-- What stands between the content and the blanks at the end: nothing, where no run of hashes could be
split off, or the run that closes the content. -/
theorem Layout.closing_cases {line : List Char} {heading : Heading}
    {spacing closing blanks : List Char} (layout : Layout line heading spacing closing blanks) :
    closing = [] ∧ Unclosed heading.content ∨
      ∃ gap hashes, closing = gap ++ hashes ∧ Closes heading.content gap hashes := by
  have split := layout.closed
  cases withoutClosing_cases (heading.content ++ closing) with
  | inl stays =>
    obtain ⟨whole, unclosed⟩ := stays
    have none : closing = [] := List.append_right_eq_self.1 (whole.symm.trans split)
    rw [none, List.append_nil] at unclosed
    exact .inl ⟨none, unclosed⟩
  | inr run =>
    obtain ⟨gap, hashes, whole, closes⟩ := run
    rw [split] at whole closes
    exact .inr ⟨gap, hashes, (List.append_right_inj _).1 whole, closes⟩

/-- When the last character of the content is gone, what is left is read again. -/
theorem Layout.contentOf_dropLast {line : List Char} {heading : Heading}
    {spacing closing blanks : List Char} (layout : Layout line heading spacing closing blanks)
    (nonempty : heading.content ≠ []) :
    contentOf (heading.content.dropLast ++ closing) =
      heading.unmarkedContent (closing ≠ []) := by
  have whole : heading.content.dropLast ++ [heading.content.getLast nonempty] = heading.content :=
    List.dropLast_append_getLast nonempty
  have first : ∀ c, heading.content.dropLast.head? = some c → isSpaceOrTab c = false := by
    intro c found
    apply layout.first
    rw [← whole, List.append_assoc, List.head?_append, found]
    rfl
  rcases layout.closing_cases with ⟨none, -⟩ | ⟨gap, hashes, eq, closes⟩
  · rw [none, List.append_nil, contentOf, dropWhile_eq_self first]
    simp [unmarkedContent]
  · have run : closing ≠ [] := by
      rw [eq]
      exact List.append_ne_nil_of_right_ne_nil gap closes.some
    have hard : ∀ c ∈ hashes, isSpaceOrTab c = false := by
      intro c found
      rw [beq_iff_eq.1 (closes.marks c found)]
      rfl
    have last : ∀ c, hashes.getLast? = some c → isSpaceOrTab c = false := fun c found =>
      hard c (List.mem_of_getLast? found)
    rw [unmarkedContent, decide_eq_true run, if_pos rfl, eq]
    by_cases empty : heading.content.dropLast = []
    · have read := contentOf_append closes.blank (by simp : ∀ c ∈ [], isSpaceOrTab c = true) hashes
      rw [List.append_nil] at read
      rw [empty, List.nil_append, read, contentOf_eq_withoutClosing (fun c found =>
        hard c (List.mem_of_head? found)) last, withoutClosing_of_hashes closes.marks]
      rfl
    · rw [contentOf_eq_withoutClosing,
        withoutClosing_append closes.blank (closes.apart nonempty) closes.marks closes.some]
      · intro c found
        rw [List.head?_append_of_ne_nil _ empty] at found
        exact first c found
      · intro c found
        rw [← List.append_assoc, List.getLast?_append_of_ne_nil _ closes.some] at found
        exact last c found

/-- A run of hashes stands behind the content of the heading that is read from the line. -/
def isClosed (heading : Heading) (line : List Char) : Bool :=
  heading.contentStart + heading.content.length < (trimEnd isSpaceOrTab line).length

theorem Layout.trimEnd_eq {line : List Char} {heading : Heading}
    {spacing closing blanks : List Char} (layout : Layout line heading spacing closing blanks)
    (nonempty : heading.content ≠ []) :
    trimEnd isSpaceOrTab line =
      hashLine heading.indent heading.level (spacing ++ (heading.content ++ closing)) := by
  have core : heading.content ++ closing ≠ [] := List.append_ne_nil_of_left_ne_nil nonempty closing
  have whole : line = hashLine heading.indent heading.level
      (spacing ++ (heading.content ++ closing)) ++ blanks := by
    rw [layout.line_eq]
    simp [hashLine]
  rw [whole, trimEnd_append_of_all layout.blanks_blank]
  apply trimEnd_eq_self
  intro c found
  rw [hashLine, ← List.append_assoc, ← List.append_assoc, List.getLast?_append_of_ne_nil _ core]
    at found
  exact layout.last c found

theorem Layout.isClosed_eq {line : List Char} {heading : Heading}
    {spacing closing blanks : List Char} (layout : Layout line heading spacing closing blanks)
    (nonempty : heading.content ≠ []) : heading.isClosed line = decide (closing ≠ []) := by
  have some : closing ≠ [] ↔ 0 < closing.length := List.length_pos_iff.symm
  rw [isClosed, layout.trimEnd_eq nonempty, length_hashLine, contentStart, ← layout.length_spacing,
    decide_eq_decide, some]
  simp only [List.length_append]
  omega

end Heading

end DocCheck
