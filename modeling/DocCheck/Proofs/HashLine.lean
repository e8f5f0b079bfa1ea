import DocCheck.Fence
import DocCheck.Proofs.TextEnds
import DocCheck.Rule.Headings

set_option autoImplicit false

namespace DocCheck

open Text

/-- A line of `indent` spaces, `level` hashes and what follows them. -/
def hashLine (indent level : Nat) (rest : List Char) : List Char :=
  List.replicate indent ' ' ++ (List.replicate level '#' ++ rest)

theorem length_hashLine (indent level : Nat) (rest : List Char) :
    (hashLine indent level rest).length = indent + level + rest.length := by
  simp [hashLine]
  omega

section Parts

variable {indent level : Nat} {rest : List Char}

theorem head?_hashes (positive : 0 < level) :
    (List.replicate level '#' ++ rest).head? = some '#' := by
  cases level with
  | zero => omega
  | succ level => simp [List.replicate_succ]

theorem takeWhile_hashLine (positive : 0 < level) :
    (hashLine indent level rest).takeWhile (· == ' ') = List.replicate indent ' ' :=
  takeWhile_replicate_append (by simp [head?_hashes positive]) indent

theorem dropWhile_hashLine (positive : 0 < level) :
    (hashLine indent level rest).dropWhile (· == ' ') = List.replicate level '#' ++ rest :=
  dropWhile_replicate_append (by simp [head?_hashes positive]) indent

end Parts

theorem exists_hashLine {line : List Char}
    (hashes : ((line.dropWhile (· == ' ')).takeWhile (· == '#')).length ≠ 0) :
    ∃ indent level rest, line = hashLine indent level rest ∧ 0 < level ∧ rest.head? ≠ some '#' ∧
      indent = (line.takeWhile (· == ' ')).length ∧
      level = ((line.dropWhile (· == ' ')).takeWhile (· == '#')).length ∧
      rest = (line.dropWhile (· == ' ')).dropWhile (· == '#') := by
  refine ⟨_, _, _, ?_, Nat.pos_of_ne_zero hashes, head?_dropWhile_ne '#' _, rfl, rfl, rfl⟩
  rw [hashLine, replicate_append_dropWhile, replicate_append_dropWhile]

/-- Spaces and hashes begin no fence. -/
theorem Fence.parse?_hashLine {indent level : Nat} (positive : 0 < level) (rest : List Char) :
    Fence.parse? (hashLine indent level rest) = none := by
  rw [Fence.parse?, dropWhile_hashLine positive]
  cases level with
  | zero => omega
  | succ level => rfl

namespace Heading

/-- The parts of a heading line, from left to right. -/
structure Shape (line : List Char) (heading : Heading) (spacing tail : List Char) : Prop where
  line_eq : line = hashLine heading.indent heading.level (spacing ++ (heading.content ++ tail))
  indent_le : heading.indent ≤ 3
  level_pos : 0 < heading.level
  level_le : heading.level ≤ 6
  length_spacing : spacing.length = heading.spacing
  spacing_blank : ∀ c ∈ spacing, isSpaceOrTab c = true
  spaced : (spacing ++ (heading.content ++ tail)).head?.all isSpaceOrTab = true
  last_content : ∀ c, heading.content.getLast? = some c → isSpaceOrTab c = false

theorem withoutClosing_isPrefix (body : List Char) : withoutClosing body <+: body := by
  rw [withoutClosing]
  split
  · exact (trimEnd_isPrefix _ _).trans (trimEnd_isPrefix _ _)
  · exact List.prefix_refl body

theorem getLast?_withoutClosing {body : List Char} {c : Char}
    (h : ∀ c, body.getLast? = some c → isSpaceOrTab c = false)
    (last : (withoutClosing body).getLast? = some c) : isSpaceOrTab c = false := by
  rw [withoutClosing] at last
  split at last
  · exact getLast?_trimEnd last
  · exact h c last

/-- The parts of a heading line, where what follows the hashes is cut at the blanks around it and what
stands between these is the content and a run of hashes that closes it. -/
structure Layout (line : List Char) (heading : Heading) (spacing closing blanks : List Char) :
    Prop where
  line_eq : line =
    hashLine heading.indent heading.level (spacing ++ ((heading.content ++ closing) ++ blanks))
  indent_le : heading.indent ≤ 3
  level_pos : 0 < heading.level
  level_le : heading.level ≤ 6
  length_spacing : spacing.length = heading.spacing
  spacing_blank : ∀ c ∈ spacing, isSpaceOrTab c = true
  blanks_blank : ∀ c ∈ blanks, isSpaceOrTab c = true
  spaced : (spacing ++ ((heading.content ++ closing) ++ blanks)).head?.all isSpaceOrTab = true
  first : ∀ c, (heading.content ++ closing).head? = some c → isSpaceOrTab c = false
  last : ∀ c, (heading.content ++ closing).getLast? = some c → isSpaceOrTab c = false
  closed : withoutClosing (heading.content ++ closing) = heading.content

theorem Layout.last_content {line : List Char} {heading : Heading}
    {spacing closing blanks : List Char} (layout : Layout line heading spacing closing blanks)
    {c : Char} (last : heading.content.getLast? = some c) : isSpaceOrTab c = false := by
  rw [← layout.closed] at last
  exact getLast?_withoutClosing layout.last last

theorem layout_of_parse? {line : List Char} {heading : Heading}
    (h : Heading.parse? line = some heading) :
    ∃ spacing closing blanks, Layout line heading spacing closing blanks := by
  rw [Heading.parse?] at h
  split at h
  · rename_i accepted
    obtain ⟨indent_le, level_pos, level_le, spaced⟩ := accepted
    obtain rfl := Option.some.inj h
    generalize eq : (line.dropWhile (· == ' ')).dropWhile (· == '#') = after at spaced
    obtain ⟨closing, closed⟩ :=
      withoutClosing_isPrefix (trimEnd isSpaceOrTab (after.dropWhile isSpaceOrTab))
    have body := trimEnd_append_tailOf isSpaceOrTab (after.dropWhile isSpaceOrTab)
    have whole := List.takeWhile_append_dropWhile (p := isSpaceOrTab) (l := after)
    refine ⟨after.takeWhile isSpaceOrTab, closing, tailOf isSpaceOrTab
      (after.dropWhile isSpaceOrTab), ?_, indent_le, level_pos, level_le, ?_, ?_, ?_, ?_, ?_, ?_, ?_⟩
    · simp only [closed, body, whole, hashLine]
      rw [← eq, replicate_append_dropWhile, replicate_append_dropWhile]
    · rfl
    · exact fun c found => List.all_eq_true.1 List.all_takeWhile c found
    · exact fun c found => of_mem_tailOf found
    · simpa only [closed, body, whole] using spaced
    · intro c first
      have stops := List.head?_dropWhile_not isSpaceOrTab after
      simp only [closed] at first
      rw [← body, List.head?_append, first] at stops
      simpa using stops
    · intro c last
      simp only [closed] at last
      exact getLast?_trimEnd last
    · simp only [closed]
  · cases h

/-- What follows the content is the closing run with the blanks around it. -/
theorem Layout.shape {line : List Char} {heading : Heading} {spacing closing blanks : List Char}
    (layout : Layout line heading spacing closing blanks) :
    Shape line heading spacing (closing ++ blanks) where
  line_eq := by rw [layout.line_eq, List.append_assoc heading.content]
  indent_le := layout.indent_le
  level_pos := layout.level_pos
  level_le := layout.level_le
  length_spacing := layout.length_spacing
  spacing_blank := layout.spacing_blank
  spaced := by rw [← List.append_assoc heading.content]; exact layout.spaced
  last_content := fun _ => layout.last_content

theorem shape_of_parse? {line : List Char} {heading : Heading}
    (h : Heading.parse? line = some heading) : ∃ spacing tail, Shape line heading spacing tail := by
  obtain ⟨spacing, closing, blanks, layout⟩ := layout_of_parse? h
  exact ⟨spacing, closing ++ blanks, layout.shape⟩

end Heading

/-- The line has hashes that a space should follow. -/
def lacksSpace (text : List Char) : Bool :=
  (MissingSpace.checkLine ⟨1, text, .prose⟩).isSome

theorem isSome_checkLine (line : Line) :
    (MissingSpace.checkLine line).isSome = lacksSpace line.text := by
  simp only [lacksSpace, MissingSpace.checkLine]
  split <;> rfl

theorem lacksSpace_iff {text : List Char} :
    lacksSpace text = true ↔
      ∃ indent level rest, text = hashLine indent level rest ∧ 0 < level ∧
        rest.head? ≠ some '#' ∧ indent ≤ 3 ∧ rest.head?.any (!isSpaceOrTab ·) = true ∧
        (trimEnd isBlank text).getLast? ≠ some '#' := by
  simp only [lacksSpace, MissingSpace.checkLine]
  constructor
  · intro h
    split at h
    · rename_i accepted
      obtain ⟨indent_le, hashes, next, last⟩ := accepted
      obtain ⟨indent, level, rest, eq, positive, head, rfl, rfl, rfl⟩ :=
        exists_hashLine (Nat.pos_iff_ne_zero.1 hashes)
      exact ⟨_, _, _, eq, positive, head, indent_le, next, last⟩
    · cases h
  · rintro ⟨indent, level, rest, rfl, positive, head, indent_le, next, last⟩
    rw [takeWhile_hashLine positive, dropWhile_hashLine positive, takeWhile_replicate_append head,
      dropWhile_replicate_append head, List.length_replicate, List.length_replicate,
      if_pos ⟨indent_le, positive, next, last⟩]
    rfl

/-- A line whose hashes are followed by its end, a space or a tab lacks no space. -/
theorem lacksSpace_hashLine {indent level : Nat} {rest : List Char} (positive : 0 < level)
    (spaced : rest.head?.all isSpaceOrTab = true) :
    lacksSpace (hashLine indent level rest) = false := by
  have head : rest.head? ≠ some '#' := by
    intro h
    rw [h] at spaced
    exact absurd spaced (by decide)
  simp only [lacksSpace, MissingSpace.checkLine]
  rw [dropWhile_hashLine positive, dropWhile_replicate_append head]
  cases rest with
  | nil => simp
  | cons c rest => simp_all

end DocCheck
