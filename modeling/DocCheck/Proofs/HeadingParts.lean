import DocCheck.Proofs.HeadingContent
import DocCheck.Text.Slice

/-!
The grammar of headings. Main statement: a line is a heading exactly when it begins with up to three
spaces, one to six hashes and then its end or a blank, and its parts are those that make up the line,
where a run of hashes at the end that can close the content does so.
-/

set_option autoImplicit false

namespace DocCheck

open Text

namespace Text

theorem byteLength_eq_length {text : List Char} (ascii : ∀ c ∈ text, c.utf8Size = 1) :
    byteLength text = text.length := by
  induction text with
  | nil => rfl
  | cons c text ih =>
    obtain ⟨first, others⟩ := List.forall_mem_cons.1 ascii
    rw [byteLength_cons, first, ih others, List.length_cons, Nat.add_comm]

theorem utf8Size_of_isSpaceOrTab {c : Char} (blank : isSpaceOrTab c = true) : c.utf8Size = 1 := by
  rw [isSpaceOrTab, Bool.or_eq_true, beq_iff_eq, beq_iff_eq] at blank
  cases blank with
  | inl space => rw [space]; rfl
  | inr tab => rw [tab]; rfl

/-- A part of a text stands between the bytes before it and its own end. -/
theorem slice?_append (front part back : List Char) :
    slice? (byteLength front) (byteLength front + byteLength part) (front ++ (part ++ back)) =
      some part := by
  have behind : dropBytes? (byteLength front) (front ++ (part ++ back)) = some (part ++ back) :=
    dropBytes?_eq_some_iff.2 ⟨front, rfl, rfl⟩
  have here : takeBytes? (byteLength part) (part ++ back) = some part :=
    takeBytes?_eq_some_iff.2 ⟨List.prefix_append .., rfl⟩
  rw [slice?, if_pos (Nat.le_add_right ..), behind, Option.bind_some, Nat.add_sub_cancel_left, here]

end Text

namespace Heading

/-- What stands behind the content of a heading: blanks, or a run of hashes and blanks. The run is left
out only where none can be split off the content. -/
inductive Tail (content : List Char) : List Char → Prop
  | bare {blanks : List Char} (unclosed : Unclosed content)
      (blank : ∀ c ∈ blanks, isSpaceOrTab c = true) : Tail content blanks
  | closed {gap hashes blanks : List Char} (closes : Closes content gap hashes)
      (blank : ∀ c ∈ blanks, isSpaceOrTab c = true) : Tail content ((gap ++ hashes) ++ blanks)

/-- The parts of a heading make up the line. The content neither begins nor ends with a space or tab,
and an empty one is not followed by any. -/
structure Parts (line : List Char) (heading : Heading) (spacing tail : List Char) : Prop
    extends Shape line heading spacing tail where
  first_content : ∀ c, heading.content.head? = some c → isSpaceOrTab c = false
  first_tail : heading.content = [] → ∀ c, tail.head? = some c → isSpaceOrTab c = false
  behind : Tail heading.content tail

variable {line spacing tail : List Char} {heading : Heading}

theorem Parts.first (parts : Parts line heading spacing tail) {c : Char}
    (first : (heading.content ++ tail).head? = some c) : isSpaceOrTab c = false := by
  by_cases empty : heading.content = []
  · rw [empty, List.nil_append] at first
    exact parts.first_tail empty c first
  · rw [List.head?_append_of_ne_nil _ empty] at first
    exact parts.first_content c first

theorem Parts.takeWhile_eq (parts : Parts line heading spacing tail) :
    (spacing ++ (heading.content ++ tail)).takeWhile isSpaceOrTab = spacing := by
  have stops : (heading.content ++ tail).takeWhile isSpaceOrTab = [] := by
    cases eq : heading.content ++ tail with
    | nil => rfl
    | cons c rest =>
      have solid : isSpaceOrTab c = false := parts.first (by rw [eq, List.head?_cons])
      simp [solid]
  rw [List.takeWhile_append_of_pos parts.spacing_blank, stops, List.append_nil]

/-- The content is read back from what follows the hashes. -/
theorem Parts.contentOf_eq (parts : Parts line heading spacing tail) :
    contentOf (spacing ++ (heading.content ++ tail)) = heading.content := by
  have starts (c : Char) : (heading.content ++ tail).head? = some c → isSpaceOrTab c = false :=
    parts.first
  cases parts.behind with
  | bare unclosed blank =>
    rw [contentOf_append parts.spacing_blank blank,
      contentOf_eq_withoutClosing parts.first_content parts.last_content,
      unclosed.withoutClosing_eq]
  | @closed gap hashes blanks closes blank =>
    rw [← List.append_assoc heading.content, contentOf_append parts.spacing_blank blank,
      contentOf_eq_withoutClosing, closes.withoutClosing_eq, trimEnd_eq_self parts.last_content]
    · intro c found
      apply starts
      rw [← List.append_assoc, List.head?_append, found, Option.some_or]
    · intro c found
      rw [← List.append_assoc, List.getLast?_append_of_ne_nil _ closes.some] at found
      rw [beq_iff_eq.1 (closes.marks c (List.mem_of_getLast? found))]
      rfl

theorem Parts.parse?_eq (parts : Parts line heading spacing tail) :
    parse? line = some heading := by
  rw [parts.line_eq, parse?_hashLine parts.indent_le parts.level_pos parts.level_le parts.spaced,
    parts.takeWhile_eq, parts.contentOf_eq, parts.length_spacing]

theorem Shape.first (shape : Shape line heading spacing tail) (parsed : parse? line = some heading)
    {c : Char} (first : (heading.content ++ tail).head? = some c) : isSpaceOrTab c = false := by
  obtain ⟨rest, eq⟩ := List.head?_eq_some_iff.1 first
  rw [shape.line_eq, parse?_hashLine shape.indent_le shape.level_pos shape.level_le shape.spaced,
    Option.some.injEq] at parsed
  have spaces : ((spacing ++ (heading.content ++ tail)).takeWhile isSpaceOrTab).length =
      heading.spacing := congrArg Heading.spacing parsed
  rw [List.takeWhile_append_of_pos shape.spacing_blank, List.length_append, shape.length_spacing,
    eq] at spaces
  rw [Bool.eq_false_iff]
  intro blank
  rw [List.takeWhile_cons_of_pos blank, List.length_cons] at spaces
  omega

theorem exists_parts (parsed : parse? line = some heading) :
    ∃ spacing tail, Parts line heading spacing tail := by
  obtain ⟨spacing, closing, blanks, layout⟩ := layout_of_parse? parsed
  have starts (c : Char) (first : (heading.content ++ (closing ++ blanks)).head? = some c) :
      isSpaceOrTab c = false :=
    layout.shape.first parsed first
  refine ⟨spacing, closing ++ blanks, { layout.shape with
    first_content := ?_, first_tail := ?_, behind := ?_ }⟩
  · intro c first
    apply starts
    rw [List.head?_append, first, Option.some_or]
  · intro empty c first
    apply starts
    rw [empty, List.nil_append, first]
  · rcases layout.closing_cases with ⟨none, unclosed⟩ | ⟨gap, hashes, eq, closes⟩
    · rw [none, List.nil_append]
      exact .bare unclosed layout.blanks_blank
    · rw [eq]
      exact .closed closes layout.blanks_blank

/-- What stands before the content has as many bytes as characters. -/
theorem byteLength_hashLine {blanks : List Char} (blank : ∀ c ∈ blanks, isSpaceOrTab c = true)
    (indent level : Nat) :
    byteLength (hashLine indent level blanks) = indent + level + blanks.length := by
  rw [byteLength_eq_length, length_hashLine]
  intro c found
  rw [hashLine, List.mem_append, List.mem_append] at found
  rcases found with space | hash | between
  · rw [List.eq_of_mem_replicate space]
    rfl
  · rw [List.eq_of_mem_replicate hash]
    rfl
  · exact utf8Size_of_isSpaceOrTab (blank c between)

theorem Shape.byteLength_lead (shape : Shape line heading spacing tail) :
    byteLength (hashLine heading.indent heading.level spacing) = heading.contentStart := by
  rw [byteLength_hashLine shape.spacing_blank, shape.length_spacing, contentStart]

theorem Shape.line_eq_append (shape : Shape line heading spacing tail) :
    line = hashLine heading.indent heading.level spacing ++ (heading.content ++ tail) := by
  rw [shape.line_eq]
  simp only [hashLine, List.append_assoc]

/-- The content stands at the byte at which it is said to. -/
theorem Shape.slice?_content (shape : Shape line heading spacing tail) :
    slice? heading.contentStart (heading.contentStart + byteLength heading.content) line =
      some heading.content := by
  rw [← shape.byteLength_lead, shape.line_eq_append, slice?_append]

/-- A line is a heading exactly when it is up to three spaces, one to six hashes, and then its end, a
space or a tab. What is read off it are the parts that make it up, whose content stands at the byte
where it is said to begin. -/
theorem parse?_iff_parts (line : List Char) :
    ((parse? line).isSome = true ↔ ∃ indent level rest, line = hashLine indent level rest ∧
      indent ≤ 3 ∧ 1 ≤ level ∧ level ≤ 6 ∧ rest.head?.all isSpaceOrTab = true) ∧
    ∀ heading : Heading,
      (parse? line = some heading ↔ ∃ spacing tail, Parts line heading spacing tail) ∧
      (parse? line = some heading →
        slice? heading.contentStart (heading.contentStart + byteLength heading.content) line =
          some heading.content) := by
  refine ⟨⟨?_, ?_⟩, fun heading => ⟨⟨exists_parts, ?_⟩, ?_⟩⟩
  · intro some
    obtain ⟨heading, parsed⟩ := Option.isSome_iff_exists.1 some
    obtain ⟨spacing, tail, shape⟩ := shape_of_parse? parsed
    exact ⟨_, _, _, shape.line_eq, shape.indent_le, shape.level_pos, shape.level_le, shape.spaced⟩
  · rintro ⟨indent, level, rest, rfl, le, positive, most, spaced⟩
    rw [parse?_hashLine le positive most spaced]
    rfl
  · rintro ⟨spacing, tail, parts⟩
    exact parts.parse?_eq
  · intro parsed
    obtain ⟨spacing, tail, shape⟩ := shape_of_parse? parsed
    exact shape.slice?_content

/-- Only the last run of hashes closes a heading. -/
example : parse? "# a # #\t".toList = some ⟨0, 1, 1, "a #".toList⟩ := by decide

end Heading

end DocCheck
