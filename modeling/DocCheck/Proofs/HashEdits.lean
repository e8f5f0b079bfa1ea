import DocCheck.Proofs.RepairedLines

set_option autoImplicit false

namespace DocCheck

open Text

namespace Edit

/-- Edits that lie apart fall into those that start before a column and those that do not. -/
theorem exists_split {edits : List Edit} (apart : edits.Pairwise Apart) (column : Nat) :
    ∃ left right, edits = left ++ right ∧ (∀ edit ∈ left, edit.start < column) ∧
      ∀ edit ∈ right, column ≤ edit.start := by
  induction edits with
  | nil => exact ⟨[], [], rfl, by simp, by simp⟩
  | cons edit rest ih =>
    obtain ⟨first, others⟩ := List.pairwise_cons.1 apart
    by_cases before : edit.start < column
    · obtain ⟨left, right, rfl, inner, outer⟩ := ih others
      exact ⟨edit :: left, right, rfl, List.forall_mem_cons.2 ⟨before, inner⟩, outer⟩
    · refine ⟨[], edit :: rest, rfl, by simp, ?_⟩
      intro next found
      rcases List.mem_cons.1 found with rfl | found
      · omega
      · have := (first next found).start_lt
        omega

theorem exists_cons_of_mem {edits : List Edit} {edit : Edit} (apart : edits.Pairwise Apart)
    (found : edit ∈ edits) (first : ∀ next ∈ edits, edit.start ≤ next.start) :
    ∃ rest, edits = edit :: rest := by
  rcases edits with _ | ⟨next, rest⟩
  · cases found
  · refine ⟨rest, ?_⟩
    rcases List.mem_cons.1 found with same | later
    · rw [same]
    · have := ((List.pairwise_cons.1 apart).1 edit later).start_lt
      have := first next (List.mem_cons_self ..)
      omega

/-- Where nothing is inserted, characters only go. -/
theorem splice_sublist (ending : LineEnding) {edits : List Edit}
    (bare : ∀ edit ∈ edits, edit.insertion ending = []) (column : Nat) (text : List Char) :
    (splice ending column edits text).Sublist text := by
  induction edits generalizing column text with
  | nil => exact List.Sublist.refl text
  | cons edit rest ih =>
    obtain ⟨first, others⟩ := List.forall_mem_cons.1 bare
    have finish : edit.start ≤ edit.finish := Nat.le_add_right ..
    have behind := ih others edit.finish (text.drop (edit.finish - column))
    have cut : (text.drop (edit.finish - column)).Sublist (text.drop (edit.start - column)) :=
      List.drop_sublist_drop_left text (by omega)
    have parts := (List.Sublist.refl (text.take (edit.start - column))).append (behind.trans cut)
    rwa [List.take_append_drop, ← List.nil_append (splice _ _ _ _), ← first] at parts

end Edit

section Hashes

variable {indent level : Nat} {rest : List Char}

theorem Heading.of_parse?_hashLine (positive : 0 < level) (head : rest.head? ≠ some '#')
    {heading : Heading} (h : Heading.parse? (hashLine indent level rest) = some heading) :
    heading.indent = indent ∧ heading.level = level ∧
      rest.head?.all isSpaceOrTab = true := by
  simp only [Heading.parse?, takeWhile_hashLine positive, dropWhile_hashLine positive,
    takeWhile_replicate_append head, dropWhile_replicate_append head, List.length_replicate] at h
  split at h
  · rename_i accepted
    obtain rfl := Option.some.inj h
    exact ⟨rfl, rfl, accepted.2.2.2⟩
  · cases h

theorem le_of_getElem?_hashLine {index : Nat}
    (h : (hashLine indent level rest)[index]? = some '\t') : indent + level ≤ index := by
  by_cases inside : index < indent + level
  · have front : '\t' ∈ (List.replicate indent ' ' ++ List.replicate level '#') := by
      have short : index < (List.replicate indent ' ' ++ List.replicate level '#').length := by
        simpa using inside
      rw [hashLine, ← List.append_assoc, List.getElem?_append_left short] at h
      exact List.mem_of_getElem? h
    simp at front
  · omega

theorem trimEnd_hashLine (positive : 0 < level) :
    trimEnd (· == ' ') (hashLine indent level rest) =
      hashLine indent level (trimEnd (· == ' ') rest) := by
  have lasts : ∀ c, (List.replicate indent ' ' ++ List.replicate level '#').getLast? = some c →
      (c == ' ') = false := by
    intro c found
    rw [List.getLast?_append, List.getLast?_replicate, if_neg (by omega), Option.some_or] at found
    rw [← Option.some.inj found]
    rfl
  rw [hashLine, ← List.append_assoc, trimEnd_append lasts, List.append_assoc, hashLine]

theorem Heading.Shape.getElem?_last {text spacing tail : List Char} {heading : Heading}
    {last : Char} (shape : Shape text heading spacing tail)
    (content : heading.content.getLast? = some last) :
    text[heading.contentStart + heading.content.length - 1]? = some last := by
  obtain ⟨front, eq⟩ := List.getLast?_eq_some_iff.1 content
  have whole : text = hashLine heading.indent heading.level (spacing ++ front) ++ last :: tail := by
    rw [shape.line_eq, eq]
    simp [hashLine]
  have place : (hashLine heading.indent heading.level (spacing ++ front)).length =
      heading.contentStart + heading.content.length - 1 := by
    have spacing := shape.length_spacing
    rw [length_hashLine, eq, Heading.contentStart]
    simp only [List.length_append, List.length_singleton]
    omega
  rw [whole, ← place, List.getElem?_append_right (Nat.le_refl _)]
  simp

/-- No edit touches the hashes. -/
theorem Mends.beside_hashes {doc : Document} {line : Line} {rule : Rule} {edit : Edit}
    (h : Mends doc line rule edit) (keeps : edit.deletesLine = false)
    (eq : line.text = hashLine indent level rest) (positive : 0 < level)
    (head : rest.head? ≠ some '#') : edit.finish ≤ indent ∨ indent + level ≤ edit.start := by
  cases h with
  | trailing =>
    right
    simp only [Edit.deleting, Edit.start_mk, Nat.add_sub_cancel]
    rw [eq, trimEnd_hashLine positive, length_hashLine]
    omega
  | @tabs options run _ found =>
    right
    have bounds := HardTabs.bounds_of_mem_runsFrom (Nat.le_refl 0) found
    have tab := HardTabs.getElem?_of_mem_runsFrom found
    rw [eq] at tab
    exact le_of_getElem?_hashLine tab
  | blank => simp [Edit.deletingLine, Edit.deletesLine] at keeps
  | unspaced =>
    right
    rw [eq, takeWhile_hashLine positive, dropWhile_hashLine positive,
      takeWhile_replicate_append head]
    simp [Edit.inserting]
  | spaced found =>
    right
    rw [Line.heading?_eq_some, eq] at found
    obtain ⟨rfl, rfl, -⟩ := Heading.of_parse?_hashLine positive head found.2
    simp only [Edit.deleting, Edit.start_mk]
    omega
  | indented found =>
    left
    rw [Line.heading?_eq_some, eq] at found
    obtain ⟨rfl, -, -⟩ := Heading.of_parse?_hashLine positive head found.2
    simp [Edit.deleting]
  | @punctuated _ heading last found content =>
    right
    have nonempty : 0 < heading.content.length :=
      List.length_pos_iff.2 (by rintro empty; simp [empty] at content)
    rw [Line.heading?_eq_some, eq] at found
    obtain ⟨rfl, rfl, -⟩ := Heading.of_parse?_hashLine positive head found.2
    simp only [Edit.deleting, Edit.start_mk, Heading.contentStart]
    omega
  | unended =>
    right
    rw [eq, length_hashLine]
    simp only [Edit.inserting, Edit.start_mk]
    omega

namespace Ruleset

variable {ruleset : Ruleset} {text : List Char} {line : Line}

/-- The edits of a line that begins with spaces and hashes act on the spaces or behind the hashes,
and they leave spaces before the hashes. -/
theorem mended_hashLine (stored : Stored text) (member : line ∈ Line.ofText text)
    (kept : ruleset.deletes text line = false) (eq : line.text = hashLine indent level rest)
    (positive : 0 < level) (head : rest.head? ≠ some '#') :
    ∃ left right spaces, ruleset.acting text line = left ++ right ∧
      (∀ edit ∈ left, edit.finish ≤ indent) ∧ (∀ edit ∈ right, indent + level ≤ edit.start) ∧
      Edit.splice (lineEnding text) 0 left (List.replicate indent ' ') =
        List.replicate spaces ' ' ∧
      ruleset.mended text line =
        hashLine spaces level (Edit.splice (lineEnding text) (indent + level) right rest) := by
  have apart := ruleset.pairwise_acting stored member kept
  obtain ⟨left, right, split, before, behind⟩ := Edit.exists_split apart (indent + level)
  have acts : ∀ edit ∈ left, Acts ruleset text line edit := by
    intro edit found
    exact acts_of_mem_acting stored member kept (split ▸ List.mem_append_left right found)
  -- No edit touches the hashes, so none to the left of their end reaches them.
  have inner : ∀ edit ∈ left, edit.finish ≤ indent := by
    intro edit found
    obtain ⟨_, -, -, mends⟩ := (acts edit found).asks
    rcases mends.beside_hashes (acts edit found).keeps eq positive head with inside | outside
    · exact inside
    · have := before edit found
      omega
  have blank : ∀ c ∈ Edit.splice (lineEnding text) 0 left (List.replicate indent ' '), c = ' ' := by
    intro c found
    rcases Edit.mem_splice found with there | ⟨edit, found, inserted⟩
    · exact List.eq_of_mem_replicate there
    · rw [(acts edit found).insertion_eq] at inserted
      exact (acts edit found).eq_space inserted
  have spaces := List.eq_replicate_of_mem blank
  refine ⟨left, right, _, split, inner, behind, spaces, ?_⟩
  rw [split] at apart
  obtain ⟨lefts, -, -⟩ := List.pairwise_append.1 apart
  have front := Edit.splice_append (lineEnding text) right 0 (List.replicate indent ' ')
    (List.replicate level '#' ++ rest) lefts
    (fun edit found => ⟨Nat.zero_le _, by simpa using inner edit found⟩)
    (fun edit found => by
      have := behind edit found
      simp only [List.length_replicate]
      omega)
  have back := Edit.splice_eq_take_append (lineEnding text) (Nat.le_add_right indent level) behind
    (List.replicate level '#' ++ rest)
  rw [Nat.add_sub_cancel_left, List.take_left' List.length_replicate,
    List.drop_left' List.length_replicate] at back
  rw [List.length_replicate, Nat.zero_add, back, spaces] at front
  rw [mended, split, eq, hashLine, front, hashLine]

end Ruleset

end Hashes

end DocCheck
