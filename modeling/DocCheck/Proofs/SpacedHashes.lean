import DocCheck.Proofs.HeadingContent
import DocCheck.Proofs.RetouchedLines
import DocCheck.Proofs.SingleEdit

set_option autoImplicit false

namespace DocCheck

open Text

variable {indent level : Nat} {rest : List Char}

/-- The parts of a line that begins with spaces and hashes are determined. -/
theorem hashLine_inj {spaces hashes : Nat} {tail : List Char} (positive : 0 < level)
    (head : rest.head? ≠ some '#') (more : 0 < hashes) (first : tail.head? ≠ some '#')
    (same : hashLine indent level rest = hashLine spaces hashes tail) :
    indent = spaces ∧ level = hashes ∧ rest = tail := by
  have indents := congrArg (fun text => (text.takeWhile (· == ' ')).length) same
  have behind := congrArg (fun text => text.dropWhile (· == ' ')) same
  simp only [takeWhile_hashLine positive, takeWhile_hashLine more, List.length_replicate,
    dropWhile_hashLine positive, dropWhile_hashLine more] at indents behind
  have levels := congrArg (fun text => (text.takeWhile (· == '#')).length) behind
  have tails := congrArg (fun text => text.dropWhile (· == '#')) behind
  simp only [takeWhile_replicate_append head, takeWhile_replicate_append first,
    List.length_replicate, dropWhile_replicate_append head, dropWhile_replicate_append first]
    at levels tails
  exact ⟨indents, levels, tails⟩

theorem Edit.splice_hashLine (ending : LineEnding) (edit : Edit) (front gone back : List Char)
    (start : edit.start = indent + level + front.length) (width : edit.width = gone.length) :
    splice ending 0 [edit] (hashLine indent level (front ++ (gone ++ back))) =
      hashLine indent level (front ++ (edit.insertion ending ++ back)) := by
  have spliced := splice_singleton ending edit
    (List.replicate indent ' ' ++ (List.replicate level '#' ++ front)) gone back
    (by simp [start, Nat.add_assoc]) width
  simpa [hashLine] using spliced

theorem Edit.splice_unspaced (ending : LineEnding) (number indent level : Nat) (rest : List Char) :
    splice ending 0 [.inserting number (indent + level + 1) [' ']] (hashLine indent level rest) =
      hashLine indent level (' ' :: rest) := by
  have spaced := @splice_hashLine indent level ending
    (.inserting number (indent + level + 1) [' ']) [] [] rest rfl rfl
  rwa [insertion_eq (by simp [inserting])] at spaced

theorem Mends.unspaced_hashLine {doc : Document} {line : Line} {options : MissingSpace} {edit : Edit}
    (h : Mends doc line (.missingSpace options) edit) :
    ∃ indent level rest, line.text = hashLine indent level rest ∧ 0 < level ∧
      rest.head? ≠ some '#' ∧ edit = .inserting line.number (indent + level + 1) [' '] := by
  cases h with
  | unspaced prose found =>
    obtain ⟨indent, level, rest, eq, positive, head, -⟩ := lacksSpace_iff.1 found
    refine ⟨indent, level, rest, eq, positive, head, ?_⟩
    rw [eq, takeWhile_hashLine positive, dropWhile_hashLine positive, takeWhile_replicate_append head,
      List.length_replicate, List.length_replicate]

namespace Heading

theorem parse?_of_seven (positive : 0 < level) (head : rest.head? ≠ some '#') (many : 6 < level) :
    parse? (hashLine indent level rest) = none := by
  rw [Option.eq_none_iff_forall_ne_some]
  intro heading parsed
  obtain ⟨spacing, tail, shape⟩ := shape_of_parse? parsed
  have most := shape.level_le
  rw [(of_parse?_hashLine positive head parsed).2.1] at most
  omega

/-- A line that does not end in a hash has no closing run. -/
theorem withoutClosing_eq_self {body : List Char} (last : body.getLast? ≠ some '#') :
    withoutClosing body = body := by
  have none : trimEnd (· == '#') body = body := by
    apply trimEnd_eq_self
    intro c found
    rw [Bool.eq_false_iff]
    intro hash
    exact last (beq_iff_eq.1 hash ▸ found)
  rw [withoutClosing, none, if_neg fun shorter => Nat.lt_irrefl _ shorter.1]

/-- What follows the hashes ends in a hash behind which only blanks stand when the line does. -/
theorem getLast?_trimEnd_hashLine (positive : 0 < level)
    (last : (trimEnd isBlank (hashLine indent level rest)).getLast? ≠ some '#') :
    (trimEnd isSpaceOrTab rest).getLast? ≠ some '#' := by
  intro hash
  have lasts : ∀ c, (List.replicate indent ' ' ++ List.replicate level '#').getLast? = some c →
      isSpaceOrTab c = false := by
    intro c found
    rw [List.getLast?_append, List.getLast?_replicate, if_neg (by omega), Option.some_or] at found
    rw [← Option.some.inj found]
    rfl
  have ends : (trimEnd isSpaceOrTab (hashLine indent level rest)).getLast? = some '#' := by
    rw [hashLine, ← List.append_assoc, trimEnd_append lasts, List.getLast?_append, hash]
    rfl
  apply last
  rw [← trimEnd_trimEnd fun _ => isBlank_of_isSpaceOrTab, trimEnd_eq_self, ends]
  intro c found
  rw [ends] at found
  rw [← Option.some.inj found]
  rfl

theorem parse?_spaced (le : indent ≤ 3) (positive : 0 < level)
    (next : rest.head?.any (!isSpaceOrTab ·) = true)
    (last : (trimEnd isBlank (hashLine indent level rest)).getLast? ≠ some '#') :
    parse? (hashLine indent level (' ' :: rest)) =
      if level ≤ 6 then some ⟨indent, level, 1, trimEnd isSpaceOrTab rest⟩ else none := by
  split
  · rename_i most
    have stays : rest.dropWhile isSpaceOrTab = rest ∧ rest.takeWhile isSpaceOrTab = [] := by
      cases rest with
      | nil => cases next
      | cons c rest =>
        have solid : isSpaceOrTab c = false := by simpa using next
        simp [solid]
    have spacing : ((' ' :: rest).takeWhile isSpaceOrTab).length = 1 := by
      rw [List.takeWhile_cons_of_pos rfl, stays.2]
      rfl
    have content : contentOf (' ' :: rest) = trimEnd isSpaceOrTab rest := by
      rw [contentOf, List.dropWhile_cons_of_pos rfl, stays.1,
        withoutClosing_eq_self (getLast?_trimEnd_hashLine positive last)]
    rw [parse?_hashLine le positive most rfl, spacing, content]
  · rename_i many
    exact parse?_of_seven positive (by simp) (Nat.not_le.1 many)

end Heading

/-- A prose line that lacks a space after its hashes is no heading. The edit that is reported for it
puts a space there and changes no other line, and the line lacks nothing then. With up to six hashes
it is a heading whose content is all that follows them, without the spaces and tabs at the end. -/
theorem spaced_of_checkLine (text : List Char) (stored : Stored text) (line : Line)
    (violation : Violation) (member : line ∈ (Document.ofText text).prose)
    (reported : MissingSpace.checkLine line = some violation) :
    ∃ indent level rest, line.text = hashLine indent level rest ∧ 0 < level ∧
      rest.head? ≠ some '#' ∧ indent ≤ 3 ∧ line.heading? = none ∧
      ∃ edit, violation.edit = some edit ∧
        let spaced := line.withText (hashLine indent level (' ' :: rest))
        Line.ofText (Edit.applyAll text [edit]) =
            (Line.ofText text).map (fun other => if other = line then spaced else other) ∧
          MissingSpace.checkLine spaced = none ∧
          spaced.heading? =
            if level ≤ 6 then some ⟨indent, level, 1, trimEnd isSpaceOrTab rest⟩ else none := by
  obtain ⟨member, prose⟩ := Document.mem_prose.1 member
  have lacks : lacksSpace line.text = true := by
    rw [← isSome_checkLine, reported]
    rfl
  obtain ⟨indent, level, rest, eq, positive, head, le, next, last⟩ := lacksSpace_iff.1 lacks
  obtain ⟨number, carried⟩ := MissingSpace.of_checkLine reported
  rw [eq, takeWhile_hashLine positive, dropWhile_hashLine positive, takeWhile_replicate_append head,
    List.length_replicate, List.length_replicate] at carried
  refine ⟨indent, level, rest, eq, positive, head, le, ?_, _, carried, ?_, ?_, ?_⟩
  · rw [Line.heading?, prose, if_neg Bool.false_ne_true, Heading.parse?_eq_none_of_lacksSpace lacks]
  · have fits : Edit.Fits line.text.length (.inserting line.number (indent + level + 1) [' ']) := by
      have short := stored.length_lt (Line.text_mem_lines member)
      rw [eq, length_hashLine] at short ⊢
      refine ⟨rfl, ?_, ?_⟩ <;> simp only [Edit.inserting, Edit.start_mk, Edit.finish_mk] <;> omega
    have made := Edit.lines_applyAll_singleton member rfl fits
      (by simp [Edit.inserting, Unbroken, isBreak])
    rw [eq, Edit.splice_unspaced] at made
    have retouched := Line.ofText_eq_map made fun other found => ?_
    · rw [retouched]
      refine List.map_congr_left fun other _ => ?_
      split
      · rename_i same
        rw [same]
      · rfl
    · split
      · rename_i same
        rw [same, eq, Fence.parse?_hashLine positive, Fence.parse?_hashLine positive]
      · rfl
  · rw [← Option.not_isSome_iff_eq_none, isSome_checkLine]
    exact Bool.eq_false_iff.1 (lacksSpace_hashLine positive rfl)
  · simp only [Line.heading?, Line.withText, prose]
    exact Heading.parse?_spaced le positive next (eq ▸ last)

/-- An ideographic space is no space that ends the hashes, and the last hash closes nothing. -/
theorem spaced_of_checkLine_ideographic :
    ∃ edit after, Line.ofText
        (Edit.applyAll "~~~\r\n#x\r\n~~~\r\n ##\u3000T #a\t ".toList [edit]) =
          (Line.ofText "~~~\r\n#x\r\n~~~\r\n".toList).dropLast ++ [after] ∧
      after.heading? = some ⟨1, 2, 1, "\u3000T #a".toList⟩ := by
  obtain ⟨indent, level, rest, eq, positive, head, -, -, edit, -, made, -, heading⟩ :=
    spaced_of_checkLine "~~~\r\n#x\r\n~~~\r\n ##\u3000T #a\t ".toList (by decide)
      ⟨4, " ##\u3000T #a\t ".toList, .prose⟩ _ (by decide +kernel) rfl
  have shape : hashLine 1 2 "\u3000T #a\t ".toList = hashLine indent level rest := eq
  obtain ⟨rfl, rfl, rfl⟩ := hashLine_inj (by decide) (by decide) positive head shape
  refine ⟨edit, _, made.trans ?_, heading.trans (by decide)⟩
  decide +kernel

end DocCheck
