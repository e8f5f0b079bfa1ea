import DocCheck.Proofs.LineWeight
import DocCheck.Ruleset.Standard

set_option autoImplicit false

namespace DocCheck

open Text

namespace Heading.Shape

variable {line : List Char} {heading : Heading} {spacing tail : List Char}

theorem take_indent (shape : Shape line heading spacing tail) :
    line.take heading.indent = List.replicate heading.indent ' ' := by
  rw [shape.line_eq, hashLine, List.take_left' List.length_replicate]

theorem drop_hashes (shape : Shape line heading spacing tail) :
    line.drop (heading.indent + heading.level) = spacing ++ (heading.content ++ tail) := by
  rw [shape.line_eq, hashLine, ← List.append_assoc,
    List.drop_left' (by rw [List.length_append, List.length_replicate, List.length_replicate])]

end Heading.Shape

/-- The characters are ones that a repair by the rule may remove. -/
def Rule.Removes (rule : Rule) (gone : List Char) : Prop :=
  match rule with
  | .trailingSpaces _ | .headingStart _ => ∀ c ∈ gone, c = ' '
  | .hardTabs _ => ∀ c ∈ gone, c = '\t'
  | .multipleSpace _ => ∀ c ∈ gone, isSpaceOrTab c = true
  | .trailingPunctuation options => ∃ mark ∈ options.punctuation, gone = [mark]
  | .missingSpace _ | .finalNewline _ => gone = []
  | .headingIncrement _ | .multipleBlanks _ | .lineLength _ | .singleTitle _ | .fenceLanguage _ =>
    False

/-- The edit is a repair of the line that the rule may ask for. -/
inductive Rule.Allows (rule : Rule) (line : Line) (edit : Edit) : Prop
  | deletes (id : rule.id = .multipleBlanks) (deletion : edit.deletion = .wholeLine)
      (prose : line.kind = .prose) (blank : allBlank line.text = true) : Allows rule line edit
  | edits {count : Nat} (deletion : edit.deletion = .chars count) (column_pos : 1 ≤ edit.column)
      (column_le : edit.column ≤ line.text.length + 1)
      (inside : edit.column - 1 + count ≤ line.text.length)
      (removes : rule.Removes ((line.text.drop (edit.column - 1)).take count))
      (changes : ∀ ending, ∃ after, edit.applyTo ending line.text = some after ∧
        after ≠ line.text) : Allows rule line edit

namespace Mends

variable {doc : Document} {line : Line} {rule : Rule} {edit : Edit}

theorem removes (h : Mends doc line rule edit) (keeps : edit.deletesLine = false) :
    rule.Removes (edit.removed line.text) := by
  cases h with
  | trailing =>
    intro c gone
    have tail := List.mem_of_mem_take gone
    simp only [Edit.deleting, Edit.start_mk, Nat.add_sub_cancel, drop_length_trimEnd] at tail
    have blank := of_mem_tailOf tail
    exact beq_iff_eq.1 blank
  | @tabs options run _ found =>
    intro c gone
    have tabs : (options.fill line.number run).removed line.text =
        List.replicate run.length '\t' := HardTabs.cut_eq_replicate found
    rw [tabs] at gone
    exact List.eq_of_mem_replicate gone
  | blank => simp [Edit.deletingLine, Edit.deletesLine] at keeps
  | unspaced | unended => exact Edit.removed_eq_nil rfl line.text
  | @spaced _ heading found =>
    intro c gone
    obtain ⟨spacing, tail, shape⟩ := Heading.shape_of_parse? (Line.heading?_eq_some.1 found).2
    have gap : (Edit.deleting line.number (heading.indent + heading.level + 2)
        (heading.spacing - 1)).removed line.text = spacing.drop 1 := by
      simp only [Edit.removed, Edit.deleting, Edit.start_mk, Edit.width_mk]
      rw [show heading.indent + heading.level + 2 - 1 = heading.indent + heading.level + 1 by omega,
        ← List.drop_drop, shape.drop_hashes, ← List.drop_take, ← shape.length_spacing,
        List.take_left]
    rw [gap] at gone
    exact shape.spacing_blank c (List.mem_of_mem_drop gone)
  | @indented _ heading found =>
    intro c gone
    obtain ⟨spacing, tail, shape⟩ := Heading.shape_of_parse? (Line.heading?_eq_some.1 found).2
    have spaces : (Edit.deleting line.number 1 heading.indent).removed line.text =
        List.replicate heading.indent ' ' := shape.take_indent
    rw [spaces] at gone
    exact List.eq_of_mem_replicate gone
  | @punctuated options heading last found content listed =>
    obtain ⟨spacing, tail, shape⟩ := Heading.shape_of_parse? (Line.heading?_eq_some.1 found).2
    obtain ⟨inside, here⟩ := List.getElem?_eq_some_iff.1 (shape.getElem?_last content)
    refine ⟨last, listed, ?_⟩
    simp only [Edit.removed, Edit.deleting, Edit.start_mk, Edit.width_mk]
    rw [List.drop_eq_getElem_cons inside, here, List.take_succ_cons, List.take_zero]

theorem insertion_ne_removed (h : Mends doc line rule edit) (keeps : edit.deletesLine = false)
    (ending : LineEnding) : edit.insertion ending ≠ edit.removed line.text := by
  intro same
  have wide := h.width_pos_or keeps
  have inside := h.start_lt keeps
  cases h with
  | @tabs options run _ found =>
    apply options.not_steady line.number found
    intro c gone
    rw [← same, options.insertion_fill] at gone
    exact options.eq_space_of_mem_spaces gone
  | blank => simp [Edit.deletingLine, Edit.deletesLine] at keeps
  | unspaced =>
    rw [Edit.removed_eq_nil rfl] at same
    cases same
  | unended =>
    rw [Edit.removed_eq_nil rfl] at same
    cases ending <;> cases same
  | trailing | spaced | indented | punctuated =>
    have narrow := Edit.removed_ne_nil (wide.resolve_right fun inserts => inserts.1 rfl)
      (inside (by simp [Edit.deleting, Edit.inserting]))
    exact narrow same.symm

theorem applyTo_ne (h : Mends doc line rule edit) (keeps : edit.deletesLine = false)
    (short : line.text.length < wordLimit) (ending : LineEnding) :
    ∃ after, edit.applyTo ending line.text = some after ∧ after ≠ line.text := by
  have finish := h.finish_le keeps
  have start : edit.start ≤ edit.finish := Nat.le_add_right ..
  have fits : Edit.Fits line.text.length edit := ⟨keeps, by omega, by omega⟩
  refine ⟨_, fits.applyTo ending line.text, ?_⟩
  intro same
  have whole := Edit.drop_eq_append (Nat.zero_le edit.start) line.text
  rw [List.drop_zero, Nat.sub_zero] at whole
  have cut := (List.append_right_inj _).1 (same.trans whole)
  exact h.insertion_ne_removed keeps ending ((List.append_left_inj _).1 cut)

/-- Only prose is deleted. -/
theorem kind_of_deletes (h : Mends doc line rule edit) (deletes : edit.deletesLine = true) :
    line.kind = .prose := by
  cases h with
  | blank prose =>
    cases kind : line.kind with
    | prose => rfl
    | _ =>
      rw [kind] at prose
      cases prose
  | _ => cases deletes

theorem column_pos (h : Mends doc line rule edit) : 1 ≤ edit.column := by
  cases h with
  | tabs _ found =>
    have start := (HardTabs.bounds_of_mem_runsFrom (Nat.le_refl 0) found).1
    simp only [HardTabs.fill, Edit.replacing]
    omega
  | @punctuated _ heading _ found =>
    obtain ⟨spacing, tail, shape⟩ := Heading.shape_of_parse? (Line.heading?_eq_some.1 found).2
    have positive := shape.level_pos
    simp only [Edit.deleting, Heading.contentStart]
    omega
  | trailing | blank | unspaced | spaced | indented | unended =>
    simp only [Edit.deleting, Edit.deletingLine, Edit.inserting]
    omega

theorem allows (h : Mends doc line rule edit) (short : line.text.length < wordLimit) :
    rule.Allows line edit := by
  by_cases deletes : edit.deletesLine = true
  · obtain ⟨id, -, blank⟩ := h.of_deletes deletes
    exact .deletes id (of_decide_eq_true deletes) (h.kind_of_deletes deletes) blank
  · have keeps : edit.deletesLine = false := by simpa using deletes
    have finish := h.finish_le keeps
    have column := h.column_pos
    have start : edit.start = edit.column - 1 := rfl
    have sum : edit.finish = edit.start + edit.width := rfl
    have fits : Edit.Fits line.text.length edit := ⟨keeps, by omega, by omega⟩
    exact .edits fits.deletion column (by omega) (by omega) (h.removes keeps)
      (h.applyTo_ne keeps short)

end Mends

/-- A violation with an edit comes from a rule that is marked as fixable. The edit names the line of the
violation and is one that the rule may ask for on that line, whatever inline comments say. -/
theorem allows_of_mem_check {text : List Char} (stored : Stored text) (ruleset : Ruleset) :
    ∀ configured ∈ ruleset.rules, ∀ violation ∈ configured.rule.check (.ofText text),
      ∀ edit, violation.edit = some edit →
        configured.id.fixable = true ∧ edit.line = violation.line ∧
          ∃ line ∈ Line.ofText text, line.number = violation.line ∧
            configured.rule.Allows line edit := by
  intro configured _ violation reported edit carried
  obtain ⟨line, member, number, mends⟩ := exists_mends reported carried
  refine ⟨mends.fixable, mends.line_eq.trans number.symm, line, member, number.symm, ?_⟩
  exact mends.allows (stored.length_lt (Line.text_mem_lines member))

/-- The full stop is the sixth character of its line, behind six bytes. -/
theorem allows_of_mem_check_ideographic :
    ∃ line ∈ Line.ofText "x\n # \u00C9\t\u3002 \n".toList, line.number = 2 ∧
      Rule.Allows (.trailingPunctuation {}) line (.deleting 2 6 1) := by
  have stored : Stored "x\n # \u00C9\t\u3002 \n".toList := by decide
  obtain ⟨-, -, found⟩ := allows_of_mem_check stored .all ⟨.trailingPunctuation {}, .error⟩
    (by decide) ⟨2, some (.punctuation '\u3002'), some "# \u00C9\t\u3002".toList, some ⟨6, 1⟩,
      some (.deleting 2 6 1)⟩ (by decide +kernel) _ rfl
  exact found

end DocCheck
