import DocCheck.Proofs.FenceOutline
import DocCheck.Proofs.LoneRule
import DocCheck.Proofs.SpacedHashes

set_option autoImplicit false

namespace DocCheck

open Text

/-- The rule repairs each line that it reports with one edit within the line. -/
def Rule.mendsLines : Rule → Bool
  | .trailingSpaces _ | .missingSpace _ | .multipleSpace _ | .headingStart _ => true
  | _ => false

theorem Ruleset.lint_eq_nil_iff_not_asks {ruleset : Ruleset} {configured : ConfiguredRule}
    (alone : ruleset.rules = [configured]) (fixable : configured.id.fixable = true)
    {text : List Char} :
    ruleset.lint text = [] ↔ ∀ line ∈ Line.ofText text, ∀ edit, ¬ ruleset.Asks text line edit := by
  constructor
  · intro none line member edit asks
    have found : edit ∈ ruleset.edits text := mem_edits.2 ⟨line, member, asks⟩
    rw [edits, none] at found
    cases found
  · intro silent
    rw [List.eq_nil_iff_forall_not_mem]
    intro finding found
    obtain ⟨other, enabled, violation, reported, left, -⟩ := mem_lint.1 found
    obtain rfl : other = configured := by simpa [alone] using enabled
    obtain ⟨edit, carried⟩ := exists_edit_of_mem_check fixable reported
    obtain ⟨line, member, number, mends⟩ := exists_mends reported carried
    exact silent line member edit ⟨other, enabled, number ▸ left, mends⟩

namespace InlineComment

theorem ofLine_hashLine (indent level : Nat) (rest : List Char) :
    ofLine (hashLine indent level rest) = ofLine rest := by
  rw [hashLine, ← List.append_assoc]
  exact ofLine_append (by simp) rest

end InlineComment

/-- What a repair of the line by the rule leaves: the fence that the line draws, its comments, and
nothing that the rule asks for. -/
structure Settles (rule : Rule) (line : Line) (after : List Char) : Prop where
  fence : Fence.parse? after = Fence.parse? line.text
  comments : InlineComment.ofLine after = InlineComment.ofLine line.text
  silent : ∀ doc edit, ¬ Mends doc (line.withText after) rule edit

/-- Spaces and hashes in front draw no fence and hold no comment. -/
theorem Settles.of_hashLine {rule : Rule} {line : Line} {indent spaces level : Nat}
    {rest after : List Char} (eq : line.text = hashLine indent level rest) (positive : 0 < level)
    (comments : InlineComment.ofLine after = InlineComment.ofLine rest)
    (silent : ∀ doc edit, ¬ Mends doc (line.withText (hashLine spaces level after)) rule edit) :
    Settles rule line (hashLine spaces level after) where
  fence := by rw [eq, Fence.parse?_hashLine positive, Fence.parse?_hashLine positive]
  comments := by
    rw [eq, InlineComment.ofLine_hashLine, InlineComment.ofLine_hashLine, comments]
  silent := silent

namespace Mends

variable {doc : Document} {line : Line} {edit : Edit} (ending : LineEnding)

theorem settles_trailing {options : TrailingSpaces}
    (h : Mends doc line (.trailingSpaces options) edit) :
    Settles (.trailingSpaces options) line (Edit.splice ending 0 [edit] line.text) := by
  have whole := trimEnd_append_tailOf (· == ' ') line.text
  have width := length_trimEnd_add_length_tailOf (· == ' ') line.text
  have cut : Edit.splice ending 0 [edit] line.text = trimEnd (· == ' ') line.text := by
    cases h with
    | trailing =>
      have spliced := Edit.splice_singleton ending
        (.deleting line.number ((trimEnd (· == ' ') line.text).length + 1)
          (line.text.length - (trimEnd (· == ' ') line.text).length))
        (trimEnd (· == ' ') line.text) (tailOf (· == ' ') line.text) [] rfl
        (by simp only [Edit.deleting, Edit.width_mk]; omega)
      rw [List.append_nil, whole] at spliced
      rw [spliced]
      simp [Edit.deleting, Edit.insertion]
  rw [tailOf_beq_eq_replicate] at whole
  rw [cut]
  refine ⟨?_, ?_, ?_⟩
  · rw [← Fence.parse?_append_spaces, whole]
  · rw [← InlineComment.ofLine_append_spaces, whole]
  · intro other again asked
    cases asked with
    | trailing _ found =>
      simp [Line.withText, TrailingSpaces.checkLine, trimEnd_trimEnd] at found

theorem settles_unspaced {options : MissingSpace} (h : Mends doc line (.missingSpace options) edit) :
    Settles (.missingSpace options) line (Edit.splice ending 0 [edit] line.text) := by
  obtain ⟨indent, level, rest, eq, positive, head, rfl⟩ := h.unspaced_hashLine
  rw [eq, Edit.splice_unspaced]
  have space : '<' ∉ [' '] := by decide
  refine .of_hashLine eq positive (InlineComment.ofLine_append space rest)
    fun other again asked => ?_
  cases asked with
  | unspaced _ found =>
    rw [Line.withText, lacksSpace_hashLine positive rfl] at found
    cases found

theorem settles_spaced {options : MultipleSpace} (h : Mends doc line (.multipleSpace options) edit) :
    Settles (.multipleSpace options) line (Edit.splice ending 0 [edit] line.text) := by
  cases h with
  | @spaced _ heading found several content =>
    obtain ⟨spacing, closing, blanks, layout⟩ :=
      Heading.layout_of_parse? (Line.heading?_eq_some.1 found).2
    have length := layout.length_spacing
    obtain ⟨blank, more, rfl⟩ : ∃ blank more, spacing = blank :: more :=
      List.exists_cons_of_length_pos (by omega)
    obtain ⟨first, others⟩ := List.forall_mem_cons.1 layout.spacing_blank
    have plain : ∀ c, isSpaceOrTab c = true → c ≠ '<' := by
      rintro c blank rfl
      cases blank
    obtain ⟨c, core, eq⟩ := List.exists_cons_of_ne_nil content
    have stops : isSpaceOrTab c = false := layout.first c (by rw [eq]; rfl)
    -- One blank is left behind the hashes.
    have cut : Edit.splice ending 0
        [.deleting line.number (heading.indent + heading.level + 2) (heading.spacing - 1)]
          line.text =
            hashLine heading.indent heading.level
              (blank :: ((heading.content ++ closing) ++ blanks)) := by
      rw [layout.line_eq]
      exact Edit.splice_hashLine ending _ [blank] more _ rfl (by simp [Edit.deleting, ← length])
    rw [cut]
    refine .of_hashLine layout.line_eq layout.level_pos ?_ fun other again asked => ?_
    · have one : '<' ∉ [blank] := by simpa using (plain blank first).symm
      have all : '<' ∉ blank :: more := fun mark => plain _ (layout.spacing_blank _ mark) rfl
      exact (InlineComment.ofLine_append one _).trans (InlineComment.ofLine_append all _).symm
    · cases asked with
      | spaced parsed wide =>
        have parsed := (Line.heading?_eq_some.1 parsed).2
        rw [Line.withText, Heading.parse?_hashLine layout.indent_le layout.level_pos
          layout.level_le (by simpa using first), Option.some.injEq] at parsed
        rw [← parsed, eq] at wide
        simp [first, stops] at wide

theorem settles_indented {options : HeadingStart} (h : Mends doc line (.headingStart options) edit) :
    Settles (.headingStart options) line (Edit.splice ending 0 [edit] line.text) := by
  cases h with
  | @indented _ heading found indent =>
    obtain ⟨spacing, tail, shape⟩ := Heading.shape_of_parse? (Line.heading?_eq_some.1 found).2
    have moved := Edit.splice_singleton ending (.deleting line.number 1 heading.indent) []
      (List.replicate heading.indent ' ')
      (List.replicate heading.level '#' ++ (spacing ++ (heading.content ++ tail))) rfl
      List.length_replicate.symm
    have cut : Edit.splice ending 0 [.deleting line.number 1 heading.indent] line.text =
        hashLine 0 heading.level (spacing ++ (heading.content ++ tail)) := by
      rw [shape.line_eq]
      exact moved
    have head : (spacing ++ (heading.content ++ tail)).head? ≠ some '#' := by
      intro hash
      have spaced := shape.spaced
      rw [hash] at spaced
      cases spaced
    rw [cut]
    refine .of_hashLine shape.line_eq shape.level_pos rfl fun other again asked => ?_
    cases asked with
    | indented parsed left =>
      have parsed := (Line.heading?_eq_some.1 parsed).2
      rw [(Heading.of_parse?_hashLine shape.level_pos head parsed).1] at left
      exact absurd left (Nat.lt_irrefl 0)

variable {rule : Rule} (each : rule.mendsLines = true)

include each

theorem settles (h : Mends doc line rule edit) :
    Settles rule line (Edit.splice ending 0 [edit] line.text) := by
  cases rule with
  | trailingSpaces => exact h.settles_trailing ending
  | missingSpace => exact h.settles_unspaced ending
  | multipleSpace => exact h.settles_spaced ending
  | headingStart => exact h.settles_indented ending
  | _ => cases each

/-- The rule asks for one edit on a line. -/
theorem eq_of_mendsLines {other : Edit} (h : Mends doc line rule edit)
    (again : Mends doc line rule other) : other = edit := by
  cases h with
  | trailing | unspaced =>
    cases again
    rfl
  | spaced found =>
    cases again with
    | spaced parsed =>
      obtain rfl := Option.some.inj (found.symm.trans parsed)
      rfl
  | indented found =>
    cases again with
    | indented parsed =>
      obtain rfl := Option.some.inj (found.symm.trans parsed)
      rfl
  | _ => cases each

/-- What the rule asks for on a line does not depend on the other lines. -/
theorem of_mendsLines (h : Mends doc line rule edit) (other : Document) :
    Mends other line rule edit := by
  cases h with
  | trailing prose found => exact .trailing prose found
  | unspaced prose found => exact .unspaced prose found
  | spaced found several content => exact .spaced found several content
  | indented found indent => exact .indented found indent
  | _ => cases each

end Mends

namespace Ruleset

variable {ruleset : Ruleset} {configured : ConfiguredRule} {text : List Char} {line : Line}
  (alone : ruleset.rules = [configured]) (each : configured.rule.mendsLines = true)

include alone each

theorem enables_eq_false_of_mendsLines :
    ruleset.enables .multipleBlanks = false ∧ ruleset.enables .finalNewline = false := by
  rw [enables_of_alone alone, enables_of_alone alone, ConfiguredRule.id]
  generalize configured.rule = rule at each
  cases rule with
  | trailingSpaces | missingSpace | multipleSpace | headingStart => exact ⟨rfl, rfl⟩
  | _ => cases each

theorem mended_of_mends (stored : Stored text) (member : line ∈ Line.ofText text)
    (left : (Document.ofText text).suppresses line.number configured.id = false) {edit : Edit}
    (mends : Mends (.ofText text) line configured.rule edit) :
    ruleset.mended text line = Edit.splice (lineEnding text) 0 [edit] line.text := by
  have off := enables_eq_false_of_mendsLines alone each
  have only (other : Edit) : ruleset.Asks text line other ↔ other ∈ [edit] := by
    rw [asks_iff_of_alone alone, List.mem_singleton]
    constructor
    · rintro ⟨-, again⟩
      exact mends.eq_of_mendsLines each again
    · rintro rfl
      exact ⟨left, mends⟩
  have inner : newline line ∉ [edit] := by
    intro found
    have ends := (mends.of_mem_insert (List.mem_singleton.1 found ▸ List.mem_singleton.2 rfl)).1
    have on := enables_of_alone alone .finalNewline
    rw [ConfiguredRule.id, ends, decide_eq_true rfl, off.2] at on
    cases on
  rw [mended, acting_eq stored member (deletes_eq_false_of_off off.1 member)
    (List.pairwise_singleton ..) only inner]

/-- A line where the rule is on is settled, and one where it is off stays. -/
theorem mended_of_mendsLines (stored : Stored text) (member : line ∈ Line.ofText text) :
    Settles configured.rule line (ruleset.mended text line) ∨
      (Document.ofText text).suppresses line.number configured.id = true ∧
        ruleset.mended text line = line.text := by
  cases left : (Document.ofText text).suppresses line.number configured.id with
  | true =>
    refine .inr ⟨rfl, mended_eq_self member fun edit asks => ?_⟩
    rw [asks_iff_of_alone alone, left] at asks
    cases asks.1
  | false =>
    left
    by_cases asked : ∃ edit, Mends (.ofText text) line configured.rule edit
    · obtain ⟨edit, mends⟩ := asked
      rw [mended_of_mends alone each stored member left mends]
      exact mends.settles _ each
    · rw [mended_eq_self member fun edit asks =>
        asked ⟨edit, ((asks_iff_of_alone alone).1 asks).2⟩]
      exact ⟨rfl, rfl, fun doc edit mends => asked ⟨edit, mends.of_mendsLines each _⟩⟩

theorem lint_repair_of_mendsLines (stored : Stored text) :
    ruleset.lint (repair text (ruleset.lint text)) = [] := by
  obtain ⟨blanks, newline⟩ := enables_eq_false_of_mendsLines alone each
  have settled {line : Line} (member : line ∈ Line.ofText text) :=
    mended_of_mendsLines alone each stored member
  have after := Document.ofText_eq_map (lines_repair_of_off stored blanks newline)
    (fun line member => by
      rcases settled member with ⟨fence, -, -⟩ | ⟨-, same⟩
      · exact fence
      · rw [same])
    (fun line member => by
      rcases settled member with ⟨-, comments, -⟩ | ⟨-, same⟩
      · exact comments
      · rw [same])
  have fixable : configured.id.fixable = true := by
    rw [ConfiguredRule.id]
    generalize configured.rule = rule at each
    cases rule <;> first | rfl | cases each
  rw [lint_eq_nil_iff_not_asks alone fixable]
  intro line member edit asks
  have listed : line ∈ (Document.ofText (repair text (ruleset.lint text))).lines := member
  rw [after] at listed
  obtain ⟨before, found, rfl⟩ := List.mem_map.1 listed
  obtain ⟨left, mends⟩ := (asks_iff_of_alone alone).1 asks
  -- A line that was repaired is settled, and on any other the rule is off as before.
  rcases settled found with ⟨-, -, silent⟩ | ⟨off, -⟩
  · exact silent _ edit mends
  · rw [after] at left
    exact absurd (off.symm.trans left) (by decide)

end Ruleset

end DocCheck
