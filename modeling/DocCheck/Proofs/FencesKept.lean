import DocCheck.Proofs.Answer
import DocCheck.Proofs.FenceOutline
import DocCheck.Proofs.PlainEdits
import DocCheck.Ruleset.Standard

set_option autoImplicit false

namespace DocCheck

open Text

namespace HardTabs

theorem expand_replicate_append (options : HardTabs) {c : Char} (h : c ≠ '\t') (count : Nat)
    (rest : List Char) :
    options.expand (List.replicate count c ++ rest) =
      List.replicate count c ++ options.expand rest := by
  induction count with
  | zero => rfl
  | succ count ih =>
    rw [List.replicate_succ, List.cons_append, expand, expandFrom_cons options h, ih, spaces_zero,
      List.nil_append, List.cons_append]

theorem expand_hashLine (options : HardTabs) (indent level : Nat) (rest : List Char) :
    options.expand (hashLine indent level rest) = hashLine indent level (options.expand rest) := by
  rw [hashLine, expand_replicate_append options (by decide),
    expand_replicate_append options (by decide), hashLine]

theorem mem_expandFrom {options : HardTabs} {tabs : Nat} {text : List Char} {c : Char}
    (h : c ∈ options.expandFrom tabs text) : c ∈ text ∨ c = ' ' := by
  fun_induction expandFrom options tabs text with
  | case1 tabs => exact .inr (options.eq_space_of_mem_spaces h)
  | case2 tabs rest ih =>
    rcases ih h with there | space
    · exact .inl (List.mem_cons_of_mem _ there)
    · exact .inr space
  | case3 tabs d rest _ ih =>
    rcases List.mem_append.1 h with space | h
    · exact .inr (options.eq_space_of_mem_spaces space)
    · rcases List.mem_cons.1 h with rfl | h
      · exact .inl (List.mem_cons_self ..)
      · rcases ih h with there | space
        · exact .inl (List.mem_cons_of_mem _ there)
        · exact .inr space

end HardTabs

/-- A blank line draws no fence. -/
theorem Fence.parse?_of_blank {text : List Char} (blank : ∀ c ∈ text, isBlank c = true) :
    parse? text = none := by
  have inside : ∀ c ∈ text.dropWhile (· == ' '), isBlank c = true := fun c found =>
    blank c ((List.dropWhile_suffix _).subset found)
  rw [parse?]
  rcases drawn : text.dropWhile (· == ' ') with _ | ⟨c, rest⟩
  · rfl
  · rw [drawn] at inside
    have first := inside c (List.mem_cons_self ..)
    have backquote : c ≠ '\x60' := by
      rintro rfl
      exact absurd first (by decide)
    have tilde : c ≠ '~' := by
      rintro rfl
      exact absurd first (by decide)
    rw [FenceMark.ofHead?.eq_3]
    · rfl
    all_goals simp [backquote, tilde]

theorem Line.map_isCode_ofText (text : List Char) :
    (ofText text).map (·.kind.isCode) =
      Fence.codeFrom none ((lines text).map Fence.outline?) := by
  calc (ofText text).map (·.kind.isCode)
    _ = ((ofText text).map Line.kind).map LineKind.isCode := by rw [List.map_map]; rfl
    _ = (kindsFrom none (lines text)).map LineKind.isCode := by rw [map_kind_ofText]
    _ = Fence.codeFrom none ((lines text).map Fence.outline?) :=
      Fence.map_isCode_kindsFrom none (lines text)

namespace Ruleset

variable {ruleset : Ruleset} {text : List Char} {line : Line}

/-- The line with its tabs expanded, if they are reported. -/
def untabbedText (ruleset : Ruleset) (text : List Char) (line : Line) : List Char :=
  ruleset.untabbed text line line.text

/-- Expanding tabs commutes with spaces at the end. -/
theorem untabbed_append_spaces (part : List Char) (count : Nat) :
    ruleset.untabbed text line (part ++ List.replicate count ' ') =
      ruleset.untabbed text line part ++ List.replicate count ' ' := by
  rw [untabbed, untabbed]
  split
  · rfl
  · rename_i options _
    exact options.expandFrom_append_spaces 0 part count

theorem parse?_untabbed_trimmed :
    Fence.parse? (ruleset.untabbed text line (ruleset.trimmed text line)) =
      Fence.parse? (ruleset.untabbedText text line) := by
  rw [trimmed, untabbedText]
  split
  · have whole := trimEnd_append_tailOf (· == ' ') line.text
    rw [tailOf_beq_eq_replicate] at whole
    calc Fence.parse? (ruleset.untabbed text line (trimEnd (· == ' ') line.text))
      _ = Fence.parse? (ruleset.untabbed text line (trimEnd (· == ' ') line.text) ++
          List.replicate (tailOf (· == ' ') line.text).length ' ') :=
        (Fence.parse?_append_spaces _ _).symm
      _ = Fence.parse? (ruleset.untabbed text line line.text) := by
        rw [← untabbed_append_spaces, whole]
  · rfl

/-- Of the edits of a kept line only those that expand tabs change the fence that it draws. -/
theorem parse?_mended (stored : Stored text) (member : line ∈ Line.ofText text)
    (kept : ruleset.deletes text line = false) :
    Fence.parse? (ruleset.mended text line) = Fence.parse? (ruleset.untabbedText text line) := by
  rcases plain_or_hashLine line.text with plain | ⟨indent, level, rest, eq, positive, head⟩
  · rw [mended_plain stored member kept plain, parse?_untabbed_trimmed]
  · obtain ⟨_, right, spaces, -, -, -, -, mended⟩ :=
      mended_hashLine stored member kept eq positive head
    rw [mended, Fence.parse?_hashLine positive, untabbedText, untabbed, eq]
    split
    · rw [Fence.parse?_hashLine positive]
    · rename_i options _
      rw [options.expand_hashLine, Fence.parse?_hashLine positive]

/-- A deleted line draws no fence, also when its tabs are expanded. -/
theorem parse?_of_deletes (member : line ∈ Line.ofText text)
    (gone : ruleset.deletes text line = true) :
    Fence.parse? (ruleset.untabbedText text line) = none := by
  obtain ⟨_, -, -, mends⟩ := (deletes_iff member).1 gone
  have blank := List.all_eq_true.1 (mends.of_deletes rfl).2.2
  apply Fence.parse?_of_blank
  intro c found
  rw [untabbedText, untabbed] at found
  split at found
  · exact blank c found
  · rcases HardTabs.mem_expandFrom found with there | space
    · exact blank c there
    · rw [space]
      rfl

def untabbedCode (ruleset : Ruleset) (text : List Char) : List Bool :=
  (Line.kindsFrom none ((Line.ofText text).map (ruleset.untabbedText text))).map LineKind.isCode

theorem untabbedCode_eq : ruleset.untabbedCode text = Fence.codeFrom none
    ((Line.ofText text).map fun line => Fence.outline? (ruleset.untabbedText text line)) := by
  rw [untabbedCode, Fence.map_isCode_kindsFrom, List.map_map]
  rfl

theorem map_mended_isPrefix (ruleset : Ruleset) (stored : Stored text) :
    (ruleset.kept text).map (ruleset.mended text) <+:
      lines (repair text (ruleset.lint text)) := by
  rw [lines_repair stored]
  split
  · rename_i none
    rw [repairedLines_eq] at none
    rw [(List.append_eq_nil_iff.1 none).1]
    exact List.nil_prefix
  · rw [repairedLines_eq]
    exact List.prefix_append _ _

/-- The lines that a pass keeps are classified as once the reported tabs are expanded. -/
theorem code_isPrefix (ruleset : Ruleset) (stored : Stored text) :
    (((Line.ofText text).zip (ruleset.untabbedCode text)).filter fun entry =>
        !ruleset.deletes text entry.1).map Prod.snd <+:
      (Line.ofText (repair text (ruleset.lint text))).map (·.kind.isCode) := by
  have draws : ∀ line ∈ Line.ofText text, (!ruleset.deletes text line) = false →
      Fence.outline? (ruleset.untabbedText text line) = none := by
    intro line member gone
    rw [Fence.outline?, parse?_of_deletes member (by simpa using gone)]
    rfl
  have same : ((Line.ofText text).filter fun line => !ruleset.deletes text line).map
      (fun line => Fence.outline? (ruleset.untabbedText text line)) =
        ((ruleset.kept text).map (ruleset.mended text)).map Fence.outline? := by
    rw [List.map_map]
    apply List.map_congr_left
    intro line found
    obtain ⟨member, kept⟩ := mem_kept.1 found
    rw [Function.comp, Fence.outline?, Fence.outline?, parse?_mended stored member kept]
  obtain ⟨tail, made⟩ := ruleset.map_mended_isPrefix stored
  rw [untabbedCode_eq, ← Fence.codeFrom_filter _ _ draws none, same, Line.map_isCode_ofText, ← made,
    List.map_append]
  exact Fence.codeFrom_append_isPrefix _ _ _

theorem filter_zip_map {α β : Type} (keep : α → Bool) (f : α → β) (as : List α) :
    ((as.zip (as.map f)).filter fun entry => keep entry.1).map Prod.snd =
      (as.filter keep).map f := by
  induction as with
  | nil => rfl
  | cons a as ih =>
    rw [List.map_cons, List.zip_cons_cons]
    cases h : keep a <;> simp [h, ih]

/-- Where the expanded tabs change no fence, the lines are classified as they were. -/
theorem untabbedCode_eq_of_outline
    (same : ∀ line ∈ Line.ofText text,
      Fence.outline? (ruleset.untabbedText text line) = Fence.outline? line.text) :
    ruleset.untabbedCode text = (Line.ofText text).map (·.kind.isCode) := by
  rw [untabbedCode_eq, Line.map_isCode_ofText, ← Line.map_text_ofText, List.map_map]
  exact congrArg (Fence.codeFrom none) (List.map_congr_left same)

end Ruleset

/-- A fixed text begins with the kept lines, each mended, and classifies them as the submitted text
with its reported tabs expanded. When that changes no fence, a kept line is code in the fixed text
exactly when it was in the submitted text. -/
theorem isCode_fixedText (ruleset : Ruleset) (submission : Submission) (fixed : List Char)
    (stored : Stored submission.text)
    (h : (Engine.standard.answer (m := Id) ruleset submission true).fixedText = some fixed) :
    (ruleset.kept submission.text).map (ruleset.mended submission.text) <+: lines fixed ∧
    (((Line.ofText submission.text).zip (ruleset.untabbedCode submission.text)).filter fun entry =>
        !ruleset.deletes submission.text entry.1).map Prod.snd <+:
      (Line.ofText fixed).map (·.kind.isCode) ∧
    ((∀ line ∈ Line.ofText submission.text,
        Fence.outline? (ruleset.untabbedText submission.text line) = Fence.outline? line.text) →
      (ruleset.kept submission.text).map (·.kind.isCode) <+:
        (Line.ofText fixed).map (·.kind.isCode)) := by
  obtain ⟨rfl, -⟩ := Engine.standard_fixedText h
  have code := ruleset.code_isPrefix stored
  refine ⟨ruleset.map_mended_isPrefix stored, code, fun same => ?_⟩
  rw [Ruleset.untabbedCode_eq_of_outline same,
    Ruleset.filter_zip_map fun line => !ruleset.deletes submission.text line] at code
  exact code

/-- A tab inside a block is expanded, and the block stays what it was. -/
theorem isCode_fixedText_block :
    [true, true, true, false] <+: (Line.ofText "~~~c\n x\n~~~\n".toList).map (·.kind.isCode) :=
  (isCode_fixedText .embedded ⟨"readme", "~~~c\n\tx\n~~~\n".toList⟩ "~~~c\n x\n~~~\n".toList
    (by decide) (by cbv)).2.2 (by decide +kernel)

/-- A tab before `~~~` becomes a space, and what follows becomes code. -/
theorem not_isCode_fixedText :
    ¬ ∀ (ruleset : Ruleset) (submission : Submission) (fixed : List Char),
      Stored submission.text →
      (Engine.standard.answer (m := Id) ruleset submission true).fixedText = some fixed →
      (ruleset.kept submission.text).map (·.kind.isCode) <+:
        (Line.ofText fixed).map (·.kind.isCode) := by
  intro kept
  have code := kept .embedded ⟨"readme", "\t~~~\nx\n".toList⟩ " ~~~\nx\n".toList (by decide)
    (by cbv)
  revert code
  decide +kernel

end DocCheck
