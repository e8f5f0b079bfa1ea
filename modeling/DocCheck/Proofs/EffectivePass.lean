import DocCheck.Proofs.Convergence

set_option autoImplicit false

namespace DocCheck

open Text

namespace Edit

/-- The first edit of a line is applied, whichever others are. -/
theorem effective_ne_nil {edits : List Edit} (some : edits ≠ []) : effective edits ≠ [] := by
  obtain ⟨first, rest, rfl⟩ := List.exists_cons_of_ne_nil some
  rw [effective, applied, if_pos (clearsStart_none first)]
  simp

end Edit

namespace Ruleset

variable {ruleset : Ruleset} {text : List Char} {line : Line}

theorem length_mended_lt (stored : Stored text) (member : line ∈ Line.ofText text)
    (kept : ruleset.deletes text line = false)
    (bare : ∀ edit ∈ ruleset.acting text line, edit.insert = [])
    (acts : ruleset.acting text line ≠ []) :
    (ruleset.mended text line).length < line.text.length := by
  have counted := Edit.countP_splice_add (lineEnding text) (fun _ => true) line.text
    (ruleset.pairwise_acting stored member kept) (fun edit _ => Nat.zero_le edit.start)
  have nothing : ((ruleset.acting text line).flatMap fun edit =>
      edit.insertion (lineEnding text)) = [] := by
    rw [List.flatMap_eq_nil_iff]
    intro edit found
    rw [(acts_of_mem_acting stored member kept found).insertion_eq, bare edit found]
  obtain ⟨edit, found⟩ := List.exists_mem_of_ne_nil _ acts
  have acting := acts_of_mem_acting stored member kept found
  obtain ⟨_, -, -, mends⟩ := acting.asks
  have wide : 0 < edit.width :=
    (mends.width_pos_or acting.keeps).resolve_right fun inserts => inserts.1 (bare edit found)
  obtain ⟨c, gone⟩ := List.exists_mem_of_ne_nil _ (Edit.removed_ne_nil wide acting.start_lt)
  have removed : 0 <
      ((ruleset.acting text line).flatMap fun edit => edit.removed line.text).length :=
    List.length_pos_of_mem (List.mem_flatMap.2 ⟨edit, found, gone⟩)
  rw [nothing, List.drop_zero] at counted
  simp only [List.countP_true, List.length_nil] at counted
  rw [mended]
  omega

theorem mended_ne (stored : Stored text) (member : line ∈ Line.ofText text)
    (kept : ruleset.deletes text line = false) (acts : ruleset.acting text line ≠ []) :
    ruleset.mended text line ≠ line.text := by
  intro same
  have steady := steady_of_marks stored member kept (Nat.le_of_eq (congrArg marks same.symm))
  by_cases bare : ∀ edit ∈ ruleset.acting text line, edit.insert = []
  · have := length_mended_lt stored member kept bare acts
    rw [same] at this
    exact Nat.lt_irrefl _ this
  · -- Nothing but spaces is removed, so what is inserted is the space that the line lacks.
    simp only [not_forall] at bare
    obtain ⟨edit, found, inserts⟩ := bare
    have acting := acts_of_mem_acting stored member kept found
    obtain ⟨lacks, rfl⟩ := (acting.insert_cases (steady edit found)).resolve_left inserts
    have := weight_mended_of_unspaced stored member kept steady lacks found
    rw [same] at this
    exact Nat.lt_irrefl _ this

theorem onLine_eq_nil (stored : Stored text) (member : line ∈ Line.ofText text)
    (kept : ruleset.deletes text line = false) (stays : ruleset.ends text line = false)
    (same : ruleset.mended text line = line.text) :
    Edit.onLine line.number (ruleset.edits text) = [] := by
  have idle : ruleset.acting text line = [] :=
    Decidable.byContradiction fun acts => mended_ne stored member kept acts same
  have applied := effective_onLine stored member kept
  rw [idle, stays] at applied
  exact Decidable.byContradiction fun some => Edit.effective_ne_nil some applied

theorem edits_eq_nil (stored : Stored text)
    (idle : ∀ line ∈ Line.ofText text, ruleset.deletes text line = false ∧
      ruleset.ends text line = false ∧ ruleset.mended text line = line.text) :
    ruleset.edits text = [] := by
  rw [List.eq_nil_iff_forall_not_mem]
  intro edit found
  obtain ⟨line, member, asks⟩ := mem_edits.1 found
  obtain ⟨kept, stays, same⟩ := idle line member
  have here := (mem_onLine_edits member).2 asks
  rw [onLine_eq_nil stored member kept stays same] at here
  cases here

/-- A pass that leaves the lines of a text of several lines had nothing to apply. -/
theorem edits_eq_nil_of_lines_repair (stored : Stored text) (several : 1 < (lines text).length)
    (same : lines (repair text (ruleset.lint text)) = lines text) : ruleset.edits text = [] := by
  have stays : (ruleset.kept text).any (ruleset.ends text) = false := by
    rw [← Bool.not_eq_true]
    intro ends
    obtain ⟨before, after⟩ := lastOpen_repair_of_ends stored ends
    have level : lastOpen (repair text (ruleset.lint text)) = lastOpen text :=
      if_congr (by rw [Ended, Ended, same]) rfl rfl
    omega
  have made : (ruleset.kept text).map (ruleset.mended text) = lines text := by
    rw [lines_repair stored, repairedLines_eq, stays, if_neg Bool.false_ne_true,
      List.append_nil] at same
    split at same
    · rw [← same] at several
      exact absurd several (Nat.lt_irrefl 1)
    · exact same
  have all : ruleset.kept text = Line.ofText text := by
    refine List.filter_sublist.eq_of_length_le ?_
    rw [Line.length_ofText, ← made, List.length_map, kept]
  rw [all, ← Line.map_text_ofText] at made
  refine edits_eq_nil stored fun line member => ⟨?_, ?_, List.map_inj_left.1 made line member⟩
  · exact (mem_kept.1 (all ▸ member)).2
  · rw [Bool.eq_false_iff]
    exact List.any_eq_false.1 stays line (all ▸ member)

end Ruleset

end DocCheck
