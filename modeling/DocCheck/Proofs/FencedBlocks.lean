import DocCheck.Proofs.NumberedLines
import DocCheck.Proofs.TextEnds

set_option autoImplicit false

namespace DocCheck

open Text

namespace Fence

/-- A fence line is spaces, a run of marks, and text whose ends are trimmed for the info string. -/
theorem exists_of_parse? {text : List Char} {fence : Fence} (h : parse? text = some fence) :
    ∃ indent after, text = List.replicate indent ' ' ++
        (List.replicate fence.length fence.mark.toChar ++ after) ∧
      after.head? ≠ some fence.mark.toChar ∧ fence.info = trim after := by
  obtain ⟨mark, -, h⟩ := Option.bind_eq_some_iff.1 h
  simp only at h
  split at h
  · obtain rfl := Option.some.inj h
    refine ⟨(text.takeWhile (· == ' ')).length,
      (text.dropWhile (· == ' ')).dropWhile (· == mark.toChar), ?_, head?_dropWhile_ne _ _, rfl⟩
    rw [replicate_append_dropWhile, replicate_append_dropWhile]
  · cases h

end Fence

namespace Line

/-- The line draws a fence of the same mark as the opener, at least as long and without an info
string. -/
def Ends (opener : Fence) (line : Line) : Prop :=
  ∃ fence, Fence.parse? line.text = some fence ∧ fence.mark = opener.mark ∧
    opener.length ≤ fence.length ∧ fence.info = []

/-- The line begins a block with the fence that it draws. It carries what follows the run of marks,
without the blanks around it. -/
structure Opens (fence : Fence) (line : Line) : Prop where
  drawn : Fence.parse? line.text = some fence
  kind : line.kind = .fenceOpen fence.info
  trimmed : ∃ indent after, line.text = List.replicate indent ' ' ++
      (List.replicate fence.length fence.mark.toChar ++ after) ∧
    after.head? ≠ some fence.mark.toChar ∧ fence.info = trim after

structure Inside (opener : Fence) (line : Line) : Prop where
  kind : line.kind = .code
  stays : ¬ Ends opener line

structure Closes (opener : Fence) (line : Line) : Prop where
  kind : line.kind = .fenceClose
  ends : Ends opener line

/-- Prose lines and blocks. Only the last block may lack its closing fence. -/
inductive Blocks : List Line → Prop
  | nil : Blocks []
  | prose {line : Line} {rest : List Line} (kind : line.kind = .prose)
      (plain : Fence.parse? line.text = none) (others : Blocks rest) : Blocks (line :: rest)
  | block {fence : Fence} {opener closer : Line} {body rest : List Line} (opens : Opens fence opener)
      (inside : ∀ line ∈ body, Inside fence line) (closes : Closes fence closer)
      (others : Blocks rest) : Blocks (opener :: (body ++ closer :: rest))
  | unclosed {fence : Fence} {opener : Line} {body : List Line} (opens : Opens fence opener)
      (inside : ∀ line ∈ body, Inside fence line) : Blocks (opener :: body)

/-- What may follow a line, where `opener` is the fence of the block that is open behind it. -/
def Continues (opener : Option Fence) (lines : List Line) : Prop :=
  match opener with
  | none => Blocks lines
  | some fence => ∃ body, (∀ line ∈ body, Inside fence line) ∧
      (lines = body ∨
        ∃ closer rest, lines = body ++ closer :: rest ∧ Closes fence closer ∧ Blocks rest)

theorem Continues.cons {fence : Fence} {line : Line} {lines : List Line} (inside : Inside fence line)
    (h : Continues (some fence) lines) : Continues (some fence) (line :: lines) := by
  obtain ⟨body, all, h⟩ := h
  refine ⟨line :: body, List.forall_mem_cons.2 ⟨inside, all⟩, ?_⟩
  rcases h with rfl | ⟨closer, rest, rfl, closes, others⟩
  · exact .inl rfl
  · exact .inr ⟨closer, rest, rfl, closes, others⟩

theorem Continues.blocks {fence : Fence} {opener : Line} {lines : List Line}
    (opens : Opens fence opener) (h : Continues (some fence) lines) : Blocks (opener :: lines) := by
  obtain ⟨body, inside, rfl | ⟨closer, rest, rfl, closes, others⟩⟩ := h
  · exact .unclosed opens inside
  · exact .block opens inside closes others

theorem ends_iff_closes {opener fence : Fence} {line : Line}
    (drawn : Fence.parse? line.text = some fence) :
    Ends opener line ↔ opener.closes fence = true := by
  simp [Ends, drawn, Fence.closes, and_assoc]

theorem not_ends_of_none {opener : Fence} {line : Line} (plain : Fence.parse? line.text = none) :
    ¬ Ends opener line := by
  rintro ⟨fence, drawn, -⟩
  rw [plain] at drawn
  cases drawn

/-- The lines are classified so that each block ends where it may. -/
theorem continues_numberFrom (opener : Option Fence) (first : Nat) (texts : List (List Char)) :
    Continues opener (numberFrom first texts (kindsFrom opener texts)) := by
  -- On the lines, with the fence of the block that is open before them.
  fun_induction kindsFrom opener texts generalizing first with
  | case1 opener =>
    cases opener with
    | none => exact .nil
    | some fence => exact ⟨[], by simp, .inl rfl⟩
  | case2 text rest plain ih => exact .prose rfl plain (ih (first + 1))
  | case3 text rest fence drawn ih =>
    exact (ih (first + 1)).blocks ⟨drawn, rfl, Fence.exists_of_parse? drawn⟩
  | case4 text rest opener fence drawn closes ih =>
    refine ⟨[], by simp, .inr ⟨_, _, rfl, ⟨rfl, ?_⟩, ih (first + 1)⟩⟩
    exact (ends_iff_closes drawn).2 closes
  | case5 text rest opener fence drawn stays ih =>
    exact (ih (first + 1)).cons ⟨rfl, mt (ends_iff_closes drawn).1 stays⟩
  | case6 text rest opener plain ih =>
    exact (ih (first + 1)).cons ⟨rfl, not_ends_of_none plain⟩

theorem kindsFrom_of_ends {opener : Fence} {line : Line} (h : Ends opener line)
    (texts : List (List Char)) :
    kindsFrom (some opener) (line.text :: texts) = .fenceClose :: kindsFrom none texts := by
  obtain ⟨fence, drawn, -⟩ := id h
  rw [ends_iff_closes drawn] at h
  simp only [kindsFrom, drawn, h, if_true]

theorem kindsFrom_of_not_ends {opener : Fence} {line : Line} (h : ¬ Ends opener line)
    (texts : List (List Char)) :
    kindsFrom (some opener) (line.text :: texts) = .code :: kindsFrom (some opener) texts := by
  rcases drawn : Fence.parse? line.text with _ | fence
  · simp only [kindsFrom, drawn]
  · rw [ends_iff_closes drawn] at h
    rw [Bool.not_eq_true] at h
    simp only [kindsFrom, drawn, h, Bool.false_eq_true, if_false]

/-- The lines inside a block leave it open. -/
theorem kindsFrom_append {fence : Fence} {body : List Line}
    (inside : ∀ line ∈ body, Inside fence line) (texts : List (List Char)) :
    kindsFrom (some fence) (body.map Line.text ++ texts) =
      body.map Line.kind ++ kindsFrom (some fence) texts := by
  induction body with
  | nil => rfl
  | cons line body ih =>
    obtain ⟨head, tail⟩ := List.forall_mem_cons.1 inside
    rw [List.map_cons, List.cons_append, kindsFrom_of_not_ends head.stays, ih tail, List.map_cons,
      head.kind, List.cons_append]

/-- The texts decide how lines fall into prose and blocks. -/
theorem Blocks.map_kind {lines : List Line} (h : Blocks lines) :
    lines.map Line.kind = kindsFrom none (lines.map Line.text) := by
  induction h with
  | nil => rfl
  | prose kind plain _ ih =>
    rw [List.map_cons, List.map_cons, kind, ih]
    simp only [kindsFrom, plain]
  | @block fence opener closer body rest opens inside closes _ ih =>
    have behind : kindsFrom (some fence) ((body ++ closer :: rest).map Line.text) =
        (body ++ closer :: rest).map Line.kind := by
      rw [List.map_append, List.map_append, kindsFrom_append inside, List.map_cons, List.map_cons,
        kindsFrom_of_ends closes.ends, closes.kind, ih]
    rw [List.map_cons, List.map_cons, ← behind, opens.kind]
    simp only [kindsFrom, opens.drawn]
  | @unclosed fence opener body opens inside =>
    have behind : kindsFrom (some fence) (body.map Line.text) = body.map Line.kind := by
      have whole := kindsFrom_append inside []
      rwa [List.append_nil, kindsFrom, List.append_nil] at whole
    rw [List.map_cons, List.map_cons, ← behind, opens.kind]
    simp only [kindsFrom, opens.drawn]

theorem eq_of_map_eq {a b : List Line}
    (places : a.map (fun line => (line.text, line.number)) =
      b.map fun line => (line.text, line.number))
    (kinds : a.map Line.kind = b.map Line.kind) : a = b := by
  induction a generalizing b with
  | nil => exact (List.map_eq_nil_iff.1 places.symm).symm
  | cons line rest ih =>
    cases b with
    | nil => cases kinds
    | cons other others =>
      obtain ⟨place, places⟩ := List.cons.inj places
      obtain ⟨kind, kinds⟩ := List.cons.inj kinds
      obtain ⟨text, number⟩ := Prod.mk.inj place
      rw [ih places kinds]
      cases line
      cases other
      simp_all

/-- The lines of a document are those of the text in order, numbered from one, and prose and blocks
as the texts of the lines have it. -/
theorem eq_ofText_iff (text : List Char) (document : List Line) :
    document = ofText text ↔
      document.map (fun line => (line.text, line.number)) = (lines text).zipIdx 1 ∧
        Blocks document := by
  constructor
  · rintro rfl
    exact ⟨(zipIdx_lines text).symm, continues_numberFrom none 1 (lines text)⟩
  · rintro ⟨places, blocks⟩
    have whole : Blocks (ofText text) := continues_numberFrom none 1 (lines text)
    have texts : document.map Line.text = (ofText text).map Line.text := by
      have first := congrArg (List.map Prod.fst) (places.trans (zipIdx_lines text))
      rwa [List.map_map, List.map_map] at first
    refine eq_of_map_eq (places.trans (zipIdx_lines text)) ?_
    rw [blocks.map_kind, whole.map_kind, texts]

end Line

end DocCheck
