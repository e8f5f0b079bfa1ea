import DocCheck.Document
import DocCheck.Proofs.TextEnds

set_option autoImplicit false

namespace DocCheck

open Text

namespace Fence

/-- What decides whether a fence opens or ends a block. -/
structure Outline where
  mark : FenceMark
  length : Nat
  /-- No info string follows. -/
  bare : Bool
  deriving DecidableEq, Repr

def outline (fence : Fence) : Outline :=
  ⟨fence.mark, fence.length, fence.info.isEmpty⟩

def outline? (text : List Char) : Option Outline :=
  (parse? text).map outline

def Outline.closes (opener drawn : Outline) : Bool :=
  drawn.mark = opener.mark && opener.length ≤ drawn.length && drawn.bare

theorem closes_outline (opener fence : Fence) :
    opener.outline.closes fence.outline = opener.closes fence :=
  rfl

def after (opener : Option Outline) : Option Outline → Option Outline
  | none => opener
  | some drawn =>
    match opener with
    | none => some drawn
    | some begun => if begun.closes drawn then none else opener

/-- Which lines are code, from the outlines they draw. -/
def codeFrom (opener : Option Outline) : List (Option Outline) → List Bool
  | [] => []
  | drawn :: rest => (opener.isSome || drawn.isSome) :: codeFrom (after opener drawn) rest

/-- Outlines decide which lines are code. -/
theorem map_isCode_kindsFrom (opener : Option Fence) (texts : List (List Char)) :
    (Line.kindsFrom opener texts).map LineKind.isCode =
      codeFrom (opener.map outline) (texts.map outline?) := by
  fun_induction Line.kindsFrom opener texts with
  | case1 => rfl
  | case2 text rest none ih =>
    rw [List.map_cons, List.map_cons, codeFrom, outline?, none, ih]
    rfl
  | case3 text rest fence drawn ih =>
    rw [List.map_cons, List.map_cons, codeFrom, outline?, drawn, ih]
    rfl
  | case4 text rest opener fence drawn closes ih =>
    rw [List.map_cons, List.map_cons, codeFrom, outline?, drawn, ih]
    simp [LineKind.isCode, after, closes_outline, closes]
  | case5 text rest opener fence drawn open_ ih =>
    rw [List.map_cons, List.map_cons, codeFrom, outline?, drawn, ih]
    simp [LineKind.isCode, after, closes_outline, open_]
  | case6 text rest opener none ih =>
    rw [List.map_cons, List.map_cons, codeFrom, outline?, none, ih]
    rfl

theorem codeFrom_append_isPrefix (opener : Option Outline) (front back : List (Option Outline)) :
    codeFrom opener front <+: codeFrom opener (front ++ back) := by
  induction front generalizing opener with
  | nil => exact List.nil_prefix
  | cons drawn front ih =>
    rw [List.cons_append, codeFrom, codeFrom]
    exact List.cons_prefix_cons.2 ⟨rfl, ih _⟩

/-- Lines that draw no fence can be left out, inside and outside of blocks. -/
theorem codeFrom_filter {α : Type} (draws : α → Option Outline) (keep : α → Bool) {as : List α}
    (h : ∀ a ∈ as, keep a = false → draws a = none) (opener : Option Outline) :
    codeFrom opener ((as.filter keep).map draws) =
      ((as.zip (codeFrom opener (as.map draws))).filter fun entry => keep entry.1).map
        Prod.snd := by
  induction as generalizing opener with
  | nil => rfl
  | cons a as ih =>
    obtain ⟨head, tail⟩ := List.forall_mem_cons.1 h
    rw [List.map_cons, codeFrom, List.zip_cons_cons]
    cases kept : keep a with
    | true =>
      rw [List.filter_cons_of_pos kept, List.filter_cons_of_pos (by simpa using kept),
        List.map_cons, List.map_cons, codeFrom, ih tail]
    | false =>
      have stays : after opener (draws a) = opener := by rw [head kept]; rfl
      rw [List.filter_cons_of_neg (by simp [kept]), List.filter_cons_of_neg (by simp [kept]), stays,
        ih tail]

theorem ofHead?_cons_append (c : Char) (drawn tail : List Char) :
    FenceMark.ofHead? (c :: drawn ++ tail) = FenceMark.ofHead? (c :: drawn) := by
  rw [List.cons_append]
  by_cases backquote : c = '\x60'
  · rw [backquote]
    rfl
  · by_cases tilde : c = '~'
    · rw [tilde]
      rfl
    · rw [FenceMark.ofHead?.eq_3, FenceMark.ofHead?.eq_3] <;> simp [backquote, tilde]

/-- Spaces at the end of a line change no fence. -/
theorem parse?_append_spaces (text : List Char) (count : Nat) :
    parse? (text ++ List.replicate count ' ') = parse? text := by
  have whole := replicate_append_dropWhile ' ' text
  have head := head?_dropWhile_ne ' ' text
  have blank : ∀ c ∈ List.replicate count ' ', isBlank c = true := by
    intro c found
    rw [List.eq_of_mem_replicate found]
    rfl
  rcases drawn : text.dropWhile (· == ' ') with _ | ⟨c, rest⟩
  · rw [drawn, List.append_nil] at whole
    have none : (text ++ List.replicate count ' ').dropWhile (· == ' ') = [] := by
      rw [← whole, List.replicate_append_replicate]
      simp
    simp only [parse?, none, drawn]
    rfl
  · rw [drawn] at whole head
    have longer : (c :: rest ++ List.replicate count ' ').head? ≠ some ' ' := head
    have indent : ((text ++ List.replicate count ' ').takeWhile (· == ' ')).length =
        (text.takeWhile (· == ' ')).length := by
      rw [← whole, List.append_assoc, takeWhile_replicate_append longer,
        takeWhile_replicate_append head]
    have behind : (text ++ List.replicate count ' ').dropWhile (· == ' ') =
        c :: rest ++ List.replicate count ' ' := by
      rw [← whole, List.append_assoc, dropWhile_replicate_append longer]
    simp only [parse?, indent, behind, drawn, ofHead?_cons_append]
    rcases FenceMark.ofHead? (c :: rest) with _ | mark
    · rfl
    · have other : ' ' ≠ mark.toChar := by cases mark <;> decide
      simp only [Option.bind_some, takeWhile_append_replicate other,
        dropWhile_append_replicate other, trim_append_of_all blank]

end Fence

end DocCheck
