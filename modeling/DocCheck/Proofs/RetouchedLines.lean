import DocCheck.Proofs.CommentScan
import DocCheck.Proofs.NumberedLines

set_option autoImplicit false

namespace DocCheck

open Text

namespace Line

/-- Fences decide the kinds of lines. -/
theorem kindsFrom_congr (opener : Option Fence) {as bs : List (List Char)}
    (same : as.map Fence.parse? = bs.map Fence.parse?) :
    kindsFrom opener as = kindsFrom opener bs := by
  induction as generalizing opener bs with
  | nil => rw [List.map_eq_nil_iff.1 same.symm]
  | cons text rest ih =>
    cases bs with
    | nil => cases same
    | cons other bs =>
      obtain ⟨first, others⟩ := List.cons.inj same
      have tail (opener : Option Fence) := ih opener others
      cases opener <;> simp only [kindsFrom, first, tail]

def withText (line : Line) (text : List Char) : Line :=
  { line with text }

theorem numberFrom_map (first : Nat) (f : Line → List Char) (texts : List (List Char))
    (kinds : List LineKind) :
    (numberFrom first texts kinds).map (fun line => line.withText (f line)) =
      numberFrom first ((numberFrom first texts kinds).map f) kinds := by
  induction texts generalizing first kinds with
  | nil => cases kinds <;> rfl
  | cons text texts ih =>
    cases kinds with
    | nil => rfl
    | cons kind kinds =>
      rw [numberFrom, List.map_cons, List.map_cons, numberFrom, ih]
      rfl

/-- Lines that are changed in place and draw the fences that they drew keep their kinds. -/
theorem ofText_eq_map {before after : List Char} {f : Line → List Char}
    (made : lines after = (ofText before).map f)
    (fences : ∀ line ∈ ofText before, Fence.parse? (f line) = Fence.parse? line.text) :
    ofText after = (ofText before).map fun line => line.withText (f line) := by
  have drawn : (lines after).map Fence.parse? = (lines before).map Fence.parse? := by
    rw [made, ← map_text_ofText before, List.map_map, List.map_map]
    exact List.map_congr_left fences
  rw [ofText, kindsFrom_congr none drawn, made]
  exact (numberFrom_map 1 f (lines before) _).symm

end Line

namespace Suppression

/-- Comments decide which rules are off. -/
theorem perLine_congr (state : Suppression) {as bs : List Line}
    (same : as.map Line.comments = bs.map Line.comments) : state.perLine as = state.perLine bs := by
  induction as generalizing state bs with
  | nil => rw [List.map_eq_nil_iff.1 same.symm]
  | cons a as ih =>
    cases bs with
    | nil => cases same
    | cons b bs =>
      obtain ⟨first, others⟩ := List.cons.inj same
      have step : state.line a = state.line b := by rw [line, line, first]
      rw [perLine, perLine, step, ih _ others]

end Suppression

namespace Document

variable {before after : List Char} {f : Line → List Char}

/-- Lines that are changed in place and keep their fences and comments keep their kinds and what is
off on them. -/
theorem ofText_eq_map (made : Text.lines after = (Line.ofText before).map f)
    (fences : ∀ line ∈ Line.ofText before, Fence.parse? (f line) = Fence.parse? line.text)
    (comments : ∀ line ∈ Line.ofText before,
      InlineComment.ofLine (f line) = InlineComment.ofLine line.text) :
    ofText after =
      ⟨(Line.ofText before).map fun line => line.withText (f line), (ofText before).suppressed⟩ := by
  have retouched := Line.ofText_eq_map made fences
  have same : (Line.ofText after).map Line.comments = (Line.ofText before).map Line.comments := by
    rw [retouched, List.map_map]
    refine List.map_congr_left fun line member => ?_
    simp only [Function.comp, Line.comments, Line.withText, comments line member]
  rw [ofText, ofText, Suppression.perLine_congr Suppression.none same, retouched]

end Document

end DocCheck
