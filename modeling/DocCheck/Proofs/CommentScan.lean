import DocCheck.InlineComment
import DocCheck.Proofs.TextEnds

set_option autoImplicit false

namespace DocCheck.InlineComment

open Text

theorem read?_eq_none {c : Char} (other : c ≠ '<') (rest : List Char) :
    read? (c :: rest) = none := by
  have first : ('<' == c) = false := by simpa using Ne.symm other
  have apart : "<!--".toList.isPrefixOf? (c :: rest) = none := by
    change (if '<' == c then ['!', '-', '-'].isPrefixOf? rest else none) = none
    rw [first, if_neg Bool.false_ne_true]
  rw [read?, apart, Option.bind_none]

theorem ofLine_nil : ofLine [] = [] := by
  rw [ofLine]

theorem ofLine_cons (c : Char) (rest : List Char) :
    ofLine (c :: rest) =
      match read? (c :: rest) with
      | some (comment, after) => comment :: ofLine after
      | none => ofLine rest := by
  rw [ofLine]
  split
  · rename_i found
    rw [found]
  · rename_i none
    rw [none]

/-- Comments begin with `<`. -/
theorem ofLine_append {front : List Char} (plain : '<' ∉ front) (back : List Char) :
    ofLine (front ++ back) = ofLine back := by
  induction front with
  | nil => rfl
  | cons c front ih =>
    obtain ⟨head, tail⟩ := not_or.1 (mt List.mem_cons.2 plain)
    rw [List.cons_append, ofLine_cons, read?_eq_none (Ne.symm head)]
    exact ih tail

theorem ofLine_eq_nil {text : List Char} (plain : '<' ∉ text) : ofLine text = [] := by
  have none := ofLine_append plain []
  rwa [List.append_nil, ofLine_nil] at none

variable {text run after : List Char}

/-- A `>` behind the first run of word characters ends the comment. -/
theorem readNames_of_closed (cut : cutRun text = (run, '>' :: after)) :
    readNames text =
      if run = ['-', '-'] then some ([], after)
      else if text.head?.any isBlank ∧ ['-', '-'].isSuffixOf run then
        some ([run.dropLast.dropLast], after)
      else none := by
  rw [readNames]
  split
  · rename_i same
    obtain ⟨rfl, rest⟩ := Prod.mk.inj (cut.symm.trans same)
    obtain rfl := (List.cons.inj rest).2
    rfl
  · rename_i other same
    exact absurd (Prod.mk.inj (same.symm.trans cut)).2 (other after)

theorem readNames_of_open (cut : cutRun text = (run, after)) (goes : after.head? ≠ some '>') :
    readNames text =
      if text.head?.any isBlank ∧ run ≠ [] then
        (readNames after).map fun (names, rest) => (run :: names, rest)
      else none := by
  rw [readNames]
  split
  · rename_i same
    obtain ⟨-, rfl⟩ := Prod.mk.inj (cut.symm.trans same)
    exact absurd rfl goes
  · rename_i same
    obtain ⟨rfl, rfl⟩ := Prod.mk.inj (cut.symm.trans same)
    split <;> rfl

/-- A text behind whose blanks comes its end or a `<`: no comment that begins before it goes on in it. -/
def Inert (tail : List Char) : Prop :=
  ∀ c, (tail.dropWhile isBlank).head? = some c → c = '<'

theorem inert_spaces (count : Nat) : Inert (List.replicate count ' ') := by
  have none : (List.replicate count ' ').dropWhile isBlank = [] := List.dropWhile_replicate ..
  simp [Inert, none]

theorem inert_cons (rest : List Char) : Inert ('<' :: rest) := by
  simp [Inert, isBlank]

variable {tail : List Char}

theorem Inert.head (inert : Inert tail) {c : Char} (first : tail.head? = some c) :
    isBlank c = true ∨ c = '<' := by
  obtain ⟨rest, rfl⟩ := List.head?_eq_some_iff.1 first
  by_cases blank : isBlank c = true
  · exact .inl blank
  · exact .inr (inert c (by rw [List.dropWhile_cons_of_neg blank, List.head?_cons]))

theorem isNameChar_eq_false_of_isBlank {c : Char} (blank : isBlank c = true) : isNameChar c = false := by
  have ranges : isNameChar c = (decide (c.val ≥ 65 ∧ c.val ≤ 90) || (c.val ≥ 97 && c.val ≤ 122) ||
      (c.val ≥ 48 && c.val ≤ 57) || c == '_' || c == '-') := rfl
  have code : c.val.toNat = c.toNat := rfl
  rw [Bool.eq_false_iff, ranges]
  intro word
  simp only [isBlank, Bool.or_eq_true, Bool.and_eq_true, decide_eq_true_eq, beq_iff_eq] at blank
  simp [UInt32.le_iff_toNat_le, Char.ext_iff, ← UInt32.toNat_inj] at word
  omega

theorem Inert.head_plain (inert : Inert tail) {c : Char} (first : tail.head? = some c) :
    ¬ isNameChar c = true := by
  rcases inert.head first with blank | rfl
  · rw [isNameChar_eq_false_of_isBlank blank]
    decide
  · decide

theorem Inert.head_ne (inert : Inert tail) : tail.head? ≠ some '>' := by
  intro first
  exact absurd (inert.head first) (by decide)

def isSolid (c : Char) : Bool :=
  !isBlank c && c != '<'

theorem Inert.head_hollow (inert : Inert tail) {c : Char} (first : tail.head? = some c) :
    isSolid c = false := by
  rcases inert.head first with blank | rfl
  · rw [isSolid, blank]
    rfl
  · rfl

/-- Where a lead of solid characters is read, it ends before the tail. -/
theorem isPrefixOf?_append {lead : List Char} (solid : lead.all isSolid = true) (inert : Inert tail)
    (text : List Char) :
    lead.isPrefixOf? (text ++ tail) = (lead.isPrefixOf? text).map (· ++ tail) := by
  have step (a b : Char) (lead text : List Char) :
      (a :: lead).isPrefixOf? (b :: text) = if a == b then lead.isPrefixOf? text else none := rfl
  induction lead generalizing text with
  | nil => rfl
  | cons a lead ih =>
    rw [List.all_cons, Bool.and_eq_true] at solid
    obtain ⟨head, others⟩ := solid
    cases text with
    | nil =>
      cases tail with
      | nil => rfl
      | cons c rest =>
        have differ : (a == c) = false := by
          refine beq_eq_false_iff_ne.2 ?_
          intro same
          rw [same, inert.head_hollow rfl] at head
          cases head
        rw [List.nil_append, step, differ]
        rfl
    | cons b text =>
      rw [List.cons_append, step, step, ih others]
      split <;> rfl

/-- The tail stays behind what follows the first run, unless the text is blank. -/
theorem cutRun_append (inert : Inert tail) (text : List Char) :
    cutRun (text ++ tail) = ((cutRun text).1, (cutRun text).2 ++ tail) ∨
      cutRun text = ([], []) ∧ cutRun (text ++ tail) = ([], tail.dropWhile isBlank) := by
  rw [cutRun, cutRun, List.dropWhile_append]
  split
  · rename_i empty
    rw [List.isEmpty_iff.1 empty]
    right
    cases rest : tail.dropWhile isBlank with
    | nil => exact ⟨rfl, rfl⟩
    | cons c rest' =>
      have plain : ¬ isNameChar c = true := by
        rw [inert c (by rw [rest, List.head?_cons])]
        decide
      rw [List.takeWhile_cons_of_neg plain, List.dropWhile_cons_of_neg plain]
      exact ⟨rfl, rfl⟩
  · left
    generalize text.dropWhile isBlank = word
    induction word with
    | nil =>
      cases tail with
      | nil => rfl
      | cons c rest =>
        have plain : ¬ isNameChar c = true := inert.head_plain rfl
        rw [List.nil_append, List.takeWhile_cons_of_neg plain, List.dropWhile_cons_of_neg plain]
        rfl
    | cons c word ih =>
      rw [List.cons_append]
      simp only [List.takeWhile_cons, List.dropWhile_cons]
      split
      · simpa using ih
      · rfl

theorem readNames_append (inert : Inert tail) (text : List Char) :
    readNames (text ++ tail) =
      (readNames text).map fun (names, rest) => (names, rest ++ tail) := by
  induction size : text.length using Nat.strongRecOn generalizing text with
  | ind size ih =>
    subst size
    generalize cut : cutRun text = parts
    obtain ⟨run, after⟩ := parts
    -- The tail stands behind the run, or the text is blank and the tail begins the run.
    rcases cutRun_append inert text with behind | ⟨bare, behind⟩
    · rw [cut] at behind
      have bound := cutRun_length cut
      by_cases closed : after.head? = some '>'
      · obtain ⟨rest, rfl⟩ := List.head?_eq_some_iff.1 closed
        have first : (text ++ tail).head? = text.head? := by
          cases text with
          | nil => cases cut
          | cons c text => rfl
        rw [readNames_of_closed cut, readNames_of_closed behind, first]
        split
        · rfl
        · split <;> rfl
      · have goes : (after ++ tail).head? ≠ some '>' := by
          cases after with
          | nil => exact inert.head_ne
          | cons c after => exact closed
        rw [readNames_of_open cut closed, readNames_of_open behind goes]
        by_cases none : run = []
        · rw [if_neg fun both => both.2 none, if_neg fun both => both.2 none]
          rfl
        · have first : (text ++ tail).head? = text.head? := by
            cases text with
            | nil => exact absurd (congrArg Prod.fst cut).symm none
            | cons c text => rfl
          have shorter : after.length < text.length := by
            have := List.length_pos_iff.2 none
            omega
          rw [first, ih after.length shorter after rfl]
          split
          · simp only [Option.map_map]
            rfl
          · rfl
    · have goes : (tail.dropWhile isBlank).head? ≠ some '>' := by
        intro first
        exact absurd (inert _ first) (by decide)
      rw [readNames_of_open bare (by simp), readNames_of_open behind goes]
      simp

theorem readAction_append (inert : Inert tail) (text : List Char) (action : CommentAction) :
    readAction (text ++ tail) action =
      (readAction text action).map fun (comment, rest) => (comment, rest ++ tail) := by
  have solid : action.word.all isSolid = true := by cases action <;> decide
  rw [readAction, readAction, isPrefixOf?_append solid inert]
  cases action.word.isPrefixOf? text with
  | none => rfl
  | some rest =>
    simp only [Option.map_some, Option.bind_some, readNames_append inert, Option.map_map]
    rfl

/-- A comment that begins before the tail ends before it. -/
theorem read?_append (inert : Inert tail) (c : Char) (text : List Char) :
    read? (c :: text ++ tail) =
      (read? (c :: text)).map fun (comment, rest) => (comment, rest ++ tail) := by
  by_cases other : c = '<'
  · subst other
    have opens (text : List Char) :
        "<!--".toList.isPrefixOf? ('<' :: text) = "!--".toList.isPrefixOf? text := rfl
    rw [List.cons_append, read?, read?, opens, opens, isPrefixOf?_append (by decide) inert]
    cases "!--".toList.isPrefixOf? text with
    | none => rfl
    | some opened =>
      simp only [Option.map_some, Option.bind_some]
      rw [List.dropWhile_append]
      split
      · rename_i empty
        rw [List.isEmpty_iff.1 empty]
        cases rest : tail.dropWhile isBlank with
        | nil => rfl
        | cons c rest' =>
          rw [inert c (by rw [rest, List.head?_cons])]
          rfl
      · rw [isPrefixOf?_append (by decide) inert]
        cases "markdownlint-".toList.isPrefixOf? (opened.dropWhile isBlank) with
        | none => rfl
        | some named =>
          simp only [Option.map_some, Option.bind_some, List.map_findSome?]
          congr 1
          funext action
          exact readAction_append inert named action
  · rw [List.cons_append, read?_eq_none other, read?_eq_none other]
    rfl

/-- The comments of a text with an inert tail are those of the text, then those of the tail. -/
theorem ofLine_append_of_inert (inert : Inert tail) (text : List Char) :
    ofLine (text ++ tail) = ofLine text ++ ofLine tail := by
  induction size : text.length using Nat.strongRecOn generalizing text with
  | ind size ih =>
    subst size
    cases text with
    | nil => rw [ofLine_nil, List.nil_append, List.nil_append]
    | cons c rest =>
      have read := read?_append inert c rest
      rw [List.cons_append] at read ⊢
      rw [ofLine_cons, ofLine_cons, read]
      cases found : read? (c :: rest) with
      | none => exact ih rest.length (Nat.lt_succ_self _) rest rfl
      | some pair =>
        obtain ⟨comment, after⟩ := pair
        exact congrArg (comment :: ·) (ih after.length (read?_length found) after rfl)

/-- Spaces at the end of a line hold no comment and end none. -/
theorem ofLine_append_spaces (text : List Char) (count : Nat) :
    ofLine (text ++ List.replicate count ' ') = ofLine text := by
  have none : ofLine (List.replicate count ' ') = [] := ofLine_eq_nil (by simp)
  rw [ofLine_append_of_inert (inert_spaces count), none, List.append_nil]

end DocCheck.InlineComment
