import DocCheck.Proofs.GuardedWords
import DocCheck.Proofs.HeadingParts
import DocCheck.Proofs.RepairedLines

set_option autoImplicit false

namespace DocCheck

open Text

namespace Guarded

section Prefixes

variable {p : Char → Bool} (ascii : ∀ c, p c = true → c.utf8Size = 1) (text : List Char)

include ascii

theorem byteLength_takeWhile : byteLength (text.takeWhile p) = (text.takeWhile p).length :=
  byteLength_eq_length fun c found => ascii c (List.all_eq_true.1 List.all_takeWhile c found)

/-- The bytes that dropping takes off are the characters it takes off. -/
theorem sub_dropWhile :
    sub (byteLength text) (byteLength (text.dropWhile p)) = .ok (text.takeWhile p).length := by
  have whole : byteLength text = (text.takeWhile p).length + byteLength (text.dropWhile p) := by
    rw [← byteLength_takeWhile ascii, ← byteLength_append, List.takeWhile_append_dropWhile]
  rw [sub_eq (by omega), whole, Nat.add_sub_cancel]

theorem back_takeWhile : back (text.takeWhile p).length text = .ok (text.dropWhile p) := by
  have behind := back_append (text.takeWhile p) (text.dropWhile p)
  rwa [byteLength_takeWhile ascii, List.takeWhile_append_dropWhile] at behind

end Prefixes

theorem utf8Size_of_beq {a : Char} (ascii : a.utf8Size = 1) (c : Char) (same : (c == a) = true) :
    c.utf8Size = 1 := by
  rw [beq_iff_eq.1 same, ascii]

/-- The lines of a text whose first line began with the reversed characters `before`. Where a line
ends, the position behind its break is counted from its start. -/
def linesFrom (before : List Char) : List Char → Guarded (List (List Char))
  | [] => return [before.reverse]
  | '\r' :: '\n' :: rest => do
    let _ ← add (byteLength before) 2
    return before.reverse :: (← linesFrom [] rest)
  | '\r' :: rest => do
    let _ ← add (byteLength before) 1
    return before.reverse :: (← linesFrom [] rest)
  | '\n' :: rest => do
    let _ ← add (byteLength before) 1
    return before.reverse :: (← linesFrom [] rest)
  | c :: rest => linesFrom (c :: before) rest

theorem linesFrom_eq {before text : List Char}
    (word : byteLength before + byteLength text < wordLimit) :
    linesFrom before text = .ok (Text.linesFrom before text) := by
  fun_induction Text.linesFrom before text with
  | case1 before => rfl
  | case2 before rest ih =>
    have sizes : '\r'.utf8Size = 1 ∧ '\n'.utf8Size = 1 := ⟨rfl, rfl⟩
    simp only [byteLength_cons, byteLength_nil] at word ih
    rw [linesFrom, add_eq (by omega), ok_bind, ih (by omega), ok_bind, pure_eq_ok]
  | case3 before rest apart ih =>
    have size : '\r'.utf8Size = 1 := rfl
    simp only [byteLength_cons, byteLength_nil] at word ih
    rw [linesFrom.eq_3 before rest apart, add_eq (by omega), ok_bind, ih (by omega), ok_bind,
      pure_eq_ok]
  | case4 before rest ih =>
    have size : '\n'.utf8Size = 1 := rfl
    simp only [byteLength_cons, byteLength_nil] at word ih
    rw [linesFrom, add_eq (by omega), ok_bind, ih (by omega), ok_bind, pure_eq_ok]
  | case5 before c rest crlf cr lf ih =>
    simp only [byteLength_cons] at word ih
    rw [linesFrom.eq_5 before c rest (fun _ eq _ => cr eq) cr lf, ih (by omega)]

end Guarded

namespace Text

theorem byteLength_reverse (text : List Char) : byteLength text.reverse = byteLength text := by
  induction text with
  | nil => rfl
  | cons c text ih =>
    rw [List.reverse_cons, byteLength_append, ih, byteLength_cons, byteLength_cons, byteLength_nil,
      Nat.add_zero, Nat.add_comm]

theorem byteLength_le_of_isInfix {part text : List Char} (h : part <:+: text) :
    byteLength part ≤ byteLength text := by
  obtain ⟨front, back, eq⟩ := h
  rw [← eq, byteLength_append, byteLength_append]
  omega

theorem isInfix_of_mem_linesFrom {before text line : List Char}
    (h : line ∈ linesFrom before text) : line <:+: before.reverse ++ text := by
  fun_induction linesFrom before text with
  | case1 before =>
    obtain rfl := List.mem_singleton.1 h
    exact (List.prefix_append ..).isInfix
  | case2 before rest ih =>
    rcases List.mem_cons.1 h with rfl | h
    · exact (List.prefix_append ..).isInfix
    · exact (ih h).trans ⟨before.reverse ++ ['\r', '\n'], [], by simp⟩
  | case3 before rest _ ih =>
    rcases List.mem_cons.1 h with rfl | h
    · exact (List.prefix_append ..).isInfix
    · exact (ih h).trans ⟨before.reverse ++ ['\r'], [], by simp⟩
  | case4 before rest ih =>
    rcases List.mem_cons.1 h with rfl | h
    · exact (List.prefix_append ..).isInfix
    · exact (ih h).trans ⟨before.reverse ++ ['\n'], [], by simp⟩
  | case5 before c rest _ _ _ ih =>
    have inside := ih h
    rwa [List.reverse_cons, List.append_assoc] at inside

theorem isInfix_of_mem_lines {text line : List Char} (h : line ∈ lines text) : line <:+: text :=
  isInfix_of_mem_linesFrom h

theorem Stored.of_mem_lines {text line : List Char} (stored : Stored text) (h : line ∈ lines text) :
    Stored line :=
  Nat.lt_of_le_of_lt (byteLength_le_of_isInfix (isInfix_of_mem_lines h)) stored

theorem length_linesFrom_le (before text : List Char) :
    (linesFrom before text).length ≤ text.length + 1 := by
  fun_induction linesFrom before text <;> simp only [List.length_cons, List.length_nil] at * <;> omega

end Text

def Fence.guardedParse (line : List Char) : Guarded (Option Fence) := do
  let indent ← .sub (byteLength line) (byteLength (line.dropWhile (· == ' ')))
  if 3 < indent then
    return none
  let drawn ← .back indent line
  match FenceMark.ofHead? drawn with
  | none => return none
  | some mark =>
    let length := (drawn.takeWhile (· == mark.toChar)).length
    if length < 3 then
      return none
    let info := trim (← .back length drawn)
    if mark = .backquote ∧ '\x60' ∈ info then
      return none
    return some { mark, length, info }

theorem Fence.guardedParse_eq (line : List Char) : guardedParse line = .ok (parse? line) := by
  have space := Guarded.utf8Size_of_beq (a := ' ') rfl
  rw [guardedParse, Guarded.sub_dropWhile space, Guarded.ok_bind, parse?]
  by_cases deep : 3 < (line.takeWhile (· == ' ')).length
  · rw [if_pos deep]
    cases FenceMark.ofHead? (line.dropWhile (· == ' ')) with
    | none => rfl
    | some mark =>
      rw [Option.bind_some, if_neg (by omega)]
      rfl
  rw [if_neg deep, Guarded.back_takeWhile space, Guarded.ok_bind]
  cases FenceMark.ofHead? (line.dropWhile (· == ' ')) with
  | none => rfl
  | some mark =>
    have drawn : mark.toChar.utf8Size = 1 := by cases mark <;> rfl
    have behind := Guarded.back_takeWhile (Guarded.utf8Size_of_beq drawn)
    simp only [Option.bind_some, behind, Guarded.ok_bind]
    split
    · rw [if_neg (by omega)]
      rfl
    · split
      · rename_i quoted
        rw [if_neg fun drawn => drawn.2.2 quoted]
        rfl
      · rename_i plain
        rw [if_pos ⟨by omega, by omega, plain⟩]
        rfl

namespace Line

def guardedKindsFrom (opener : Option Fence) : List (List Char) → Guarded (List LineKind)
  | [] => return []
  | text :: rest => do
    match opener, ← Fence.guardedParse text with
    | none, none => return .prose :: (← guardedKindsFrom none rest)
    | none, some fence => return .fenceOpen fence.info :: (← guardedKindsFrom (some fence) rest)
    | some opener, some fence =>
      if opener.closes fence then
        return .fenceClose :: (← guardedKindsFrom none rest)
      else
        return .code :: (← guardedKindsFrom (some opener) rest)
    | some opener, none => return .code :: (← guardedKindsFrom (some opener) rest)

theorem guardedKindsFrom_eq (opener : Option Fence) (texts : List (List Char)) :
    guardedKindsFrom opener texts = .ok (kindsFrom opener texts) := by
  induction texts generalizing opener with
  | nil => rfl
  | cons text rest ih =>
    rw [guardedKindsFrom, Fence.guardedParse_eq, Guarded.ok_bind, kindsFrom.eq_def]
    simp only [ih, Guarded.ok_bind, Guarded.pure_eq_ok]
    cases opener with
    | none => cases Fence.parse? text <;> rfl
    | some opener =>
      cases Fence.parse? text with
      | none => rfl
      | some fence => exact (apply_ite Except.ok ..).symm

def guardedNumberFrom (index : Nat) :
    List (List Char) → List LineKind → Guarded (List Line)
  | text :: texts, kind :: kinds => do
    let number ← .add index 1
    return ⟨number, text, kind⟩ :: (← guardedNumberFrom number texts kinds)
  | _, _ => return []

theorem guardedNumberFrom_eq {index : Nat} {texts : List (List Char)} (kinds : List LineKind)
    (word : index + texts.length < wordLimit) :
    guardedNumberFrom index texts kinds = .ok (numberFrom (index + 1) texts kinds) := by
  induction texts generalizing index kinds with
  | nil => cases kinds <;> rfl
  | cons text texts ih =>
    cases kinds with
    | nil => rfl
    | cons kind kinds =>
      rw [List.length_cons] at word
      rw [guardedNumberFrom, Guarded.add_eq (by omega), Guarded.ok_bind, ih kinds (by omega)]
      rfl

end Line

namespace Document

def guardedOfText (text : List Char) : Guarded Document := do
  let parts ← Guarded.linesFrom [] text
  let kinds ← Line.guardedKindsFrom none parts
  let lines ← Line.guardedNumberFrom 0 parts kinds
  return { lines, suppressed := (Suppression.none.perLine lines).toArray }

theorem guardedOfText_eq {text : List Char} (stored : Stored text) :
    guardedOfText text = .ok (ofText text) := by
  have double := two_mul_signedWordLimit
  have fewer := length_le_byteLength text
  have count := length_linesFrom_le [] text
  unfold Stored at stored
  rw [guardedOfText, Guarded.linesFrom_eq (by rw [byteLength_nil]; omega), Guarded.ok_bind,
    Line.guardedKindsFrom_eq, Guarded.ok_bind, Line.guardedNumberFrom_eq _ (by omega)]
  rfl

end Document

end DocCheck
