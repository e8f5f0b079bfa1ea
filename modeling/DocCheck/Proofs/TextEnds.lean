import DocCheck.Text.Blank

set_option autoImplicit false

namespace DocCheck.Text

theorem takeWhile_beq_eq_replicate (a : Char) (text : List Char) :
    text.takeWhile (· == a) = List.replicate (text.takeWhile (· == a)).length a := by
  rw [List.eq_replicate_iff]
  refine ⟨rfl, fun c found => ?_⟩
  have all := List.all_takeWhile (p := (· == a)) (l := text)
  simpa using List.all_eq_true.1 all c found

theorem replicate_append_dropWhile (a : Char) (text : List Char) :
    List.replicate (text.takeWhile (· == a)).length a ++ text.dropWhile (· == a) = text := by
  rw [← takeWhile_beq_eq_replicate, List.takeWhile_append_dropWhile]

theorem head?_dropWhile_ne (a : Char) (text : List Char) :
    (text.dropWhile (· == a)).head? ≠ some a := by
  intro h
  have := List.head?_dropWhile_not (· == a) text
  simp [h] at this

theorem takeWhile_replicate_append {a : Char} {text : List Char} (h : text.head? ≠ some a)
    (count : Nat) :
    (List.replicate count a ++ text).takeWhile (· == a) = List.replicate count a := by
  rw [List.takeWhile_append_of_pos (by simp)]
  cases text with
  | nil => simp
  | cons c text => simp_all

theorem dropWhile_replicate_append {a : Char} {text : List Char} (h : text.head? ≠ some a)
    (count : Nat) : (List.replicate count a ++ text).dropWhile (· == a) = text := by
  rw [List.dropWhile_append_of_pos (by simp)]
  cases text with
  | nil => rfl
  | cons c text => simp_all

theorem takeWhile_append_replicate {a b : Char} (h : b ≠ a) (text : List Char) (count : Nat) :
    (text ++ List.replicate count b).takeWhile (· == a) = text.takeWhile (· == a) := by
  induction text with
  | nil => cases count <;> simp [List.replicate_succ, h]
  | cons c text ih => rw [List.cons_append, List.takeWhile_cons, List.takeWhile_cons, ih]

theorem dropWhile_append_replicate {a b : Char} (h : b ≠ a) (text : List Char) (count : Nat) :
    (text ++ List.replicate count b).dropWhile (· == a) =
      text.dropWhile (· == a) ++ List.replicate count b := by
  induction text with
  | nil => cases count <;> simp [List.replicate_succ, h]
  | cons c text ih =>
    rw [List.cons_append, List.dropWhile_cons, List.dropWhile_cons, ih]
    split <;> rfl

variable {p : Char → Bool}

theorem of_mem_tailOf {text : List Char} {c : Char} (h : c ∈ tailOf p text) : p c = true := by
  rw [tailOf, List.mem_reverse] at h
  exact List.all_eq_true.1 List.all_takeWhile c h

theorem drop_length_trimEnd (text : List Char) :
    text.drop (trimEnd p text).length = tailOf p text := by
  have dropped : (trimEnd p text ++ tailOf p text).drop (trimEnd p text).length = tailOf p text :=
    List.drop_left
  rwa [trimEnd_append_tailOf] at dropped

theorem tailOf_beq_eq_replicate (a : Char) (text : List Char) :
    tailOf (· == a) text = List.replicate (tailOf (· == a) text).length a := by
  rw [List.eq_replicate_iff]
  exact ⟨rfl, fun c found => by simpa using of_mem_tailOf found⟩

theorem trimEnd_isPrefix (p : Char → Bool) (text : List Char) : trimEnd p text <+: text :=
  ⟨_, trimEnd_append_tailOf p text⟩

theorem length_trimEnd_le (p : Char → Bool) (text : List Char) :
    (trimEnd p text).length ≤ text.length :=
  (trimEnd_isPrefix p text).length_le

theorem getLast?_trimEnd {text : List Char} {c : Char} (h : (trimEnd p text).getLast? = some c) :
    p c = false := by
  rw [trimEnd, List.getLast?_reverse] at h
  have := List.head?_dropWhile_not p text.reverse
  simpa [h] using this

theorem of_trimEnd_eq_nil {text : List Char} (h : trimEnd p text = []) :
    ∀ c ∈ text, p c = true := by
  intro c found
  rw [← trimEnd_append_tailOf p text, h, List.nil_append] at found
  exact of_mem_tailOf found

theorem trimEnd_append_of_all {tail : List Char} (h : ∀ c ∈ tail, p c = true) (text : List Char) :
    trimEnd p (text ++ tail) = trimEnd p text := by
  rw [trimEnd, List.reverse_append, List.dropWhile_append_of_pos (by simpa using h), trimEnd]

theorem trimEnd_append_of_last {text : List Char} {c : Char} (h : p c = false) :
    trimEnd p (text ++ [c]) = text ++ [c] := by
  simp [trimEnd, h]

theorem trimEnd_eq_self {text : List Char} (h : ∀ c, text.getLast? = some c → p c = false) :
    trimEnd p text = text := by
  rcases List.eq_nil_or_concat text with rfl | ⟨front, c, rfl⟩
  · rfl
  · rw [List.concat_eq_append] at h ⊢
    exact trimEnd_append_of_last (h c (by simp))

/-- Trimming stops at a character that stays. -/
theorem trimEnd_append {front : List Char} (h : ∀ c, front.getLast? = some c → p c = false)
    (rest : List Char) : trimEnd p (front ++ rest) = front ++ trimEnd p rest := by
  have kept := trimEnd_eq_self h
  rw [trimEnd] at kept
  rw [trimEnd, List.reverse_append, List.dropWhile_append]
  split
  · rename_i empty
    rw [kept, trimEnd, List.isEmpty_iff.1 empty, List.reverse_nil, List.append_nil]
  · rw [List.reverse_append, List.reverse_reverse, trimEnd]

theorem trimEnd_trimEnd {q : Char → Bool} (h : ∀ c, p c = true → q c = true) (text : List Char) :
    trimEnd q (trimEnd p text) = trimEnd q text := by
  calc trimEnd q (trimEnd p text)
    _ = trimEnd q (trimEnd p text ++ tailOf p text) :=
      (trimEnd_append_of_all (fun c found => h c (of_mem_tailOf found)) _).symm
    _ = trimEnd q text := by rw [trimEnd_append_tailOf]

theorem trim_append_of_all {tail : List Char} (h : ∀ c ∈ tail, isBlank c = true)
    (text : List Char) : trim (text ++ tail) = trim text := by
  rw [trim, List.dropWhile_append]
  split
  · rename_i blank
    have none : (tail ++ []).dropWhile isBlank = [] := List.dropWhile_append_of_pos h
    rw [List.append_nil] at none
    rw [none, trim, List.isEmpty_iff.1 blank]
  · rw [trimEnd_append_of_all h, trim]

end DocCheck.Text
