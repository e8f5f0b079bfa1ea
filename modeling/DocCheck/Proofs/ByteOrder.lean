import Mathlib.Tactic.SplitIfs

set_option autoImplicit false

namespace DocCheck.Text

/-- The digits of `code` to base 64, a byte each: `mark` is added to the first one and 128 to each of
the `more` others. -/
def markedDigits (mark : Nat) : Nat → Nat → List UInt8
  | 0, code => [.ofNat (code + mark)]
  | more + 1, code => markedDigits mark more (code / 64) ++ [.ofNat (code % 64 + 128)]

def leadingDigit : Nat → Nat → Nat
  | 0, code => code
  | more + 1, code => leadingDigit more (code / 64)

theorem ofNat_lt_ofNat {a b : Nat} (less : a < b) (byte : b < 256) :
    UInt8.ofNat a < UInt8.ofNat b :=
  (UInt8.ofNat_lt_iff_lt (Nat.lt_trans less byte) byte).2 less

/-- With as many digits, the bytes of the lower code come first, whatever follows. -/
theorem markedDigits_append_lt {mark more a b : Nat} (less : a < b)
    (fits : leadingDigit more b + mark < 256) (s t : List UInt8) :
    markedDigits mark more a ++ s < markedDigits mark more b ++ t := by
  induction more generalizing a b s t with
  | zero =>
    exact List.cons_lt_cons_iff.2 (.inl (ofNat_lt_ofNat (Nat.add_lt_add_right less mark) fits))
  | succ more ih =>
    rw [markedDigits, markedDigits, List.append_assoc, List.append_assoc]
    rcases Nat.lt_or_eq_of_le (Nat.div_le_div_right (c := 64) (Nat.le_of_lt less)) with front | same
    · exact ih front fits _ _
    · rw [same]
      have last : a % 64 < b % 64 := by omega
      refine List.append_left_lt (List.cons_lt_cons_iff.2 (.inl (ofNat_lt_ofNat ?_ ?_)))
      · omega
      · omega

theorem exists_markedDigits (mark more code : Nat) :
    ∃ rest, markedDigits mark more code = .ofNat (leadingDigit more code + mark) :: rest := by
  induction more generalizing code with
  | zero => exact ⟨[], rfl⟩
  | succ more ih =>
    obtain ⟨rest, eq⟩ := ih (code / 64)
    refine ⟨rest ++ [.ofNat (code % 64 + 128)], ?_⟩
    rw [markedDigits, eq, List.cons_append, leadingDigit]

def moreBytes (code : Nat) : Nat :=
  if code ≤ 0x7F then 0 else if code ≤ 0x7FF then 1 else if code ≤ 0xFFFF then 2 else 3

/-- What marks the first byte, by the number of bytes behind it. -/
def lengthMark : Nat → Nat
  | 0 => 0
  | 1 => 0xC0
  | 2 => 0xE0
  | _ => 0xF0

theorem code_lt (c : Char) : c.val.toNat < 0x110000 := by
  have valid := c.valid
  simp only [UInt32.isValidChar, Nat.isValidChar] at valid
  omega

theorem utf8EncodeChar_eq (c : Char) :
    String.utf8EncodeChar c =
      markedDigits (lengthMark (moreBytes c.val.toNat)) (moreBytes c.val.toNat) c.val.toNat := by
  have valid := code_lt c
  rw [String.utf8EncodeChar, moreBytes]
  generalize c.val.toNat = code at valid
  split_ifs with one two three
  · rfl
  · have first : code / 64 % 32 = code / 64 := by omega
    rw [first]
    rfl
  · have first : code / 4096 % 16 = code / 64 / 64 := by omega
    rw [first]
    rfl
  · have first : code / 262144 % 8 = code / 64 / 64 / 64 := by omega
    have second : code / 4096 % 64 = code / 64 / 64 % 64 := by omega
    rw [first, second]
    rfl

/-- The bytes of the lower of two characters come first, whatever follows. -/
theorem utf8EncodeChar_append_lt {c d : Char} (less : c < d) (s t : List UInt8) :
    String.utf8EncodeChar c ++ s < String.utf8EncodeChar d ++ t := by
  have lower : c.val.toNat < d.val.toNat := less
  have valid := code_lt d
  rw [utf8EncodeChar_eq, utf8EncodeChar_eq]
  generalize c.val.toNat = a at lower
  generalize d.val.toNat = b at lower valid
  have fits : leadingDigit (moreBytes b) b + lengthMark (moreBytes b) < 256 := by
    rw [moreBytes]
    split_ifs <;> simp only [leadingDigit, lengthMark] <;> omega
  by_cases same : moreBytes a = moreBytes b
  · rw [same]
    exact markedDigits_append_lt lower fits s t
  · -- The first bytes tell how many bytes follow.
    have first : leadingDigit (moreBytes a) a + lengthMark (moreBytes a) <
        leadingDigit (moreBytes b) b + lengthMark (moreBytes b) := by
      revert same
      rw [moreBytes, moreBytes]
      split_ifs <;> intro same <;> simp only [leadingDigit, lengthMark] <;> omega
    obtain ⟨left, eq⟩ := exists_markedDigits (lengthMark (moreBytes a)) (moreBytes a) a
    obtain ⟨right, eq'⟩ := exists_markedDigits (lengthMark (moreBytes b)) (moreBytes b) b
    rw [eq, eq']
    exact List.cons_lt_cons_iff.2 (.inl (ofNat_lt_ofNat first fits))

theorem flatMap_utf8EncodeChar_lt {a b : List Char} (less : a < b) :
    a.flatMap String.utf8EncodeChar < b.flatMap String.utf8EncodeChar := by
  induction a generalizing b with
  | nil =>
    cases b with
    | nil => exact absurd less (List.not_lt_nil _)
    | cons d b =>
      obtain ⟨first, rest, eq⟩ := List.exists_cons_of_ne_nil (String.utf8EncodeChar_ne_nil (c := d))
      rw [List.flatMap_nil, List.flatMap_cons, eq]
      exact List.nil_lt_cons ..
  | cons c a ih =>
    cases b with
    | nil => exact absurd less (List.not_lt_nil _)
    | cons d b =>
      rw [List.flatMap_cons, List.flatMap_cons]
      rcases List.cons_lt_cons_iff.1 less with head | ⟨rfl, tail⟩
      · exact utf8EncodeChar_append_lt head _ _
      · exact List.append_left_lt (ih tail)

def utf8Bytes (s : String) : List UInt8 :=
  s.toUTF8.data.toList

/-- The order of strings is that of their bytes. -/
theorem utf8Bytes_lt {a b : String} (less : a < b) : utf8Bytes a < utf8Bytes b := by
  have bytes (s : String) : utf8Bytes s = s.toList.flatMap String.utf8EncodeChar := by
    rw [utf8Bytes, String.toUTF8, ← String.utf8Encode_toList, List.utf8Encode,
      List.data_toByteArray]
  rw [bytes, bytes]
  exact flatMap_utf8EncodeChar_lt (String.lt_iff.1 less)

end DocCheck.Text
