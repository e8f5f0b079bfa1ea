set_option autoImplicit false

namespace DocCheck.Text

/-- A space or a tab: the blanks that matter inside a heading or a fence line. -/
def isSpaceOrTab (c : Char) : Bool :=
  c == ' ' || c == '\t'

/-- The characters with the property White_Space. -/
def isBlank (c : Char) : Bool :=
  let n := c.toNat
  (9 ≤ n && n ≤ 13) || n == 0x20 || n == 0x85 || n == 0xA0 || n == 0x1680 ||
    (0x2000 ≤ n && n ≤ 0x200A) || n == 0x2028 || n == 0x2029 || n == 0x202F ||
    n == 0x205F || n == 0x3000

/-- Drops the longest suffix of characters that satisfy `p`. -/
def trimEnd (p : Char → Bool) (text : List Char) : List Char :=
  (text.reverse.dropWhile p).reverse

/-- Drops the blanks at both ends. -/
def trim (text : List Char) : List Char :=
  trimEnd isBlank (text.dropWhile isBlank)

def allBlank (text : List Char) : Bool :=
  text.all isBlank

/-- The longest suffix that `trimEnd` removes. -/
def tailOf (p : Char → Bool) (text : List Char) : List Char :=
  (text.reverse.takeWhile p).reverse

theorem trimEnd_append_tailOf (p : Char → Bool) (text : List Char) :
    trimEnd p text ++ tailOf p text = text := by
  rw [trimEnd, tailOf, ← List.reverse_append, List.takeWhile_append_dropWhile,
    List.reverse_reverse]

theorem length_trimEnd_add_length_tailOf (p : Char → Bool) (text : List Char) :
    (trimEnd p text).length + (tailOf p text).length = text.length := by
  rw [← List.length_append, trimEnd_append_tailOf]

/-- The lower-case form of an ASCII letter; other characters stay. -/
def lowerAscii (c : Char) : Char :=
  if 'A' ≤ c ∧ c ≤ 'Z' then Char.ofNat (c.toNat + 32) else c

/-- Equality up to the case of ASCII letters. -/
def eqIgnoringCase (a b : List Char) : Bool :=
  a.map lowerAscii == b.map lowerAscii

def byteLength : List Char → Nat
  | [] => 0
  | c :: text => c.utf8Size + byteLength text

@[simp] theorem byteLength_nil : byteLength [] = 0 := rfl

@[simp] theorem byteLength_cons (c : Char) (text : List Char) :
    byteLength (c :: text) = c.utf8Size + byteLength text := rfl

@[simp] theorem byteLength_append (a b : List Char) :
    byteLength (a ++ b) = byteLength a + byteLength b := by
  induction a with
  | nil => simp
  | cons c text ih => simp [ih, Nat.add_assoc]

end DocCheck.Text
