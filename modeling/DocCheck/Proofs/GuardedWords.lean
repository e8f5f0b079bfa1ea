import DocCheck.Text.Slice
import DocCheck.Word

/-!
Guarded arithmetic: operations on words and on positions in a text, each of which stops where its
result would be none. Main statement: a pass over a list stops where the first of its steps does, and
otherwise gives what the steps give.
-/

set_option autoImplicit false

namespace DocCheck

open Text

/-- Why a computation stops. -/
inductive Breach where
  /-- A sum is no word. -/
  | sum
  /-- A difference is below zero. -/
  | difference
  /-- A product is no word. -/
  | product
  /-- More characters are asked for than a text can hold. -/
  | capacity
  /-- A position is inside of a character or behind the text. -/
  | boundary
  deriving DecidableEq, Repr

/-- What a computation gives, unless it stops. -/
abbrev Guarded : Type → Type :=
  Except Breach

namespace Guarded

def add (a b : Nat) : Guarded Nat :=
  if a + b < wordLimit then .ok (a + b) else .error .sum

def sub (a b : Nat) : Guarded Nat :=
  if b ≤ a then .ok (a - b) else .error .difference

def mul (a b : Nat) : Guarded Nat :=
  if a * b < wordLimit then .ok (a * b) else .error .product

def spaces (count : Nat) : Guarded (List Char) :=
  if count < signedWordLimit then .ok (List.replicate count ' ') else .error .capacity

/-- The part of a text before a position in bytes. -/
def front (position : Nat) (text : List Char) : Guarded (List Char) :=
  (takeBytes? position text).elim (.error .boundary) .ok

def back (position : Nat) (text : List Char) : Guarded (List Char) :=
  (dropBytes? position text).elim (.error .boundary) .ok

theorem lt_wordLimit {a length : Nat} (fits : length < signedWordLimit) (near : a ≤ length + 16) :
    a < wordLimit := by
  unfold signedWordLimit at fits
  unfold wordLimit
  omega

section Operations

variable {a b : Nat}

theorem add_eq (word : a + b < wordLimit) : add a b = .ok (a + b) :=
  if_pos word

theorem sub_eq (le : b ≤ a) : sub a b = .ok (a - b) :=
  if_pos le

theorem mul_eq (word : a * b < wordLimit) : mul a b = .ok (a * b) :=
  if_pos word

theorem spaces_eq {count : Nat} (fits : count < signedWordLimit) :
    spaces count = .ok (List.replicate count ' ') :=
  if_pos fits

theorem front_append (before after : List Char) :
    front (byteLength before) (before ++ after) = .ok before := by
  have found : takeBytes? (byteLength before) (before ++ after) = some before :=
    takeBytes?_eq_some_iff.2 ⟨List.prefix_append .., rfl⟩
  rw [front, found, Option.elim_some]

theorem back_append (before after : List Char) :
    back (byteLength before) (before ++ after) = .ok after := by
  have found : dropBytes? (byteLength before) (before ++ after) = some after :=
    dropBytes?_eq_some_iff.2 ⟨before, rfl, rfl⟩
  rw [back, found, Option.elim_some]

end Operations

@[simp] theorem ok_bind {α β : Type} (value : α) (next : α → Guarded β) :
    (.ok value >>= next : Guarded β) = next value :=
  rfl

@[simp] theorem error_bind {α β : Type} (breach : Breach) (next : α → Guarded β) :
    (.error breach >>= next : Guarded β) = .error breach :=
  rfl

/-- A sum that is little more than the length of a text is computed. -/
theorem add_bind {α : Type} {a b length : Nat} (fits : length < signedWordLimit)
    (near : a + b ≤ length + 16) (next : Nat → Guarded α) : (add a b >>= next) = next (a + b) := by
  rw [add_eq (lt_wordLimit fits near), ok_bind]

theorem sub_bind {α : Type} {a b : Nat} (le : b ≤ a) (next : Nat → Guarded α) :
    (sub a b >>= next) = next (a - b) := by
  rw [sub_eq le, ok_bind]

@[simp] theorem pure_eq_ok {α : Type} (value : α) : (pure value : Guarded α) = .ok value :=
  rfl

/-- The value, if there is no breach. -/
def barring {α : Type} (breach? : Option Breach) (value : α) : Guarded α :=
  match breach? with
  | none => .ok value
  | some breach => .error breach

@[simp] theorem barring_none {α : Type} (value : α) : barring none value = .ok value :=
  rfl

@[simp] theorem barring_some {α : Type} (breach : Breach) (value : α) :
    barring (some breach) value = .error breach :=
  rfl

section Passes

variable {α β : Type}

theorem filterMapM_eq {step : α → Guarded (Option β)} {value : α → Option β} {items : List α}
    (steps : ∀ item ∈ items, step item = .ok (value item)) :
    items.filterMapM step = .ok (items.filterMap value) := by
  induction items with
  | nil => rfl
  | cons item rest ih =>
    obtain ⟨here, there⟩ := List.forall_mem_cons.1 steps
    rw [List.filterMapM_cons, here, ok_bind, ih there, List.filterMap_cons]
    cases value item <;> rfl

/-- A pass stops where the first of its steps does. -/
theorem flatMapM_eq {step : α → Guarded (List β)} {breach? : α → Option Breach}
    {value : α → List β} {items : List α}
    (steps : ∀ item ∈ items, step item = barring (breach? item) (value item)) :
    items.flatMapM step = barring (items.findSome? breach?) (items.flatMap value) := by
  induction items with
  | nil => rfl
  | cons item rest ih =>
    obtain ⟨here, there⟩ := List.forall_mem_cons.1 steps
    rw [List.flatMapM_cons, here, List.findSome?_cons, List.flatMap_cons]
    cases breach? item with
    | some breach => rfl
    | none =>
      rw [barring_none, ok_bind, ih there]
      cases rest.findSome? breach? <;> rfl

theorem foldlM_eq {step : β → α → Guarded β} {value : β → α → β} {items : List α}
    (steps : ∀ item ∈ items, ∀ state, step state item = .ok (value state item)) (state : β) :
    items.foldlM step state = .ok (items.foldl value state) := by
  induction items generalizing state with
  | nil => rfl
  | cons item rest ih =>
    obtain ⟨here, there⟩ := List.forall_mem_cons.1 steps
    rw [List.foldlM_cons, here, ok_bind, ih there, List.foldl_cons]

end Passes

end Guarded

end DocCheck
