import DocCheck.Mdx.Check
import DocCheck.Proofs.TextEnds
import Mathlib.Data.Nat.Find

set_option autoImplicit false

namespace DocCheck.Mdx

open Text

/-- What begins a tag stands behind `front`. -/
def OpensBehind (text front : List Char) : Prop :=
  ∃ next back, text = front ++ '<' :: next :: back ∧ beginsTag next = true

def slashes (front : List Char) : Nat :=
  (tailOf (· == '\\') front).length

theorem slashes_eq_zero_iff {front : List Char} :
    slashes front = 0 ↔ front.getLast? ≠ some '\\' := by
  unfold slashes tailOf
  rw [List.length_reverse, List.getLast?_eq_head?_reverse, List.length_eq_zero_iff]
  cases front.reverse with
  | nil => simp
  | cons c rest => by_cases slash : c = '\\' <;> simp [slash]

/-- What begins a tag stands behind `front`, and no backslash right before it. The text follows the
character `previous`. -/
def OpensAfter (previous : Option Char) (text front : List Char) : Prop :=
  OpensBehind text front ∧ front.getLast?.or previous ≠ some '\\'

theorem opensAfter_nil {previous : Option Char} {c : Char} {rest : List Char} :
    OpensAfter previous (c :: rest) [] ↔
      c = '<' ∧ previous ≠ some '\\' ∧ rest.head?.any beginsTag = true := by
  unfold OpensAfter OpensBehind
  simp only [List.nil_append, List.cons.injEq, List.getLast?_nil, Option.none_or]
  constructor
  · rintro ⟨⟨next, back, ⟨rfl, rfl⟩, begins⟩, plain⟩
    exact ⟨rfl, plain, begins⟩
  · rintro ⟨rfl, plain, begins⟩
    cases rest with
    | nil => cases begins
    | cons next back => exact ⟨⟨next, back, ⟨rfl, rfl⟩, begins⟩, plain⟩

theorem opensAfter_cons {previous : Option Char} {c : Char} {rest front : List Char} :
    OpensAfter previous (c :: rest) (c :: front) ↔ OpensAfter (some c) rest front := by
  have last : (c :: front).getLast?.or previous = front.getLast?.or (some c) := by
    rw [List.getLast?_cons, Option.some_or]
    cases front.getLast? <;> rfl
  unfold OpensAfter OpensBehind
  simp only [last, List.cons_append, List.cons.injEq, true_and]

theorem OpensAfter.eq_cons {previous : Option Char} {c d : Char} {rest front : List Char}
    (opens : OpensAfter previous (c :: rest) (d :: front)) : d = c := by
  obtain ⟨⟨next, back, eq, -⟩, -⟩ := opens
  exact (List.cons.inj eq).1.symm

theorem exists_of_openerAfter? {previous : Option Char} {text : List Char} {place : Nat}
    (found : openerAfter? previous text = some place) :
    ∃ front, OpensAfter previous text front ∧ byteLength front = place := by
  fun_induction openerAfter? previous text generalizing place with
  | case1 => cases found
  | case2 previous c rest begins =>
    obtain rfl := Option.some.inj found
    exact ⟨[], opensAfter_nil.2 begins, rfl⟩
  | case3 previous c rest _ ih =>
    obtain ⟨offset, later, rfl⟩ := Option.map_eq_some_iff.1 found
    obtain ⟨front, opens, length⟩ := ih later
    exact ⟨c :: front, opensAfter_cons.2 opens, by rw [byteLength_cons, length]⟩

/-- Nothing is found behind a bracket that begins a tag and follows no backslash. -/
theorem OpensAfter.exists_le {previous : Option Char} {text front : List Char}
    (opens : OpensAfter previous text front) :
    ∃ place, openerAfter? previous text = some place ∧ place ≤ byteLength front := by
  fun_induction openerAfter? previous text generalizing front with
  | case1 =>
    obtain ⟨⟨next, back, eq, -⟩, -⟩ := opens
    cases front <;> cases eq
  | case2 => exact ⟨0, rfl, Nat.zero_le _⟩
  | case3 previous c rest silent ih =>
    cases front with
    | nil => exact absurd (opensAfter_nil.1 opens) silent
    | cons d front =>
      obtain rfl := opens.eq_cons
      obtain ⟨offset, found, le⟩ := ih (opensAfter_cons.1 opens)
      refine ⟨d.utf8Size + offset, by rw [found, Option.map_some], ?_⟩
      rw [byteLength_cons]
      omega

/-- The place of the first bracket that begins a tag and whose backslashes are as asked for. -/
def FirstAt (admits : Nat → Prop) (text : List Char) (place : Nat) : Prop :=
  (∃ front, OpensBehind text front ∧ admits (slashes front) ∧ byteLength front = place) ∧
    ∀ front, OpensBehind text front → admits (slashes front) → place ≤ byteLength front

theorem opensAfter_none {text front : List Char} :
    OpensAfter none text front ↔ OpensBehind text front ∧ slashes front = 0 := by
  rw [OpensAfter, Option.or_none, slashes_eq_zero_iff]

theorem opener?_eq_some_iff_firstAt {text : List Char} {place : Nat} :
    opener? text = some place ↔ FirstAt (· = 0) text place := by
  constructor
  · intro found
    obtain ⟨front, opens, length⟩ := exists_of_openerAfter? found
    obtain ⟨behind, bare⟩ := opensAfter_none.1 opens
    refine ⟨⟨front, behind, bare, length⟩, fun other opens bare => ?_⟩
    obtain ⟨first, same, le⟩ := (opensAfter_none.2 ⟨opens, bare⟩).exists_le
    rw [opener?, same] at found
    exact Option.some.inj found ▸ le
  · rintro ⟨⟨front, opens, bare, length⟩, first⟩
    obtain ⟨other, found, le⟩ := (opensAfter_none.2 ⟨opens, bare⟩).exists_le
    obtain ⟨before, opens, length'⟩ := exists_of_openerAfter? found
    obtain ⟨opens, bare⟩ := opensAfter_none.1 opens
    have := first before opens bare
    rw [opener?, found]
    congr 1
    omega

theorem opener?_eq_none_iff {text : List Char} :
    opener? text = none ↔ ∀ front, OpensBehind text front → slashes front ≠ 0 := by
  constructor
  · intro none front opens bare
    obtain ⟨place, found, -⟩ := (opensAfter_none.2 ⟨opens, bare⟩).exists_le
    rw [opener?, found] at none
    cases none
  · intro escaped
    cases found : opener? text with
    | none => rfl
    | some place =>
      obtain ⟨front, opens, -⟩ := exists_of_openerAfter? found
      obtain ⟨opens, bare⟩ := opensAfter_none.1 opens
      exact absurd bare (escaped front opens)

theorem OpensBehind.eq_of_byteLength_eq {text a b : List Char} (opensA : OpensBehind text a)
    (opensB : OpensBehind text b) (same : byteLength a = byteLength b) : a = b := by
  obtain ⟨_, backA, eqA, -⟩ := opensA
  obtain ⟨_, backB, eqB, -⟩ := opensB
  have takenA : takeBytes? (byteLength a) text = some a :=
    takeBytes?_eq_some_iff.2 ⟨⟨_, eqA.symm⟩, rfl⟩
  have takenB : takeBytes? (byteLength b) text = some b :=
    takeBytes?_eq_some_iff.2 ⟨⟨_, eqB.symm⟩, rfl⟩
  rw [same, takenB] at takenA
  exact (Option.some.inj takenA).symm

theorem exists_firstAt {admits : Nat → Prop} {text front : List Char}
    (opens : OpensBehind text front) (admitted : admits (slashes front)) :
    ∃ place, FirstAt admits text place ∧ place ≤ byteLength front := by
  classical
  have some : ∃ place, ∃ front, OpensBehind text front ∧ admits (slashes front) ∧
      byteLength front = place := ⟨_, front, opens, admitted, rfl⟩
  refine ⟨Nat.find some, ⟨Nat.find_spec some, fun other opens admitted => ?_⟩, ?_⟩
  · exact Nat.find_min' some ⟨other, opens, admitted, rfl⟩
  · exact Nat.find_min' some ⟨front, opens, admitted, rfl⟩

/-- The two backslashes are one escaped backslash, so that the bracket is not escaped. -/
example : opener? "a\\\\<b".toList = none ∧ opener? "a\\\\<b<c".toList = some 5 := by
  decide +kernel

end DocCheck.Mdx
