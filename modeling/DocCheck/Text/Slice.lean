import DocCheck.Text.Blank

set_option autoImplicit false

namespace DocCheck.Text

/-- What follows the first `bytes` bytes, if they end with a character. -/
def dropBytes? (bytes : Nat) : List Char → Option (List Char)
  | [] => if bytes = 0 then some [] else none
  | c :: rest =>
    if bytes = 0 then some (c :: rest)
    else if c.utf8Size ≤ bytes then dropBytes? (bytes - c.utf8Size) rest
    else none

/-- The first `bytes` bytes, if they end with a character. -/
def takeBytes? (bytes : Nat) : List Char → Option (List Char)
  | [] => if bytes = 0 then some [] else none
  | c :: rest =>
    if bytes = 0 then some []
    else if c.utf8Size ≤ bytes then (takeBytes? (bytes - c.utf8Size) rest).map (c :: ·)
    else none

/-- The characters between two places, which must be in order and between characters. -/
def slice? (start stop : Nat) (text : List Char) : Option (List Char) :=
  if start ≤ stop then (dropBytes? start text).bind (takeBytes? (stop - start)) else none

theorem takeBytes?_eq_some_iff {bytes : Nat} {text before : List Char} :
    takeBytes? bytes text = some before ↔ before <+: text ∧ byteLength before = bytes := by
  fun_induction takeBytes? bytes text generalizing before with
  | case1 =>
    rw [List.prefix_nil, Option.some_inj]
    exact ⟨fun h => h ▸ ⟨rfl, rfl⟩, fun h => h.1.symm⟩
  | case2 bytes h =>
    rw [List.prefix_nil]
    refine ⟨nofun, ?_⟩
    rintro ⟨rfl, hb⟩
    exact absurd hb.symm h
  | case3 c rest =>
    rw [Option.some_inj]
    refine ⟨fun h => h ▸ ⟨List.nil_prefix, rfl⟩, ?_⟩
    rintro ⟨-, hb⟩
    cases before with
    | nil => rfl
    | cons d tail =>
      have := d.utf8Size_pos
      rw [byteLength_cons] at hb
      omega
  | case4 bytes c rest h hs ih =>
    rw [Option.map_eq_some_iff]
    constructor
    · rintro ⟨tail, ht, rfl⟩
      obtain ⟨hp, hb⟩ := ih.1 ht
      exact ⟨List.cons_prefix_cons.2 ⟨rfl, hp⟩, by rw [byteLength_cons]; omega⟩
    · rintro ⟨hp, hb⟩
      cases before with
      | nil => exact absurd hb.symm h
      | cons d tail =>
        obtain ⟨rfl, tailPrefix⟩ := List.cons_prefix_cons.1 hp
        rw [byteLength_cons] at hb
        exact ⟨tail, ih.2 ⟨tailPrefix, by omega⟩, rfl⟩
  | case5 bytes c rest h hs =>
    refine ⟨nofun, ?_⟩
    rintro ⟨hp, hb⟩
    cases before with
    | nil => exact absurd hb.symm h
    | cons d tail =>
      obtain ⟨rfl, -⟩ := List.cons_prefix_cons.1 hp
      rw [byteLength_cons] at hb
      omega

theorem dropBytes?_eq (bytes : Nat) (text : List Char) :
    dropBytes? bytes text = (takeBytes? bytes text).map fun before => text.drop before.length := by
  induction text generalizing bytes with
  | nil =>
    rw [dropBytes?, takeBytes?]
    split <;> rfl
  | cons c rest ih =>
    rw [dropBytes?, takeBytes?]
    split
    · rfl
    · split
      · rw [ih, Option.map_map]
        rfl
      · rfl

theorem dropBytes?_eq_some_iff {bytes : Nat} {text rest : List Char} :
    dropBytes? bytes text = some rest ↔
      ∃ before, text = before ++ rest ∧ byteLength before = bytes := by
  rw [dropBytes?_eq, Option.map_eq_some_iff]
  constructor
  · rintro ⟨before, taken, rfl⟩
    obtain ⟨front, length⟩ := takeBytes?_eq_some_iff.1 taken
    exact ⟨before, (List.prefix_iff_eq_append.1 front).symm, length⟩
  · rintro ⟨before, rfl, length⟩
    exact ⟨before, takeBytes?_eq_some_iff.2 ⟨List.prefix_append .., length⟩, List.drop_left ..⟩

end DocCheck.Text
