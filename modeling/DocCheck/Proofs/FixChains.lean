import DocCheck.Proofs.RepairedSize

/-!
Repeated fix requests. Main statement: unless blank lines are deleted and the last line is ended, a
chain of them comes to a request that keeps no fix pass, and its texts stay within a bound that the
first one gives.
-/

set_option autoImplicit false

namespace DocCheck

open Text

/-- The text after so many fix requests, each for the text that the one before it left. -/
def fixedAfter (ruleset : Ruleset) (names : Nat → String) (text : List Char) : Nat → List Char
  | 0 => text
  | count + 1 =>
    let before := fixedAfter ruleset names text count
    (Engine.standard.answer (m := Id) ruleset ⟨names count, before⟩ true).fixedText.getD before

section FixChains

variable {ruleset : Ruleset} {names : Nat → String} {text : List Char}

theorem fixedAfter_succ (ruleset : Ruleset) (names : Nat → String) (text : List Char) (count : Nat) :
    fixedAfter ruleset names text (count + 1) = fixedAfter ruleset names text count ∨
      fixedAfter ruleset names text (count + 1) =
        repair (fixedAfter ruleset names text count)
          (ruleset.lint (fixedAfter ruleset names text count)) := by
  rw [fixedAfter]
  cases kept : (Engine.standard.answer (m := Id) ruleset
      ⟨names count, fixedAfter ruleset names text count⟩ true).fixedText with
  | none => exact .inl rfl
  | some fixed => exact .inr (Engine.standard_fixedText kept).1

/-- The request before the first text that no memory holds. -/
theorem exists_last_stored (stored : Stored text)
    (out : ∃ count, ¬ Stored (fixedAfter ruleset names text count)) :
    ∃ count, (∀ earlier ≤ count, Stored (fixedAfter ruleset names text earlier)) ∧
      ¬ Stored (fixedAfter ruleset names text (count + 1)) := by
  have first := Nat.find_spec out
  have before : ∀ earlier < Nat.find out, Stored (fixedAfter ruleset names text earlier) :=
    fun earlier early => not_not.1 (Nat.find_min out early)
  obtain ⟨count, eq⟩ : ∃ count, Nat.find out = count + 1 :=
    Nat.exists_eq_succ_of_ne_zero fun zero => first (zero ▸ stored)
  rw [eq] at first before
  exact ⟨count, fun earlier early => before earlier (Nat.lt_succ_of_le early), first⟩

variable (apart : ¬ (ruleset.enables .multipleBlanks = true ∧ ruleset.enables .finalNewline = true))

include apart

theorem holdings_fixedAfter_le {count : Nat}
    (stored : ∀ earlier < count, Stored (fixedAfter ruleset names text earlier)) :
    ruleset.holdings (fixedAfter ruleset names text count) ≤ ruleset.holdings text := by
  induction count with
  | zero => exact Nat.le_refl _
  | succ count ih =>
    have before := ih fun earlier early => stored earlier (Nat.lt_succ_of_lt early)
    rcases fixedAfter_succ ruleset names text count with same | next
    · rwa [same]
    · rw [next]
      exact Nat.le_trans (Ruleset.holdings_repair_le (stored count count.lt_succ_self) apart) before

theorem byteLength_fixedAfter_le {count : Nat}
    (stored : ∀ earlier < count, Stored (fixedAfter ruleset names text earlier)) :
    byteLength (fixedAfter ruleset names text count) ≤ ruleset.reach text :=
  calc byteLength (fixedAfter ruleset names text count)
    _ ≤ room ruleset.tabWidth (fixedAfter ruleset names text count) := Nat.le_add_right ..
    _ ≤ ruleset.holdings (fixedAfter ruleset names text count) := ruleset.room_le_holdings _
    _ ≤ ruleset.holdings text := holdings_fixedAfter_le apart stored
    _ ≤ ruleset.reach text := ruleset.holdings_le_reach text

theorem stored_fixedAfter (small : ruleset.reach text < signedWordLimit) (count : Nat) :
    Stored (fixedAfter ruleset names text count) := by
  induction count using Nat.strong_induction_on with
  | h count ih => exact Nat.lt_of_le_of_lt (byteLength_fixedAfter_le apart ih) small

/-- Ranks do not go down for ever. -/
theorem exists_unfixed_of_stored (stored : ∀ count, Stored (fixedAfter ruleset names text count)) :
    ∃ count, (Engine.standard.answer (m := Id) ruleset
      ⟨names count, fixedAfter ruleset names text count⟩ true).fixedText = none := by
  have : IsWellFounded (List Char) (InvImage Ruleset.Below ruleset.rank) :=
    ⟨InvImage.wf ruleset.rank Ruleset.wellFounded_below⟩
  obtain ⟨count, stays⟩ := WellFounded.not_rel_apply_succ
    (r := InvImage Ruleset.Below ruleset.rank) (fixedAfter ruleset names text)
  refine ⟨count, ?_⟩
  rw [Option.eq_none_iff_forall_ne_some]
  intro fixed kept
  obtain ⟨eq, changed⟩ := Engine.standard_fixedText kept
  have next : fixedAfter ruleset names text (count + 1) = fixed := by
    simp [fixedAfter, kept]
  apply stays
  rw [next, eq]
  exact Ruleset.rank_repair (stored count) apart (eq ▸ changed)

end FixChains

/-- Where memory has room for the text that requests start from, with the spaces for its tabs and what a
pass may add to each line, it has room for every text of the chain, and the chain comes to a request that
keeps no fix pass. In any case it comes to such a request or to a text that no memory holds. -/
theorem exists_fixedText_eq_none (ruleset : Ruleset)
    (apart : ¬ (ruleset.enables .multipleBlanks = true ∧ ruleset.enables .finalNewline = true))
    (names : Nat → String) (text : List Char) (stored : Stored text) :
    (ruleset.reach text < signedWordLimit →
      (∀ count, byteLength (fixedAfter ruleset names text count) ≤ ruleset.reach text) ∧
      ∃ count, (Engine.standard.answer (m := Id) ruleset
        ⟨names count, fixedAfter ruleset names text count⟩ true).fixedText = none) ∧
    ∃ count, (∀ earlier ≤ count, Stored (fixedAfter ruleset names text earlier)) ∧
      ((Engine.standard.answer (m := Id) ruleset
          ⟨names count, fixedAfter ruleset names text count⟩ true).fixedText = none ∨
        ¬ Stored (fixedAfter ruleset names text (count + 1))) := by
  constructor
  · intro small
    have all : ∀ count, Stored (fixedAfter ruleset names text count) := stored_fixedAfter apart small
    exact ⟨fun count => byteLength_fixedAfter_le apart fun earlier _ => all earlier,
      exists_unfixed_of_stored apart all⟩
  · by_cases all : ∀ count, Stored (fixedAfter ruleset names text count)
    · obtain ⟨count, unfixed⟩ := exists_unfixed_of_stored apart all
      exact ⟨count, fun earlier _ => all earlier, .inl unfixed⟩
    · obtain ⟨count, before, out⟩ := exists_last_stored stored (not_forall.1 all)
      exact ⟨count, before, .inr out⟩

def tidiedTitles : Ruleset :=
  ⟨[⟨.hardTabs { spacesPerTab := 4 }, .error⟩, ⟨.missingSpace {}, .error⟩,
    ⟨.trailingPunctuation {}, .error⟩, ⟨.finalNewline {}, .error⟩], by decide⟩

theorem exists_fixedText_eq_none_title :
    tidiedTitles.reach "#A\tB.!".toList = 44 ∧
    (∀ count, byteLength (fixedAfter tidiedTitles (fun _ => "readme") "#A\tB.!".toList count) ≤ 44) ∧
    ∃ count, (Engine.standard.answer (m := Id) tidiedTitles
      ⟨"readme", fixedAfter tidiedTitles (fun _ => "readme") "#A\tB.!".toList count⟩
      true).fixedText = none := by
  have settles := exists_fixedText_eq_none tidiedTitles (by decide) (fun _ => "readme")
    "#A\tB.!".toList (by decide)
  have bound : tidiedTitles.reach "#A\tB.!".toList = 44 := by decide
  obtain ⟨short, unfixed⟩ := settles.1 (by decide)
  exact ⟨bound, bound ▸ short, unfixed⟩

end DocCheck
