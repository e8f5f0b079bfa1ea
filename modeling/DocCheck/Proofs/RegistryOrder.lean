import DocCheck.Ruleset.Basic
import Mathlib.Data.List.Nodup
import Mathlib.Data.List.Perm.Basic

set_option autoImplicit false

namespace DocCheck

namespace RuleId

def position (id : RuleId) : Nat :=
  all.idxOf id

/-- The rules of the list stand in the order of evaluation, none twice. -/
def Ascends {α : Type} (id : α → RuleId) (as : List α) : Prop :=
  as.Pairwise fun a b => (id a).position < (id b).position

theorem ascends_all : Ascends (fun id => id) all := by
  rw [Ascends]
  decide

section Ascending

variable {α : Type} {id : α → RuleId} {as bs : List α}

theorem Ascends.nodup (ordered : Ascends id as) : as.Nodup := by
  refine List.Pairwise.imp ?_ ordered
  rintro a b before rfl
  exact absurd before (Nat.lt_irrefl _)

/-- Lists that hold the same and stand in the order of evaluation are equal. -/
theorem Ascends.eq_of_mem_iff (left : Ascends id as) (right : Ascends id bs)
    (same : ∀ a, a ∈ as ↔ a ∈ bs) : as = bs := by
  have perm : as.Perm bs := (List.perm_ext_iff_of_nodup left.nodup right.nodup).2 same
  refine List.Perm.eq_of_pairwise ?_ left right perm
  intro a b _ _ before behind
  exact absurd (Nat.lt_trans before behind) (Nat.lt_irrefl _)

end Ascending

end RuleId

namespace Ruleset

theorem ascends (ruleset : Ruleset) : RuleId.Ascends ConfiguredRule.id ruleset.rules := by
  have ids : RuleId.Ascends (fun id => id) (ruleset.rules.map ConfiguredRule.id) :=
    RuleId.ascends_all.sublist ruleset.ordered
  rwa [RuleId.Ascends, List.pairwise_map] at ids

theorem eq_of_id_eq {ruleset : Ruleset} {a b : ConfiguredRule} (ha : a ∈ ruleset.rules)
    (hb : b ∈ ruleset.rules) (same : a.id = b.id) : a = b :=
  List.inj_on_of_nodup_map ruleset.nodup_ids ha hb same

/-- A ruleset is determined by the rules that it holds. -/
theorem eq_of_mem_rules_iff {a b : Ruleset}
    (same : ∀ configured, configured ∈ a.rules ↔ configured ∈ b.rules) : a = b := by
  have rules : a.rules = b.rules := a.ascends.eq_of_mem_iff b.ascends same
  cases a
  cases b
  congr

theorem filter_rules_id {ruleset : Ruleset} {configured : ConfiguredRule}
    (enabled : configured ∈ ruleset.rules) :
    (ruleset.rules.filter fun other => other.id = configured.id) = [configured] := by
  have found : RuleId.Ascends ConfiguredRule.id
      (ruleset.rules.filter fun other => other.id = configured.id) :=
    ruleset.ascends.sublist List.filter_sublist
  refine found.eq_of_mem_iff (List.pairwise_singleton ..) ?_
  intro other
  rw [List.mem_filter, List.mem_singleton, decide_eq_true_iff]
  constructor
  · rintro ⟨member, same⟩
    exact eq_of_id_eq member enabled same
  · rintro rfl
    exact ⟨enabled, rfl⟩

end Ruleset

end DocCheck
