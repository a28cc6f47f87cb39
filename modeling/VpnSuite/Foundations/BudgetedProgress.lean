/-
Progress of a repeated pass that handles a bounded number of work items.

A pass takes the first `budget` items of a duplicate-free work list.  Items it
settles leave the list; sticky items return to it in the next pass.  The lemmas
bound the settleable work left after one pass and after any number of passes.

The state, the items and the pass are arbitrary.
-/

import Mathlib.Data.List.Nodup
import Mathlib.Data.List.Perm.Subperm
import Mathlib.Logic.Function.Iterate

set_option autoImplicit false

namespace VpnSuite.Foundations.BudgetedProgress

section Measures

variable {σ : Type} (pass : σ → σ) (measure : σ → Nat) (decrease : Nat)

theorem iterate_le (progress : ∀ state, measure (pass state) ≤ measure state - decrease)
    (count : Nat) (state : σ) :
    measure (pass^[count] state) ≤ measure state - count * decrease := by
  induction count with
  | zero => simp
  | succ count ih =>
      rw [Function.iterate_succ_apply', Nat.succ_mul]
      have last := progress (pass^[count] state)
      omega

theorem iterate_eq (progress : ∀ state, measure (pass state) = measure state - decrease)
    (count : Nat) (state : σ) :
    measure (pass^[count] state) = measure state - count * decrease := by
  induction count with
  | zero => simp
  | succ count ih =>
      rw [Function.iterate_succ_apply', progress, ih, Nat.succ_mul]
      omega

end Measures

section WorkLists

variable {κ : Type}

/-- A duplicate-free list that lost exactly its first `budget` items is, up to
order, the rest of the old one. -/
theorem length_eq_sub_of_settled {before after : List κ} {budget : Nat}
    (beforeNodup : before.Nodup) (afterNodup : after.Nodup)
    (settled : ∀ item, item ∈ after ↔ item ∈ before.drop budget) :
    after.length = before.length - budget := by
  have rest : after.Perm (before.drop budget) :=
    (List.perm_ext_iff_of_nodup afterNodup
      (beforeNodup.sublist (List.drop_sublist budget before))).mpr settled
  rw [rest.length_eq, List.length_drop]

/-- With sticky items in the way, one pass still settles all of the budget that
the sticky items do not use up. -/
theorem length_filter_le_sub {before after bound : List κ} {budget : Nat} (sticky : κ → Bool)
    (beforeNodup : before.Nodup) (afterNodup : after.Nodup)
    (stickyBound : ∀ item ∈ before, sticky item = true → item ∈ bound)
    (settled : ∀ item ∈ after, item ∈ before.drop budget ∨ sticky item = true) :
    (after.filter (fun item => !sticky item)).length ≤
      (before.filter (fun item => !sticky item)).length - (budget - bound.length) := by
  have left : (after.filter (fun item => !sticky item)).length ≤
      ((before.drop budget).filter (fun item => !sticky item)).length := by
    refine (List.subperm_of_subset (afterNodup.filter _) ?_).length_le
    intro item member
    obtain ⟨inAfter, notSticky⟩ := List.mem_filter.mp member
    rcases settled item inAfter with inRest | isSticky
    · exact List.mem_filter.mpr ⟨inRest, notSticky⟩
    · rw [isSticky] at notSticky
      cases notSticky
  have split : ((before.take budget).filter (fun item => !sticky item)).length +
      ((before.drop budget).filter (fun item => !sticky item)).length =
        (before.filter (fun item => !sticky item)).length := by
    rw [← List.length_append, ← List.filter_append, List.take_append_drop]
  have takeSplit : ((before.take budget).filter sticky).length +
      ((before.take budget).filter (fun item => !sticky item)).length =
        (before.take budget).length := by
    simpa using (List.length_eq_length_filter_add sticky (l := before.take budget)).symm
  have stickyFew : ((before.take budget).filter sticky).length ≤ bound.length := by
    have takeNodup : (before.take budget).Nodup :=
      beforeNodup.sublist (List.take_sublist budget before)
    refine (List.subperm_of_subset (takeNodup.filter _) ?_).length_le
    intro item member
    obtain ⟨inTake, isSticky⟩ := List.mem_filter.mp member
    exact stickyBound item (List.mem_of_mem_take inTake) isSticky
  rw [List.length_take] at takeSplit
  by_cases whole : before.length ≤ budget
  · have restEmpty : before.drop budget = [] := List.drop_eq_nil_of_le whole
    rw [restEmpty] at left
    simp only [List.filter_nil, List.length_nil] at left
    omega
  · omega

end WorkLists

end VpnSuite.Foundations.BudgetedProgress
