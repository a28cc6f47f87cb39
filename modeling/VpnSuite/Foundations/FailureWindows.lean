/-
A flag that falls when the last verdicts all fail, and rises when one does not.

The verdicts are kept, and each new one is judged together with those before it.  The flag is
down after a run exactly when it was and no verdict raised it, or when the run ends in failures
enough, those from before the run counted in.
-/

import Mathlib.Data.List.DropRight
import Mathlib.Data.List.Induction

set_option autoImplicit false

namespace VpnSuite.Foundations

variable {α : Type}

namespace FailureWindows

variable (fails : α → Bool)

/-- How many verdicts fail at the end. -/
def failuresInARow (verdicts : List α) : Nat := (verdicts.rtakeWhile fails).length

/-- The flag after a verdict, judged with the ones before it. -/
def judged (window : Nat) (past : List α) (flag : Bool) (verdict : α) : Bool :=
  if fails verdict then
    if window ≤ failuresInARow fails (past ++ [verdict]) then false else flag
  else true

def step (window : Nat) (state : Bool × List α) (verdict : α) : Bool × List α :=
  (judged fails window state.2 state.1 verdict, state.2 ++ [verdict])

variable {fails}

theorem step_eq (window : Nat) (flag : Bool) (past : List α) (verdict : α) :
    step fails window (flag, past) verdict =
      (judged fails window past flag verdict, past ++ [verdict]) := rfl

theorem failuresInARow_concat_failed {verdict : α} (failed : fails verdict = true)
    (past : List α) :
    failuresInARow fails (past ++ [verdict]) = failuresInARow fails past + 1 := by
  unfold failuresInARow
  rw [List.rtakeWhile_concat_pos fails past verdict failed, List.length_append]
  rfl

theorem failuresInARow_concat_passed {verdict : α} (passed : fails verdict = false)
    (past : List α) : failuresInARow fails (past ++ [verdict]) = 0 := by
  unfold failuresInARow
  rw [List.rtakeWhile_concat_neg fails past verdict (Bool.eq_false_iff.mp passed)]
  rfl

theorem le_takeWhile_iff (window : Nat) (verdicts : List α) :
    window ≤ (verdicts.takeWhile fails).length ↔
      window ≤ verdicts.length ∧ ∀ verdict ∈ verdicts.take window, fails verdict = true := by
  induction verdicts generalizing window with
  | nil => simp
  | cons verdict rest ih =>
      cases window with
      | zero => simp
      | succ smaller =>
          cases failed : fails verdict with
          | false =>
              rw [List.takeWhile_cons_of_neg (Bool.eq_false_iff.mp failed)]
              simp [failed]
          | true =>
              rw [List.takeWhile_cons_of_pos failed, List.length_cons, List.length_cons,
                Nat.add_le_add_iff_right, Nat.add_le_add_iff_right, ih, List.take_succ_cons]
              simp [failed]

/-- So many verdicts, the last ones first, are there and fail. -/
theorem le_failuresInARow_iff (window : Nat) (verdicts : List α) :
    window ≤ failuresInARow fails verdicts ↔
      window ≤ (verdicts.reverse.take window).length ∧
        ∀ verdict ∈ verdicts.reverse.take window, fails verdict = true := by
  unfold failuresInARow List.rtakeWhile
  rw [List.length_reverse, le_takeWhile_iff, List.length_take]
  apply and_congr_left'
  omega

theorem past_of_run (window : Nat) (flag : Bool) (past verdicts : List α) :
    (verdicts.foldl (step fails window) (flag, past)).2 = past ++ verdicts := by
  induction verdicts generalizing flag past with
  | nil => exact (List.append_nil past).symm
  | cons verdict rest ih =>
      rw [List.foldl_cons, step_eq, ih, List.append_assoc]
      rfl

/-- The flag is down after a run exactly when it stayed down, or the run ends in failures
enough. -/
theorem fallen_iff (window : Nat) (flag : Bool) (past verdicts : List α) :
    (verdicts.foldl (step fails window) (flag, past)).1 = false ↔
      (flag = false ∧ ∀ verdict ∈ verdicts, fails verdict = true) ∨
        (verdicts ≠ [] ∧ max 1 window ≤ failuresInARow fails (past ++ verdicts)) := by
  induction verdicts using List.reverseRecOn with
  | nil => simp
  | append_singleton earlier verdict ih =>
      have state : earlier.foldl (step fails window) (flag, past) =
          ((earlier.foldl (step fails window) (flag, past)).1, past ++ earlier) :=
        Prod.ext rfl (past_of_run window flag past earlier)
      rw [List.foldl_append, state, List.foldl_cons, List.foldl_nil, step_eq]
      generalize (earlier.foldl (step fails window) (flag, past)).1 = before at ih
      cases failed : fails verdict with
      | false =>
          unfold judged
          rw [← List.append_assoc, failuresInARow_concat_passed failed]
          simp [failed]
      | true =>
          have longer := failuresInARow_concat_failed failed (past ++ earlier)
          unfold judged
          rw [← List.append_assoc, longer]
          simp only [failed, if_true]
          have some : earlier ++ [verdict] ≠ [] := by simp
          have all : (∀ other ∈ earlier ++ [verdict], fails other = true) ↔
              ∀ other ∈ earlier, fails other = true := by
            rw [List.forall_mem_append, List.forall_mem_singleton]
            exact and_iff_left failed
          rw [all]
          by_cases enough : window ≤ failuresInARow fails (past ++ earlier) + 1
          · rw [if_pos enough]
            exact iff_of_true rfl (Or.inr ⟨some, by omega⟩)
          · rw [if_neg enough, ih]
            constructor
            · intro fallen
              rcases fallen with stayed | ended
              · exact Or.inl stayed
              · exact absurd ended.2 (by omega)
            · intro fallen
              rcases fallen with stayed | ended
              · exact Or.inl stayed
              · exact absurd ended.2 (by omega)

end FailureWindows

end VpnSuite.Foundations
