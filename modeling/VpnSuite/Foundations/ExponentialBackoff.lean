/-
Retrying after delays that double up to a cap.

The delay after a failure depends on how many failures in a row it ends.  What is held back
depends on the history of the attempts alone, and attempts that keep failing are spread over the
delays before them.  An attempt takes time, and counts from its end.
-/

import VpnSuite.Foundations.FailureWindows
import Mathlib.Algebra.Order.Ring.Int

set_option autoImplicit false

namespace VpnSuite.Foundations

namespace ExponentialBackoff

open FailureWindows

structure Rule where
  base : Int
  cap : Int

structure Attempt where
  startedAt : Int
  endedAt : Int
  failed : Bool

variable (rule : Rule)

/-- The delay after so many failures in a row. -/
def Rule.delay (failures : Nat) : Int := min (rule.base * 2 ^ (failures - 1)) rule.cap

/-- How many attempts have failed in a row by now. -/
def failuresOf (history : List Attempt) : Nat := failuresInARow Attempt.failed history

/-- When the next attempt is due and after how many failures; nothing after a success. -/
def retryOf (history : List Attempt) : Option (Int × Nat) :=
  if failuresOf history = 0 then none
  else history.getLast?.map (fun last =>
    (last.endedAt + rule.delay (failuresOf history), failuresOf history))

/-- Each attempt after a failed one waits for its delay. -/
def Spaced (history : List Attempt) : Prop :=
  ∀ before last next after, history = before ++ last :: next :: after → last.failed = true →
    last.endedAt + rule.delay (failuresOf (before ++ [last])) ≤ next.startedAt

/-- The first delays together. -/
def waits : Nat → Int
  | 0 => 0
  | count + 1 => waits count + rule.delay (count + 1)

variable {rule}

theorem retryOf_nil : retryOf rule [] = none := rfl

theorem retryOf_concat_passed {history : List Attempt} {attempt : Attempt}
    (passed : attempt.failed = false) : retryOf rule (history ++ [attempt]) = none := by
  unfold retryOf failuresOf
  rw [failuresInARow_concat_passed passed]
  rfl

theorem retryOf_concat_failed {history : List Attempt} {attempt : Attempt}
    (failed : attempt.failed = true) :
    retryOf rule (history ++ [attempt]) =
      some (attempt.endedAt + rule.delay (failuresOf history + 1), failuresOf history + 1) := by
  have longer : failuresOf (history ++ [attempt]) = failuresOf history + 1 :=
    failuresInARow_concat_failed failed history
  unfold retryOf
  rw [longer, if_neg (Nat.succ_ne_zero _), List.getLast?_append]
  rfl

/-- What is noted down counts the failures. -/
theorem retryOf_count (history : List Attempt) :
    ((retryOf rule history).map Prod.snd).getD 0 = failuresOf history := by
  induction history using List.reverseRecOn with
  | nil => rfl
  | append_singleton earlier attempt ih =>
      cases failed : attempt.failed with
      | false =>
          rw [retryOf_concat_passed failed]
          exact (failuresInARow_concat_passed failed earlier).symm
      | true =>
          rw [retryOf_concat_failed failed]
          exact (failuresInARow_concat_failed failed earlier).symm

theorem Rule.delay_mono (positive : 0 ≤ rule.base) {fewer more : Nat} (le : fewer ≤ more) :
    rule.delay fewer ≤ rule.delay more := by
  have powers : (2 : Int) ^ (fewer - 1) ≤ 2 ^ (more - 1) :=
    pow_le_pow_right₀ (by decide) (Nat.sub_le_sub_right le 1)
  have products := Int.mul_le_mul_of_nonneg_left powers positive
  unfold Rule.delay
  omega

theorem failuresInARow_failing {before stretch : List Attempt}
    (failing : ∀ attempt ∈ stretch, attempt.failed = true) :
    stretch.length ≤ failuresOf (before ++ stretch) := by
  induction stretch using List.reverseRecOn with
  | nil => exact Nat.zero_le _
  | append_singleton earlier attempt ih =>
      have earlierFailing : ∀ other ∈ earlier, other.failed = true := by
        intro other member
        exact failing other (List.mem_append_left _ member)
      have failed := failing attempt (List.mem_append_right _ (List.mem_singleton.mpr rfl))
      have longer : failuresOf (before ++ earlier ++ [attempt]) =
          failuresOf (before ++ earlier) + 1 := failuresInARow_concat_failed failed _
      have shorter := ih earlierFailing
      rw [List.length_append, ← List.append_assoc, longer]
      exact Nat.add_le_add_right shorter 1

theorem spaced_nil : Spaced rule [] := by
  intro before last next after split
  simp at split

/-- An attempt at the instant that is noted down, or later, keeps the attempts spaced. -/
theorem Spaced.concat {history : List Attempt} (spaced : Spaced rule history) {attempt : Attempt}
    (due : ∀ retry, retryOf rule history = some retry → retry.1 ≤ attempt.startedAt) :
    Spaced rule (history ++ [attempt]) := by
  intro before last next after split failed
  induction after using List.reverseRecOn with
  | nil =>
      have same : history ++ [attempt] = (before ++ [last]) ++ [next] := by
        rw [split, List.append_assoc]
        rfl
      rcases List.append_inj' same rfl with ⟨earlier, ends⟩
      rw [List.cons.injEq] at ends
      have noted := due _ (earlier ▸ retryOf_concat_failed failed)
      have counted : failuresOf (before ++ [last]) = failuresOf before + 1 :=
        failuresInARow_concat_failed failed before
      rw [counted, ← ends.1]
      exact noted
  | append_singleton others final _ =>
      have same : history ++ [attempt] = (before ++ last :: next :: others) ++ [final] := by
        rw [split, List.append_assoc]
        rfl
      exact spaced before last next others (List.append_inj' same rfl).1 failed

/-- Attempts that fail one after the other are spread over the delays between them. -/
theorem waits_le_elapsed (positive : 0 ≤ rule.base) {before rest : List Attempt}
    {first : Attempt} (spaced : Spaced rule (before ++ first :: rest))
    (failing : ∀ attempt ∈ first :: rest, attempt.failed = true)
    (forward : ∀ attempt ∈ rest, attempt.startedAt ≤ attempt.endedAt) :
    first.endedAt + waits rule rest.length ≤ ((first :: rest).getLast (by simp)).endedAt := by
  induction rest using List.reverseRecOn with
  | nil =>
      rw [List.getLast_singleton]
      exact Int.le_of_eq (Int.add_zero _)
  | append_singleton earlier attempt ih =>
      have split : first :: (earlier ++ [attempt]) = (first :: earlier) ++ [attempt] := rfl
      have inside : ∀ other ∈ first :: earlier, other ∈ first :: (earlier ++ [attempt]) := by
        intro other member
        rw [split]
        exact List.mem_append_left _ member
      have shorter := ih
        (by
          intro front last next after same failed
          refine spaced front last next (after ++ [attempt]) ?_ failed
          rw [split, ← List.append_assoc, same]
          simp)
        (fun other member => failing other (inside other member))
        (fun other member => forward other (List.mem_append_left _ member))
      have atEnd : (first :: earlier).dropLast ++ [(first :: earlier).getLast (by simp)] =
          first :: earlier := List.dropLast_append_getLast _
      generalize (first :: earlier).getLast (by simp) = last at shorter atEnd
      have streak := @failuresInARow_failing before (first :: earlier)
        (fun other member => failing other (inside other member))
      have lastFailed : last.failed = true := by
        apply failing last (inside last _)
        rw [← atEnd]
        exact List.mem_append_right _ (List.mem_singleton.mpr rfl)
      have waited := spaced (before ++ (first :: earlier).dropLast) last attempt []
        (by rw [split, ← atEnd]; simp) lastFailed
      rw [List.append_assoc, atEnd] at waited
      have longer := rule.delay_mono positive streak
      have taken := forward attempt (List.mem_append_right _ (List.mem_singleton.mpr rfl))
      have final : (first :: (earlier ++ [attempt])).getLast (by simp) = attempt := by simp
      rw [final, List.length_append, List.length_singleton]
      rw [List.length_cons] at longer
      unfold waits
      omega

end ExponentialBackoff

end VpnSuite.Foundations
