/-
A circuit breaker whose refusals count as failures.

Failures are counted; one that makes them reach a threshold opens the breaker for a while and
starts the count anew.  When the calls that an open breaker refuses are counted as well, every
threshold of them opens it again, from the instant of the last: a caller that comes back
often enough is refused for ever.

Instants are integers, and what a call that is let through makes of the breaker is arbitrary.
-/

import Mathlib.Data.Nat.Basic
import Mathlib.Tactic.Common

set_option autoImplicit false

namespace VpnSuite.Foundations.CircuitBreakers

structure Breaker where
  failures : Nat
  openUntil : Int

structure Rule where
  threshold : Int
  openFor : Int

def Breaker.closed : Breaker := ⟨0, 0⟩

def Breaker.isOpen (breaker : Breaker) (now : Int) : Bool := now < breaker.openUntil

def Breaker.fail (breaker : Breaker) (rule : Rule) (now : Int) : Breaker :=
  if rule.threshold ≤ breaker.failures + 1 then ⟨0, now + rule.openFor⟩
  else ⟨breaker.failures + 1, breaker.openUntil⟩

/-- How many failures open the breaker; a single one, when the threshold is not positive. -/
def Rule.limit (rule : Rule) : Nat := max 1 rule.threshold.toNat

/-- The breaker after so many refusals, since it was opened at the first instant. -/
def refusedTimes (rule : Rule) (instant : Nat → Int) : Nat → Breaker
  | 0 => ⟨0, instant 0 + rule.openFor⟩
  | count + 1 => (refusedTimes rule instant count).fail rule (instant (count + 1))

/-- The breaker after so many calls; what is let through is treated by `outcome`. -/
def calledTimes (rule : Rule) (outcome : Nat → Breaker → Breaker) (instant : Nat → Int) :
    Nat → Breaker
  | 0 => ⟨0, instant 0 + rule.openFor⟩
  | count + 1 =>
      let breaker := calledTimes rule outcome instant count
      if breaker.isOpen (instant (count + 1)) then breaker.fail rule (instant (count + 1))
      else outcome (count + 1) breaker

section Refusals

variable {rule : Rule} {instant : Nat → Int} {outcome : Nat → Breaker → Breaker}

theorem fail_eq (breaker : Breaker) (rule : Rule) (now : Int) :
    breaker.fail rule now =
      if rule.limit ≤ breaker.failures + 1 then ⟨0, now + rule.openFor⟩
      else ⟨breaker.failures + 1, breaker.openUntil⟩ := by
  unfold Breaker.fail
  have same : rule.threshold ≤ breaker.failures + 1 ↔ rule.limit ≤ breaker.failures + 1 := by
    unfold Rule.limit
    omega
  by_cases reached : rule.threshold ≤ breaker.failures + 1
  · rw [if_pos reached, if_pos (same.mp reached)]
  · rw [if_neg reached, if_neg (fun limit => reached (same.mpr limit))]

theorem limit_pos (rule : Rule) : 0 < rule.limit := by
  unfold Rule.limit
  omega

/-- Every full round of refusals opens the breaker anew. -/
theorem refusedTimes_eq (rule : Rule) (instant : Nat → Int) (count : Nat) :
    refusedTimes rule instant count =
      ⟨count % rule.limit, instant (rule.limit * (count / rule.limit)) + rule.openFor⟩ := by
  induction count with
  | zero => simp [refusedTimes]
  | succ count ih =>
      have positive := limit_pos rule
      have whole := Nat.div_add_mod count rule.limit
      have below := Nat.mod_lt count positive
      unfold refusedTimes
      rw [ih, fail_eq]
      by_cases last : rule.limit ≤ count % rule.limit + 1
      · have next : count + 1 = rule.limit * (count / rule.limit + 1) := by
          rw [Nat.mul_add, Nat.mul_one]
          omega
        rw [if_pos last, next, Nat.mul_mod_right, Nat.mul_div_cancel_left _ positive]
      · have next : count + 1 = count % rule.limit + 1 + rule.limit * (count / rule.limit) := by
          omega
        rw [if_neg last]
        congr 1
        · rw [next, Nat.add_mul_mod_self_left, Nat.mod_eq_of_lt (Nat.lt_of_not_le last)]
        · have same : (count + 1) / rule.limit = count / rule.limit := by
            rw [next, Nat.add_mul_div_left _ _ positive,
              Nat.div_eq_of_lt (Nat.lt_of_not_le last), Nat.zero_add]
          rw [same]

theorem calledTimes_of_refused {count : Nat}
    (refused : ∀ earlier < count,
      (calledTimes rule outcome instant earlier).isOpen (instant (earlier + 1)) = true) :
    calledTimes rule outcome instant count = refusedTimes rule instant count := by
  induction count with
  | zero => rfl
  | succ count ih =>
      have before := ih (fun earlier less => refused earlier (by omega))
      have here := refused count (by omega)
      rw [before] at here
      simp only [calledTimes, refusedTimes, before, here, if_true]

/-- Call after call is refused exactly when each comes while the last full round of refusals
still holds the breaker open. -/
theorem refused_throughout_iff (rule : Rule) (outcome : Nat → Breaker → Breaker)
    (instant : Nat → Int) (count : Nat) :
    (∀ earlier < count,
        (calledTimes rule outcome instant earlier).isOpen (instant (earlier + 1)) = true) ↔
      ∀ earlier < count,
        instant (earlier + 1) <
          instant (rule.limit * (earlier / rule.limit)) + rule.openFor := by
  have holds (earlier : Nat) : (refusedTimes rule instant earlier).isOpen (instant (earlier + 1)) =
      true ↔ instant (earlier + 1) <
        instant (rule.limit * (earlier / rule.limit)) + rule.openFor := by
    rw [refusedTimes_eq]
    exact decide_eq_true_iff
  constructor
  · intro refused earlier less
    have same : calledTimes rule outcome instant earlier = refusedTimes rule instant earlier :=
      calledTimes_of_refused (fun first before => refused first (by omega))
    rw [← holds, ← same]
    exact refused earlier less
  · intro timed earlier
    induction earlier using Nat.strong_induction_on with
    | _ earlier ih =>
        intro less
        have same : calledTimes rule outcome instant earlier = refusedTimes rule instant earlier :=
          calledTimes_of_refused (fun first before => ih first before (by omega))
        rw [same, holds]
        exact timed earlier less

end Refusals

end VpnSuite.Foundations.CircuitBreakers
