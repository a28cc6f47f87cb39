/-
Payments never end a subscription that is still running.

With positive plan durations and bonus days that are not negative, each of the three
blocks of a completed payment moves the end of a subscription forward, or sets it past
the present.  The terms themselves are untouched by payments.
-/

import VpnSuite.Billing.PromoRedemption

set_option autoImplicit false

namespace VpnSuite.Billing

open Foundations
open Foundations.PythonText

/-- Every reading of the clock inside a request. -/
def Clock.still (now : Int) : Clock := ⟨now, now, now, now, now, now⟩

/-- A request handled at one instant. -/
def Completion.atInstant (now : Int) : Completion → Completion
  | .webhook delivery => .webhook { delivery with clock := Clock.still now }
  | .bot paymentId tgId telegramPaymentChargeId _ =>
      .bot paymentId tgId telegramPaymentChargeId (Clock.still now)

theorem effectsCall_clock {db : Db} {event : Completion} {now : Int} {call : EffectsCall}
    (reached : effectsCall db (event.atInstant now) = some call) :
    call.clock = Clock.still now := by
  cases event with
  | webhook delivery =>
      change webhookEffects db { delivery with clock := Clock.still now } = some call at reached
      unfold webhookEffects at reached
      split at reached
      · cases reached
      · split at reached
        · cases reached
        · split at reached
          · cases reached
          · rename_i other stored
            split at reached
            · obtain rfl := Option.some.inj reached
              unfold webhookCall at stored
              obtain ⟨_, _, afterRead⟩ := bind_eq_ok.mp stored
              obtain ⟨_, _, returned⟩ := bind_eq_ok.mp afterRead
              rw [← Except.ok.inj returned]
            · cases reached
  | bot paymentId tgId telegramPaymentChargeId clock =>
      change botEffects db paymentId tgId telegramPaymentChargeId (Clock.still now) = some call
        at reached
      unfold botEffects at reached
      split at reached
      · cases reached
      · split at reached
        · rw [← Option.some.inj reached]
        · cases reached

/-! ### Moving ends forward -/

/-- No subscription is lost, and none that runs past `now` stops doing so. -/
def Ahead (now : Int) (before after : Dict String Subscription) : Prop :=
  ∀ id sub, before.get? id = some sub →
    ∃ later, after.get? id = some later ∧ (now < sub.validUntil → now < later.validUntil)

theorem Ahead.refl (now : Int) (subscriptions : Dict String Subscription) :
    Ahead now subscriptions subscriptions := fun _ sub found => ⟨sub, found, id⟩

theorem Ahead.trans {now : Int} {first second third : Dict String Subscription}
    (left : Ahead now first second) (right : Ahead now second third) : Ahead now first third := by
  intro id sub found
  obtain ⟨middle, stored, forward⟩ := left id sub found
  obtain ⟨last, kept, further⟩ := right id middle stored
  exact ⟨last, kept, fun running => further (forward running)⟩

theorem ahead_set {now : Int} {subscriptions : Dict String Subscription} {id : String}
    {old new : Subscription} (found : subscriptions.get? id = some old)
    (forward : now < old.validUntil → now < new.validUntil) :
    Ahead now subscriptions (subscriptions.set id new) := by
  intro other sub stored
  rw [Dict.get?_set]
  by_cases here : other = id
  · rw [here] at stored
    obtain rfl := Option.some.inj (found.symm.trans stored)
    exact ⟨new, if_pos here, forward⟩
  · exact ⟨sub, by rw [if_neg here]; exact stored, fun running => running⟩

theorem extendSubscription_runs {now : Int} {plan : Plan} (positive : 0 < plan.durationDays)
    (sub : Subscription) : now < (extendSubscription now plan sub).validUntil := by
  unfold extendSubscription
  split
  · simp only [day]
    omega
  · simp only [day]
    split <;> omega

theorem addBonusDays_runs {now days : Int} (generous : 0 ≤ days) {sub : Subscription}
    (running : now < sub.validUntil) : now < (addBonusDays now now days sub).validUntil := by
  unfold addBonusDays
  simp only [day]
  split <;> omega

/-! ### Terms that only add time -/

structure GenerousTerms (settings : BillingSettings) (db : Db) : Prop where
  plans : ∀ id plan, db.plans.get? id = some plan → 0 < plan.durationDays
  rewards : ∀ id referral, db.referrals.get? id = some referral →
    0 ≤ rewardDays settings referral
  promos : ∀ promo ∈ db.promoCodes, 0 ≤ promoDays promo

theorem redeemPromo_promoCodes (clock : Clock) (payment : Payment) (promoCode : Option String)
    (db : Db) : (redeemPromo clock payment promoCode db).promoCodes = db.promoCodes := by
  unfold redeemPromo
  split
  · rfl
  · split
    · rfl
    · split
      · rfl
      · dsimp only
        split
        · rfl
        · change Db.promoCodes (ite _ _ _) = _
          split <;> rfl

section Blocks

variable {settings : BillingSettings} {now : Int} {db : Db}

theorem rewardReferral_ahead (userId : Int)
    (generous : ∀ id referral, db.referrals.get? id = some referral →
      0 ≤ rewardDays settings referral) :
    Ahead now db.subscriptions
      (rewardReferral settings (Clock.still now) userId db).subscriptions := by
  cases due : dueReferral settings userId db with
  | none =>
      rw [rewardReferral_idle due]
      exact .refl now _
  | some entry =>
      obtain ⟨id, referral⟩ := entry
      have days := generous id referral (dueReferral_eq_some due).1
      rw [(rewardReferral_due due).2]
      unfold payReferrer
      split
      · exact .refl now _
      · rename_i latest sub chosen
        have stored := (Dict.mem_entries_iff _ _ _).mp (latestActive_eq_some chosen).1
        exact ahead_set stored (addBonusDays_runs days)

theorem redeemPromo_ahead (payment : Payment) (promoCode : Option String)
    (generous : ∀ promo ∈ db.promoCodes, 0 ≤ promoDays promo) :
    Ahead now db.subscriptions
      (redeemPromo (Clock.still now) payment promoCode db).subscriptions := by
  unfold redeemPromo
  split
  · exact .refl now _
  · split
    · exact .refl now _
    · rename_i promo active
      split
      · exact .refl now _
      · dsimp only
        split
        · exact .refl now _
        · rename_i sub stored
          change Ahead now _ (Db.subscriptions (ite _ _ _))
          split
          · exact ahead_set stored
              (addBonusDays_runs (generous promo (List.mem_of_find?_eq_some active)))
          · exact .refl now _

/-- A payment at an instant leaves every running subscription running. -/
theorem complete_ahead (terms : GenerousTerms settings db) (event : Completion) :
    Ahead now db.subscriptions
      (complete settings db (event.atInstant now)).subscriptions := by
  have committed := complete_eq settings db (event.atInstant now)
  cases point : rewardPoint settings db (event.atInstant now) with
  | none =>
      rw [point] at committed
      rw [committed.subscriptions]
      exact .refl now _
  | some pair =>
      obtain ⟨call, charged⟩ := pair
      obtain ⟨reached, charge⟩ := rewardPoint_charged point
      obtain ⟨sub, plan, payable, written⟩ := charge.paid
      obtain ⟨stored, _, planned⟩ := payableSubscription_eq_some payable
      rw [point] at committed
      dsimp only at committed
      rw [effectsCall_clock reached] at committed written
      have positive := terms.plans sub.planId plan planned
      have first : Ahead now db.subscriptions charged.subscriptions := by
        rw [written]
        exact ahead_set stored (fun _ => extendSubscription_runs positive sub)
      have second := @rewardReferral_ahead settings now charged call.payment.userId (by
        rw [charge.referrals]
        exact terms.rewards)
      have codes := (rewardReferral_promos settings (Clock.still now) call.payment.userId
        charged).1
      have third := @redeemPromo_ahead now
        (rewardReferral settings (Clock.still now) call.payment.userId charged)
        call.payment call.promoCode (by
          rw [codes, charge.promoCodes]
          exact terms.promos)
      rw [committed]
      exact (first.trans second).trans third

/-- Payments do not touch the terms. -/
theorem complete_generous (terms : GenerousTerms settings db) (event : Completion) :
    GenerousTerms settings (complete settings db event) := by
  have committed := complete_eq settings db event
  have tables : (complete settings db event).plans = db.plans ∧
      (complete settings db event).promoCodes = db.promoCodes := by
    cases point : rewardPoint settings db event with
    | none =>
        rw [point] at committed
        exact ⟨committed.plans, committed.promoCodes⟩
    | some pair =>
        obtain ⟨call, charged⟩ := pair
        have charge := (rewardPoint_charged point).2
        rw [point] at committed
        dsimp only at committed
        have rewarded := rewardReferral_frame settings call.clock call.payment.userId charged
        have redeemed := redeemPromo_frame call.clock call.payment call.promoCode
          (rewardReferral settings call.clock call.payment.userId charged)
        rw [committed]
        refine ⟨?_, ?_⟩
        · rw [redeemed.accounts.plans, rewarded.accounts.plans, charge.plans]
        · rw [redeemPromo_promoCodes, (rewardReferral_promos _ _ _ _).1, charge.promoCodes]
  refine ⟨?_, ?_, ?_⟩
  · rw [tables.1]
    exact terms.plans
  · intro id referral found
    rcases complete_referral_cases settings db event id with
      same | ⟨call, charged, before, _, due, recorded⟩
    · exact terms.rewards id referral (same ▸ found)
    · obtain rfl := Option.some.inj (recorded.symm.trans found)
      exact terms.rewards id before (dueReferral_eq_some due).1
  · rw [tables.2]
    exact terms.promos

end Blocks

end VpnSuite.Billing
