/-
What a completed payment does to the end of the subscription it pays for.

Three blocks write the end: the extension, a referral reward that the payer may earn on this
very subscription, and a promo's bonus days.  The rewards and the bonus build on the end they
find; the extension does so for an active subscription only, and starts any other one afresh,
whatever time it had left.  An end past the range of `datetime` raises, and nothing is written.
-/

import VpnSuite.Billing.PaidTime

set_option autoImplicit false

namespace VpnSuite.Billing

open Foundations
open Foundations.PythonText

/-! ### The end after each block -/

/-- Where the time a payment buys begins. -/
def paidFrom (now : Int) (sub : Subscription) : Int :=
  if sub.status = "active" ∧ now < sub.validUntil then sub.validUntil else now

/-- The row a payment of the plan alone makes of the subscription. -/
def paidRow (now : Int) (plan : Plan) (sub : Subscription) : Subscription :=
  { sub with
    status := "active"
    validFrom := if sub.status = "active" then sub.validFrom else now
    validUntil := paidFrom now sub + plan.durationDays * day }

/-- The time left of a subscription that is not active. -/
def droppedTime (now : Int) (sub : Subscription) : Int :=
  if sub.status = "active" then 0 else max now sub.validUntil - now

/-- The days a due referral of the payer pays to the subscription just paid for. -/
def ownRewardDays (settings : BillingSettings) (userId : Int) (subscriptionId : String)
    (subscriptions : Dict String Subscription) (db : Db) : Int :=
  match dueReferral settings userId db with
  | none => 0
  | some (_, referral) =>
      if (latestActive referral.referrerUserId subscriptions.entries).any
          (fun latest => latest.1 = subscriptionId) then
        rewardDays settings referral
      else 0

/-- The bonus days of the promo a payment redeems, if it is a `bonus_days` promo. -/
def redeemedBonus (userId : Int) (promoCode : Option String) (db : Db) : Option Int :=
  (orNone (strip (orDefault promoCode ""))).bind (fun code =>
    (redeemablePromo code userId db).bind (fun promo =>
      if promo.type = "bonus_days" then some (promoDays promo) else none))

theorem extendSubscription_eq (now : Int) (plan : Plan) (sub : Subscription) :
    extendSubscription now plan sub = paidRow now plan sub := by
  unfold extendSubscription paidRow paidFrom
  by_cases active : sub.status = "active"
  · simp [active]
  · simp [active]

theorem paidFrom_eq (now : Int) (sub : Subscription) :
    paidFrom now sub = max now sub.validUntil - droppedTime now sub := by
  unfold paidFrom droppedTime
  by_cases active : sub.status = "active"
  · simp only [active, true_and, if_true]
    split <;> omega
  · simp only [active, false_and, if_false]
    omega

theorem le_paidFrom (now : Int) (sub : Subscription) : now ≤ paidFrom now sub := by
  unfold paidFrom
  split
  · rename_i running
    exact Int.le_of_lt running.2
  · exact Int.le_refl now

theorem addBonusDays_end (now days : Int) (sub : Subscription) :
    (addBonusDays now now days sub).validUntil = max now sub.validUntil + days * day := by
  unfold addBonusDays
  dsimp only
  split <;> omega

section Blocks

variable {settings : BillingSettings} {now userId : Int} {subscriptionId : String} {db : Db}
  {sub : Subscription}

/-- The reward block adds the payer's own reward to a subscription that runs until now at
least. -/
theorem rewardReferral_end (stored : db.subscriptions.get? subscriptionId = some sub)
    (running : now ≤ sub.validUntil) :
    ∃ rewarded, (rewardReferral settings (Clock.still now) userId db).subscriptions.get?
        subscriptionId = some rewarded ∧
      rewarded.validUntil = sub.validUntil +
        ownRewardDays settings userId subscriptionId db.subscriptions db * day := by
  unfold ownRewardDays
  cases due : dueReferral settings userId db with
  | none =>
      rw [rewardReferral_idle due]
      exact ⟨sub, stored, by simp⟩
  | some entry =>
      obtain ⟨id, referral⟩ := entry
      rw [(rewardReferral_due due).2]
      unfold payReferrer
      cases chosen : latestActive referral.referrerUserId db.subscriptions.entries with
      | none => exact ⟨sub, stored, by simp [chosen]⟩
      | some latest =>
          obtain ⟨other, paid⟩ := latest
          dsimp only
          by_cases own : other = subscriptionId
          · subst own
            have found := (Dict.mem_entries_iff _ _ _).mp (latestActive_eq_some chosen).1
            obtain rfl := Option.some.inj (found.symm.trans stored)
            refine ⟨_, (Dict.get?_set _ _ _ _).trans (if_pos rfl), ?_⟩
            change (addBonusDays now now _ paid).validUntil = _
            rw [addBonusDays_end, Int.max_eq_right running]
            simp [chosen]
          · refine ⟨sub, ?_, by simp [chosen, own]⟩
            rw [Dict.get?_set, if_neg (Ne.symm own)]
            exact stored

theorem redeemPromo_end {payment : Payment} {promoCode : Option String}
    (stored : db.subscriptions.get? payment.subscriptionId = some sub) :
    ∃ final, (redeemPromo (Clock.still now) payment promoCode db).subscriptions.get?
        payment.subscriptionId = some final ∧
      final.validUntil =
        match redeemedBonus payment.userId promoCode db with
        | none => sub.validUntil
        | some bonus => max now sub.validUntil + bonus * day := by
  unfold redeemedBonus
  cases coded : orNone (strip (orDefault promoCode "")) with
  | none =>
      refine ⟨sub, ?_, rfl⟩
      unfold redeemPromo
      rw [coded]
      exact stored
  | some code =>
      rw [Option.bind_some]
      cases redeemable : redeemablePromo code payment.userId db with
      | none =>
          rw [redeemPromo_idle coded redeemable]
          exact ⟨sub, stored, rfl⟩
      | some promo =>
          refine ⟨_, (redeemPromo_redeemed coded redeemable stored).2, ?_⟩
          rw [Option.bind_some]
          by_cases bonus : promo.type = "bonus_days"
          · rw [if_pos bonus, if_pos bonus]
            exact addBonusDays_end now (promoDays promo) sub
          · rw [if_neg bonus, if_neg bonus]

theorem redeemedBonus_congr {before after : Db} (promoCode : Option String)
    (codes : after.promoCodes = before.promoCodes)
    (redemptions : after.promoRedemptions = before.promoRedemptions) :
    redeemedBonus userId promoCode after = redeemedBonus userId promoCode before := by
  unfold redeemedBonus
  congr 1
  funext code
  rw [redeemablePromo_congr code userId codes redemptions]

end Blocks

/-! ### One payment -/

section Payments

variable {settings : BillingSettings} {now : Int} {payment : Payment} {promoCode : Option String}
  {db : Db} {sub : Subscription} {plan : Plan}

/-- The payer's own reward, when the extended row stands in the table. -/
def ownReward (settings : BillingSettings) (now : Int) (payment : Payment) (plan : Plan)
    (sub : Subscription) (db : Db) : Int :=
  ownRewardDays settings payment.userId payment.subscriptionId
    (db.subscriptions.set payment.subscriptionId (paidRow now plan sub)) db

/-- What the three blocks make of the end. -/
theorem writtenEffects_end
    (payable : payableSubscription db payment.userId payment.subscriptionId = some (sub, plan))
    (lasting : 0 ≤ plan.durationDays) :
    ∃ final, (writtenEffects settings (Clock.still now) payment promoCode
        db).subscriptions.get? payment.subscriptionId = some final ∧
      final.validUntil =
        match redeemedBonus payment.userId promoCode db with
        | none => (paidRow now plan sub).validUntil +
            ownReward settings now payment plan sub db * day
        | some bonus => max now ((paidRow now plan sub).validUntil +
            ownReward settings now payment plan sub db * day) + bonus * day := by
  unfold writtenEffects
  rw [payable]
  dsimp only
  generalize logged : chargeSubscription (Clock.still now) payment sub plan db = charged
  have rows : charged.subscriptions =
      db.subscriptions.set payment.subscriptionId (paidRow now plan sub) := by
    rw [← logged, ← extendSubscription_eq]
    rfl
  have referrals : charged.referrals = db.referrals := by
    rw [← logged]
    rfl
  have promos : charged.promoCodes = db.promoCodes ∧
      charged.promoRedemptions = db.promoRedemptions := by
    rw [← logged]
    exact ⟨rfl, rfl⟩
  have stored : charged.subscriptions.get? payment.subscriptionId =
      some (paidRow now plan sub) := by
    rw [rows, Dict.get?_set, if_pos rfl]
  have running : now ≤ (paidRow now plan sub).validUntil := by
    have begun := le_paidFrom now sub
    simp only [paidRow, day]
    omega
  obtain ⟨rewarded, found, atReward⟩ :=
    @rewardReferral_end settings now payment.userId _ charged _ stored running
  obtain ⟨final, kept, atEnd⟩ := @redeemPromo_end now _ _ payment promoCode found
  have codes := rewardReferral_promos settings (Clock.still now) payment.userId charged
  rw [redeemedBonus_congr promoCode (codes.1.trans promos.1) (codes.2.trans promos.2)] at atEnd
  have own : ownRewardDays settings payment.userId payment.subscriptionId charged.subscriptions
      charged = ownReward settings now payment plan sub db := by
    rw [ownReward, rows, ownRewardDays, ownRewardDays, dueReferral_congr referrals]
  rw [own] at atReward
  rw [atReward] at atEnd
  exact ⟨final, kept, atEnd⟩

/-- A payment goes through and leaves the end no earlier than it was, and that of the longer of
the time left and the present, with the days that were bought and given. -/
structure PaidTimeKept (settings : BillingSettings) (now : Int) (payment : Payment)
    (promoCode : Option String) (db : Db) (sub : Subscription) (plan : Plan)
    (final : Subscription) : Prop where
  stored : ∃ after, applyPaymentSuccessEffects settings (Clock.still now) payment promoCode db =
    .ok after ∧ after.subscriptions.get? payment.subscriptionId = some final
  noEarlier : sub.validUntil ≤ final.validUntil
  grown : final.validUntil = max now sub.validUntil +
    (plan.durationDays + (redeemedBonus payment.userId promoCode db).getD 0) * day

/-- The condition.  The subscription is active or has no time left, and the payer earns no
reward on it; or the reward makes up for the time dropped, or a bonus on a plan without days
hides a negative one.  A negative bonus does not outweigh the purchase.  No date sum raises. -/
def keepsPaidTime (settings : BillingSettings) (now : Int) (payment : Payment)
    (promoCode : Option String) (db : Db) (sub : Subscription) (plan : Plan) : Bool :=
  let own := ownReward settings now payment plan sub db
  let bonus := redeemedBonus payment.userId promoCode db
  (own * day = droppedTime now sub ||
    (bonus.isSome && plan.durationDays = 0 && sub.validUntil ≤ now && own < 0)) &&
    sub.validUntil ≤ max now sub.validUntil + (plan.durationDays + bonus.getD 0) * day &&
    !effectsOverflow settings (Clock.still now) payment promoCode db

/-- Without a bonus the end is right when the reward makes up for the time dropped. -/
theorem unboosted_iff {now previous start dropped bought own final : Int}
    (begun : start = max now previous - dropped)
    (written : final = start + bought * day + own * day) :
    final = max now previous + bought * day ↔ own * day = dropped := by
  simp only [day] at *
  omega

/-- A bonus counts from now when the end has passed, which hides a negative reward on a
subscription without time. -/
theorem boosted_iff {now previous start dropped bought own bonus final : Int}
    (lasting : 0 ≤ bought) (begun : start = max now previous - dropped)
    (drop : 0 ≤ dropped ∧ (dropped = 0 ∨ dropped = max now previous - now))
    (written : final = max now (start + bought * day + own * day) + bonus * day) :
    final = max now previous + (bought + bonus) * day ↔
      own * day = dropped ∨ bought = 0 ∧ previous ≤ now ∧ own < 0 := by
  simp only [day] at *
  omega

theorem droppedTime_cases (now : Int) (sub : Subscription) :
    0 ≤ droppedTime now sub ∧
      (droppedTime now sub = 0 ∨ droppedTime now sub = max now sub.validUntil - now) := by
  unfold droppedTime
  split
  · exact ⟨Int.le_refl 0, Or.inl rfl⟩
  · exact ⟨by omega, Or.inr rfl⟩

/-- Paid time is kept exactly under the condition. -/
theorem paid_time_kept_iff (settings : BillingSettings) (now : Int) (payment : Payment)
    (promoCode : Option String) (db : Db) (sub : Subscription) (plan : Plan)
    (payable : payableSubscription db payment.userId payment.subscriptionId = some (sub, plan))
    (lasting : 0 ≤ plan.durationDays) :
    (∃ final, PaidTimeKept settings now payment promoCode db sub plan final) ↔
      keepsPaidTime settings now payment promoCode db sub plan = true := by
  obtain ⟨final, stored, atEnd⟩ :=
    @writtenEffects_end settings now payment promoCode db sub plan payable lasting
  have sole : (∃ final, PaidTimeKept settings now payment promoCode db sub plan final) ↔
      (final.validUntil = max now sub.validUntil +
          (plan.durationDays + (redeemedBonus payment.userId promoCode db).getD 0) * day ∧
        sub.validUntil ≤ max now sub.validUntil +
          (plan.durationDays + (redeemedBonus payment.userId promoCode db).getD 0) * day) ∧
        effectsOverflow settings (Clock.still now) payment promoCode db = false := by
    constructor
    · rintro ⟨other, ⟨after, applied, found⟩, noEarlier, grown⟩
      obtain ⟨inRange, rfl⟩ := applyPaymentSuccessEffects_eq_ok.mp applied
      obtain rfl := Option.some.inj (found.symm.trans stored)
      exact ⟨⟨grown, grown ▸ noEarlier⟩, inRange⟩
    · rintro ⟨⟨grown, noEarlier⟩, inRange⟩
      exact ⟨final, ⟨_, applyPaymentSuccessEffects_eq_ok.mpr ⟨inRange, rfl⟩, stored⟩,
        grown.symm ▸ noEarlier, grown⟩
  rw [sole]
  simp only [keepsPaidTime, Bool.and_eq_true, Bool.or_eq_true, decide_eq_true_eq,
    Bool.not_eq_true']
  refine and_congr_left (fun _ => and_congr_left (fun _ => ?_))
  have begun := paidFrom_eq now sub
  cases bonus : redeemedBonus payment.userId promoCode db with
  | none =>
      rw [bonus] at atEnd
      simp only [Option.getD_none, Option.isSome_none, Bool.false_eq_true, false_and, or_false,
        Int.add_zero]
      exact unboosted_iff begun atEnd
  | some days =>
      rw [bonus] at atEnd
      simp only [Option.getD_some, Option.isSome_some, true_and, and_assoc]
      exact boosted_iff lasting begun (droppedTime_cases now sub) atEnd

end Payments

/-- A user with a weekly plan whose subscription has thirty days left. -/
def thirtyDaysLeft (status : String) : Db :=
  { users := [⟨1, 101⟩]
    plans := Dict.ofList [("week", ⟨7⟩)]
    subscriptions := Dict.ofList [("s1", ⟨1, "week", 0, 30 * day, status⟩)]
    payments := []
    paymentEvents := []
    referrals := Dict.ofList []
    promoCodes := [⟨"p1", "EXTRA", "bonus_days", 5, "active"⟩]
    promoRedemptions := []
    funnelEvents := []
    effectsApplied := [] }

def weeklyPayment : Payment :=
  ⟨0, 1, "s1", "telegram", "completed", 100, "XTR", "charge-1", none⟩

/-- While it is active the week and the bonus come on top. -/
theorem paid_time_kept_iff_active :
    (∃ final, PaidTimeKept ⟨7⟩ 0 weeklyPayment (some "EXTRA") (thirtyDaysLeft "active")
        ⟨1, "week", 0, 30 * day, "active"⟩ ⟨7⟩ final) ↔
      keepsPaidTime ⟨7⟩ 0 weeklyPayment (some "EXTRA") (thirtyDaysLeft "active")
        ⟨1, "week", 0, 30 * day, "active"⟩ ⟨7⟩ = true :=
  paid_time_kept_iff ⟨7⟩ 0 weeklyPayment (some "EXTRA") (thirtyDaysLeft "active")
    ⟨1, "week", 0, 30 * day, "active"⟩ ⟨7⟩ (by decide) (by decide)

/-- Cancelled, it ends in a week. -/
theorem cancelled_subscription_loses_time :
    ¬ ∃ final, PaidTimeKept ⟨7⟩ 0 weeklyPayment none (thirtyDaysLeft "cancelled")
        ⟨1, "week", 0, 30 * day, "cancelled"⟩ ⟨7⟩ final := by
  rintro ⟨final, ⟨after, applied, stored⟩, noEarlier, -⟩
  obtain ⟨-, rfl⟩ := applyPaymentSuccessEffects_eq_ok.mp applied
  have shortened : ((writtenEffects ⟨7⟩ (Clock.still 0) weeklyPayment none
      (thirtyDaysLeft "cancelled")).subscriptions.get? "s1").map Subscription.validUntil =
      some (7 * day) := by decide
  change (writtenEffects ⟨7⟩ (Clock.still 0) weeklyPayment none
    (thirtyDaysLeft "cancelled")).subscriptions.get? "s1" = some final at stored
  rw [stored, Option.map_some] at shortened
  rw [Option.some.inj shortened] at noEarlier
  exact absurd noEarlier (by decide)

end VpnSuite.Billing
