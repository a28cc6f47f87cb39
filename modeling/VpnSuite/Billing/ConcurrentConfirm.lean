/-
Two payments of one subscription completed at the same time.

Both entry points (`process_payment_webhook`, `complete_pending_payment_by_bot`)
check their payment, read the subscription, and commit the end date they computed
from what they read.  The bot loads the subscription together with the payment but
with a statement of its own, and a later select returns that same object.  No row
is locked, so each pair of confirmations is a guarded race over the subscription.
-/

import VpnSuite.Billing.PaymentModel
import VpnSuite.Foundations.GuardedRace

set_option autoImplicit false

namespace VpnSuite.Billing

open Foundations
open Foundations.PythonText
open Foundations.GuardedRace

/-- The entry point that completes a payment. -/
inductive Entry where
  | webhook
  | bot
  deriving DecidableEq, Repr

/-- One confirmation: its payment, its clock reading and the plan it reads. -/
structure Confirmation where
  entry : Entry
  paymentKey : String
  now : Int
  plan : Plan
  deriving DecidableEq, Repr

/-- The webhook goes on when there is no payment yet, the bot when it is pending. -/
def Confirmation.admits (confirmation : Confirmation) (status : Option String) : Bool :=
  match confirmation.entry with
  | .webhook => status = none
  | .bot => status = some "pending"

def Confirmation.extend (confirmation : Confirmation) (sub : Subscription) : Subscription :=
  extendSubscription confirmation.now confirmation.plan sub

def confirmationRace (confirmations : Side → Confirmation) :
    Program String (Option String) Subscription :=
  { guardOf := fun side => (confirmations side).paymentKey
    admits := fun side => (confirmations side).admits
    closed := some "completed"
    shuts := by
      intro side
      unfold Confirmation.admits
      cases (confirmations side).entry <;> decide
    update := fun side => (confirmations side).extend }

/-- The subscription after both confirmations have committed. -/
def confirmedSubscription (confirmations : Side → Confirmation)
    (statuses : String → Option String) (sub : Subscription) (schedule : List Side) :
    Subscription :=
  (execute (confirmationRace confirmations) (begin statuses sub) schedule).cell

/-! ### Active subscriptions paid beyond the clock -/

theorem extendSubscription_active {now : Int} {plan : Plan} {sub : Subscription}
    (active : sub.status = "active") (ahead : now < sub.validUntil) :
    extendSubscription now plan sub =
      { sub with validUntil := sub.validUntil + plan.durationDays * day } := by
  rw [extendSubscription, if_neg (by simpa using active), if_pos ahead]

theorem positive_span {days : Int} (positive : 0 < days) : 0 < days * day := by
  unfold day
  omega

/-- Two extensions in a row add both durations. -/
theorem extend_extend {first second : Confirmation} {sub : Subscription}
    (active : sub.status = "active") (firstAhead : first.now < sub.validUntil)
    (secondAhead : second.now < sub.validUntil) (positive : 0 < first.plan.durationDays) :
    second.extend (first.extend sub) =
      { sub with
        validUntil := sub.validUntil + first.plan.durationDays * day +
          second.plan.durationDays * day } := by
  have span := positive_span positive
  have extended : first.extend sub =
      { sub with validUntil := sub.validUntil + first.plan.durationDays * day } :=
    extendSubscription_active active firstAhead
  have stillAhead : second.now < sub.validUntil + first.plan.durationDays * day := by omega
  rw [extended]
  exact extendSubscription_active active stillAhead

/-! ### Every interleaving of two confirmations -/

section Race

variable {confirmations : Side → Confirmation} {statuses : String → Option String}
  {schedule : List Side}
  (ready : ∀ side, (confirmations side).admits (statuses (confirmations side).paymentKey) = true)
  (complete : Complete schedule)

include ready complete in
theorem confirmedSubscription_settled (sub : Subscription) :
    ∃ side, confirmedSubscription confirmations statuses sub schedule =
      settledCell (confirmationRace confirmations) side (lag schedule) sub :=
  execute_settled ready sub complete

/-- Different payments: a confirmation that has not read the subscription when the
other one commits extends what that one wrote. -/
theorem settledCell_serial (side : Side) {count : Nat} (sub : Subscription)
    (different : (confirmations .left).paymentKey ≠ (confirmations .right).paymentKey)
    (behind : count ≤ 1) :
    settledCell (confirmationRace confirmations) side count sub =
      (confirmations side.other).extend ((confirmations side).extend sub) := by
  have apart : (confirmations side.other).paymentKey ≠ (confirmations side).paymentKey := by
    cases side with
    | left => exact different.symm
    | right => exact different
  have few : count = 0 ∨ count = 1 := by omega
  rcases few with none | one
  · subst none
    exact if_neg apart
  · subst one
    rfl

/-- A confirmation that read the subscription before the first commit overwrites it. -/
theorem settledCell_lost (side : Side) {count : Nat} (sub : Subscription) (late : ¬ count ≤ 1) :
    settledCell (confirmationRace confirmations) side count sub =
      (confirmations side.other).extend sub := by
  match count, late with
  | 0, late => exact absurd (Nat.zero_le 1) late
  | 1, late => exact absurd (Nat.le_refl 1) late
  | _ + 2, _ => rfl

/-- The same payment: only a confirmation that read the payment before and the
subscription after the first commit extends a second time. -/
theorem settledCell_once (side : Side) {count : Nat} (sub : Subscription)
    (same : (confirmations .left).paymentKey = (confirmations .right).paymentKey)
    (whole : count ≠ 1) :
    ∃ next, settledCell (confirmationRace confirmations) side count sub =
      (confirmations next).extend sub := by
  have shared : (confirmations side.other).paymentKey = (confirmations side).paymentKey := by
    cases side with
    | left => exact same.symm
    | right => exact same
  by_cases first : count = 0
  · subst first
    exact ⟨side, if_pos shared⟩
  · exact ⟨side.other, settledCell_lost side sub (by omega)⟩

variable {sub : Subscription} (active : sub.status = "active")
  (ahead : ∀ side, (confirmations side).now < sub.validUntil)
  (positive : ∀ side, 0 < (confirmations side).plan.durationDays)

include active ahead in
theorem extend_validUntil (side : Side) :
    ((confirmations side).extend sub).validUntil =
      sub.validUntil + (confirmations side).plan.durationDays * day := by
  rw [Confirmation.extend, extendSubscription_active active (ahead side)]

include active ahead positive in
theorem extend_extend_validUntil (side : Side) :
    ((confirmations side.other).extend ((confirmations side).extend sub)).validUntil =
      sub.validUntil + (confirmations .left).plan.durationDays * day +
        (confirmations .right).plan.durationDays * day := by
  rw [extend_extend active (ahead side) (ahead side.other) (positive side)]
  cases side with
  | left => rfl
  | right =>
      simp only [Side.other]
      omega

include active ahead positive in
theorem settledCell_both_iff (side : Side) {count : Nat}
    (different : (confirmations .left).paymentKey ≠ (confirmations .right).paymentKey) :
    (settledCell (confirmationRace confirmations) side count sub).validUntil =
        sub.validUntil + (confirmations .left).plan.durationDays * day +
          (confirmations .right).plan.durationDays * day ↔ count ≤ 1 := by
  have leftSpan := positive_span (positive .left)
  have rightSpan := positive_span (positive .right)
  constructor
  · intro both
    by_contra late
    rw [settledCell_lost side sub late, extend_validUntil active ahead] at both
    cases side with
    | left =>
        simp only [Side.other] at both
        omega
    | right =>
        simp only [Side.other] at both
        omega
  · intro behind
    rw [settledCell_serial side sub different behind]
    exact extend_extend_validUntil active ahead positive side

include active ahead positive in
theorem settledCell_single_iff (side : Side) {count : Nat}
    (same : (confirmations .left).paymentKey = (confirmations .right).paymentKey)
    (samePlan : (confirmations .left).plan = (confirmations .right).plan) :
    (settledCell (confirmationRace confirmations) side count sub).validUntil =
        sub.validUntil + (confirmations .left).plan.durationDays * day ↔ count ≠ 1 := by
  have rightSpan := positive_span (positive .right)
  constructor
  · intro single torn
    subst torn
    have twice := extend_extend_validUntil active ahead positive side
    rw [settledCell] at single
    change ((confirmations side.other).extend ((confirmations side).extend sub)).validUntil = _
      at single
    omega
  · intro whole
    obtain ⟨next, once⟩ := settledCell_once side sub same whole
    rw [once, extend_validUntil active ahead next]
    cases next with
    | left => rfl
    | right => rw [samePlan]

end Race

/-- Two confirmations of different payments end in a serial result, and two of one
invoice by the bot add one duration, exactly as long as nothing is read across a
commit. -/
theorem concurrent_confirmations_iff (confirmations : Side → Confirmation)
    (statuses : String → Option String) (sub : Subscription) (schedule : List Side)
    (ready : ∀ side,
      (confirmations side).admits (statuses (confirmations side).paymentKey) = true)
    (complete : Complete schedule) (active : sub.status = "active") :
    let final := confirmedSubscription confirmations statuses sub schedule
    ((confirmations .left).paymentKey ≠ (confirmations .right).paymentKey →
      lag schedule ≤ 1 → ∃ side : Side,
        final = (confirmations side.other).extend ((confirmations side).extend sub)) ∧
    ((∀ side, (confirmations side).entry = .bot) →
      (confirmations .left).paymentKey = (confirmations .right).paymentKey →
      lag schedule ≠ 1 → ∃ side, final = (confirmations side).extend sub) ∧
    ((∀ side, (confirmations side).now < sub.validUntil) →
      (∀ side, 0 < (confirmations side).plan.durationDays) →
      ((confirmations .left).paymentKey ≠ (confirmations .right).paymentKey →
        (final.validUntil = sub.validUntil + (confirmations .left).plan.durationDays * day +
            (confirmations .right).plan.durationDays * day ↔ lag schedule ≤ 1)) ∧
      ((∀ side, (confirmations side).entry = .bot) →
        (confirmations .left).paymentKey = (confirmations .right).paymentKey →
        (confirmations .left).plan = (confirmations .right).plan →
        (final.validUntil = sub.validUntil + (confirmations .left).plan.durationDays * day ↔
          lag schedule ≠ 1))) := by
  intro final
  obtain ⟨side, settled⟩ := confirmedSubscription_settled ready complete sub
  have settledFinal : final =
      settledCell (confirmationRace confirmations) side (lag schedule) sub := settled
  rw [settledFinal]
  refine ⟨?_, ?_, ?_⟩
  · intro different behind
    exact ⟨side, settledCell_serial side sub different behind⟩
  · intro _ same whole
    exact settledCell_once side sub same whole
  · intro ahead positive
    constructor
    · intro different
      exact settledCell_both_iff active ahead positive side different
    · intro _ same samePlan
      exact settledCell_single_iff active ahead positive side same samePlan

def monthLeft : Subscription := ⟨1, "month", 0, 5 * day, "active"⟩

/-- A new payment by webhook next to a pending invoice of the bot. -/
def twoPayments : Side → Confirmation
  | .left => ⟨.webhook, "stars-1", day, ⟨30⟩⟩
  | .right => ⟨.bot, "invoice-2", day, ⟨30⟩⟩

/-- One pending invoice confirmed twice. -/
def oneInvoice : Side → Confirmation := fun _ => ⟨.bot, "invoice-2", day, ⟨30⟩⟩

def openInvoice (key : String) : Option String :=
  if key = "invoice-2" then some "pending" else none

/-- The bot reads the subscription before the webhook commits. -/
def readTogether : List Side := [.left, .left, .right, .right, .left, .right]

/-- The other confirmation commits between the two reads of the right one. -/
def readAcross : List Side := [.right, .left, .left, .left, .right, .right]

/-- One of two payments is lost, and one payment is counted twice. -/
theorem concurrent_confirmations_fail :
    (∀ side, (twoPayments side).admits (openInvoice (twoPayments side).paymentKey) = true) ∧
    Complete readTogether ∧
    (confirmedSubscription twoPayments openInvoice monthLeft readTogether).validUntil ≠
      monthLeft.validUntil + 30 * day + 30 * day ∧
    (∀ side, (oneInvoice side).admits (openInvoice (oneInvoice side).paymentKey) = true) ∧
    Complete readAcross ∧
    (confirmedSubscription oneInvoice openInvoice monthLeft readAcross).validUntil ≠
      monthLeft.validUntil + 30 * day := by
  refine ⟨?_, ?_, by decide, ?_, ?_, by decide⟩
  · intro side
    cases side <;> decide
  · intro side
    cases side <;> decide
  · intro side
    cases side <;> decide
  · intro side
    cases side <;> decide

/-- One after the other both payments count. -/
theorem consecutive_confirmations_add :
    (confirmedSubscription twoPayments openInvoice monthLeft
      [.left, .left, .left, .right, .right, .right]).validUntil =
        monthLeft.validUntil + 30 * day + 30 * day := by
  have ready : ∀ side,
      (twoPayments side).admits (openInvoice (twoPayments side).paymentKey) = true := by
    intro side
    cases side <;> decide
  have complete : Complete [.left, .left, .left, .right, .right, .right] := by
    intro side
    cases side <;> decide
  have outcome := concurrent_confirmations_iff twoPayments openInvoice monthLeft
    [.left, .left, .left, .right, .right, .right] ready complete rfl
  exact ((outcome.2.2 (by intro side; cases side <;> decide)
    (by intro side; cases side <;> decide)).1 (by decide)).mpr (by decide)

/-! ### A confirmation on its own -/

section Alone

variable {settings : BillingSettings} {clock : Clock} {payment : Payment}
  {promoCode : Option String} {db : Db} {sub : Subscription} {plan : Plan}
  (payable : payableSubscription db payment.userId payment.subscriptionId = some (sub, plan))
  (noReferral : pendingReferral payment.userId db = none)

include payable in
theorem payableSubscription_stored : db.subscriptions.get? payment.subscriptionId = some sub := by
  unfold payableSubscription at payable
  cases found : db.subscriptions.get? payment.subscriptionId with
  | none =>
      rw [found] at payable
      cases payable
  | some stored =>
      rw [found] at payable
      dsimp only at payable
      split at payable
      · obtain ⟨_, _, pair⟩ := Option.map_eq_some_iff.mp payable
        rw [(Prod.mk.inj pair).1]
      · cases payable

include noReferral in
theorem pendingReferral_charged (sub : Subscription) (plan : Plan) :
    pendingReferral payment.userId (chargeSubscription clock payment sub plan db) = none :=
  noReferral

include payable noReferral in
/-- Without a referral to pay and a promo to redeem, the effects of a payment are
one extension of its subscription. -/
theorem applyPaymentSuccessEffects_extends (noPromo : strip (orDefault promoCode "") = "")
    (inRange : extensionOverflows clock.payment plan sub = false) :
    ∃ after, applyPaymentSuccessEffects settings clock payment promoCode db = .ok after ∧
      after.subscriptions.get? payment.subscriptionId =
        some (extendSubscription clock.payment plan sub) := by
  have unrewarded : rewardReferral settings clock payment.userId
      (chargeSubscription clock payment sub plan db) =
        chargeSubscription clock payment sub plan db := by
    rw [rewardReferral, pendingReferral_charged noReferral]
  have unraised : rewardOverflows settings clock payment.userId
      (chargeSubscription clock payment sub plan db) = false := by
    rw [rewardOverflows, pendingReferral_charged noReferral]
  have uncoded : orNone "" = none := rfl
  refine ⟨_, applyPaymentSuccessEffects_eq_ok.mpr ⟨?_, rfl⟩, ?_⟩
  · rw [effectsOverflow, payable]
    dsimp only
    rw [inRange, unraised, promoOverflows, noPromo, uncoded]
    rfl
  · rw [writtenEffects, payable]
    dsimp only
    rw [unrewarded, redeemPromo, noPromo, uncoded]
    exact (Dict.get?_set _ _ _ _).trans (if_pos rfl)

include payable noReferral in
/-- The bot's confirmation, run by itself, is its side of the race. -/
theorem completePendingPaymentByBot_alone {confirmations : Side → Confirmation} {side : Side}
    {statuses : String → Option String} {key : String} (tgId : Int) (charge : Option String)
    (found : db.payments.find? (fun row => row.id = payment.id) = some payment)
    (owner : db.users.any (fun user => user.id = payment.userId ∧ user.tgId = tgId) = true)
    (noPromo : strip (orDefault (payment.webhookPayload.bind Payload.promoCode) "") = "")
    (confirming : confirmations side = ⟨.bot, key, clock.payment, plan⟩)
    (status : statuses key = some payment.status)
    (inRange : extensionOverflows clock.payment plan sub = false) :
    (confirmByBot settings clock payment.id tgId charge db).subscriptions.get?
        payment.subscriptionId =
      some (execute (confirmationRace confirmations) (begin statuses sub)
        [side, side, side]).cell := by
  have guarded : (confirmationRace confirmations).admits side
      (statuses ((confirmationRace confirmations).guardOf side)) =
        decide (payment.status = "pending") := by
    simp [confirmationRace, Confirmation.admits, confirming, status]
  have updated : (confirmationRace confirmations).update side sub =
      extendSubscription clock.payment plan sub := by
    simp [confirmationRace, Confirmation.extend, confirming]
  rw [execute_alone, guarded, updated, confirmByBot, completePendingPaymentByBot, found]
  dsimp only
  rw [if_neg (by simpa using owner)]
  by_cases pending : payment.status = "pending"
  · have unfinished : payment.status ≠ "completed" := by
      rw [pending]
      decide
    rw [if_neg unfinished, if_neg (by simpa using pending), if_pos (by simpa using pending)]
    obtain ⟨after, applied, extended⟩ := @applyPaymentSuccessEffects_extends settings clock
      { payment with status := "completed" } (payment.webhookPayload.bind Payload.promoCode)
      ((db.setPaymentStatus payment.id "completed").addEvent payment.id "bot_confirm"
        (.botConfirm tgId charge)) sub plan payable noReferral noPromo inRange
    rw [applied]
    exact extended
  · have kept := payableSubscription_stored payable
    rw [decide_eq_false pending, if_neg Bool.false_ne_true]
    by_cases finished : payment.status = "completed"
    · rw [if_pos finished]
      exact kept
    · rw [if_neg finished, if_pos pending]
      exact kept

include payable noReferral in
/-- A completed webhook delivery, run by itself, is its side of the race. -/
theorem deliver_alone {confirmations : Side → Confirmation} {side : Side} {delivery : Delivery}
    {inserted : Db} {externalId : String}
    (named : externalIdOf delivery.payload = some externalId)
    (readable : readPayment db.payments.length delivery.provider externalId delivery.payload =
      .ok payment)
    (storable : insertPayment payment db = .ok inserted) (paid : payment.status = "completed")
    (noPromo : strip (orDefault delivery.payload.promoCode "") = "")
    (confirming : confirmations side = ⟨.webhook, externalId, delivery.clock.payment, plan⟩)
    (inRange : extensionOverflows delivery.clock.payment plan sub = false) :
    (deliver settings db delivery).subscriptions.get? payment.subscriptionId =
      some (execute (confirmationRace confirmations)
        (begin (fun key => (db.paymentFor key).map Payment.status) sub)
        [side, side, side]).cell := by
  have guarded : (confirmationRace confirmations).admits side
      ((db.paymentFor ((confirmationRace confirmations).guardOf side)).map Payment.status) =
        decide (db.paymentFor externalId = none) := by
    simp [confirmationRace, Confirmation.admits, confirming]
  have updated : (confirmationRace confirmations).update side sub =
      extendSubscription delivery.clock.payment plan sub := by
    simp [confirmationRace, Confirmation.extend, confirming]
  rw [execute_alone, guarded, updated, deliver, processPaymentWebhook, named]
  dsimp only
  cases known : db.paymentFor externalId with
  | some row => exact payableSubscription_stored payable
  | none =>
      have stored : inserted = { db with payments := db.payments ++ [payment] } := by
        unfold insertPayment at storable
        split_ifs at storable
        exact (Except.ok.inj storable).symm
      rw [createPayment, readable]
      dsimp only [bind, Except.bind]
      rw [storable]
      dsimp only
      rw [if_pos paid, stored]
      obtain ⟨after, applied, extended⟩ := @applyPaymentSuccessEffects_extends settings
        delivery.clock payment delivery.payload.promoCode
        (({ db with payments := db.payments ++ [payment] } : Db).addEvent payment.id
          "webhook_received" (.webhook delivery.payload)) sub plan payable noReferral noPromo
        inRange
      rw [applied]
      exact extended

end Alone

end VpnSuite.Billing
