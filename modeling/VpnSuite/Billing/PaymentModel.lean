/-
Payments and what a completed payment does
(`backend/app/services/payment_webhook_service.py`).

The database is a record of tables, one value per committed state.  Fresh row ids
are the row numbers.  Instants are microseconds; each reading of the clock inside
a request is an input of its own.  A date sum past the range of `datetime` raises, and
the request that makes it is rolled back: the blocks below say what is written, and
`effectsOverflow` says when one of their sums raises.  A payload holds its JSON fields after the
conversion the code applies to them (`str`, `int`, `Decimal`), which may refuse.

`effectsApplied` is a ghost table: it records the external id of a payment each
time its subscription effects are written.  No modelled function reads it.
-/

import VpnSuite.Foundations.OrderedDict
import VpnSuite.Foundations.PythonText

set_option autoImplicit false

namespace VpnSuite.Billing

open Foundations
open Foundations.PythonText

/-! ### Instants -/

def day : Int := 86400000000

/-- `datetime.min` and `datetime.max`. -/
def minInstant : Int := -62135596800000000

def maxInstant : Int := 253402300799999999

/-- `instant + timedelta(days=days)` raises `OverflowError`. -/
def daysOverflow (instant days : Int) : Bool :=
  days < -999999999 || 999999999 < days || instant + days * day < minInstant ||
    maxInstant < instant + days * day

/-! ### Tables -/

structure User where
  id : Int
  tgId : Int
  deriving DecidableEq, Repr

structure Plan where
  durationDays : Int
  deriving DecidableEq, Repr

structure Subscription where
  userId : Int
  planId : String
  validFrom : Int
  validUntil : Int
  status : String
  deriving DecidableEq, Repr

/-- A JSON field after conversion: not there, refused, or a value. -/
inductive Field (α : Type) where
  | absent
  | refused
  | value (content : α)
  deriving DecidableEq, Repr

/-- The webhook body.  The three id fields hold the text of a truthy value. -/
structure Payload where
  externalId : Option String
  id : Option String
  paymentId : Option String
  userId : Field Int
  subscriptionId : Option String
  amount : Field Rat
  status : Option String
  currency : Option String
  promoCode : Option String
  deriving DecidableEq, Repr

structure Payment where
  id : Nat
  userId : Int
  subscriptionId : String
  provider : String
  status : String
  amount : Rat
  currency : String
  externalId : String
  webhookPayload : Option Payload
  deriving DecidableEq, Repr

inductive EventPayload where
  | webhook (payload : Payload)
  | botConfirm (tgId : Int) (telegramPaymentChargeId : Option String)
  deriving DecidableEq, Repr

structure PaymentEvent where
  paymentId : Nat
  eventType : String
  payload : EventPayload
  deriving DecidableEq, Repr

structure Referral where
  referrerUserId : Int
  refereeUserId : Int
  status : String
  rewardDays : Int
  rewardAppliedAt : Option Int
  deriving DecidableEq, Repr

structure PromoCode where
  id : String
  code : String
  type : String
  value : Rat
  status : String
  deriving DecidableEq, Repr

structure PromoRedemption where
  promoCodeId : String
  userId : Int
  paymentId : Nat
  subscriptionId : String
  deriving DecidableEq, Repr

inductive FunnelPayload where
  | subscription (subscriptionId : String)
  | reward (refereeUserId : Int)
  | promo (promoCodeId : String)
  deriving DecidableEq, Repr

structure FunnelEvent where
  eventType : String
  userId : Int
  payload : FunnelPayload
  deriving DecidableEq, Repr

structure Db where
  users : List User
  plans : Dict String Plan
  subscriptions : Dict String Subscription
  payments : List Payment
  paymentEvents : List PaymentEvent
  referrals : Dict String Referral
  promoCodes : List PromoCode
  promoRedemptions : List PromoRedemption
  funnelEvents : List FunnelEvent
  effectsApplied : List String
  deriving DecidableEq

/-- The readings of `datetime.now` in the order the effects make them. -/
structure Clock where
  payment : Int
  referralCheck : Int
  referralBase : Int
  rewardApplied : Int
  promoCheck : Int
  promoBase : Int
  deriving DecidableEq, Repr

structure BillingSettings where
  referralRewardBonusDays : Int
  deriving DecidableEq, Repr

/-! ### The effects of a completed payment -/

def Db.logFunnelEvent (db : Db) (eventType : String) (userId : Int) (payload : FunnelPayload) :
    Db :=
  { db with funnelEvents := db.funnelEvents ++ [⟨eventType, userId, payload⟩] }

/-- A paused or expired subscription restarts now; an active one grows from its end. -/
def extendSubscription (now : Int) (plan : Plan) (sub : Subscription) : Subscription :=
  if sub.status ≠ "active" then
    { sub with
      status := "active"
      validFrom := now
      validUntil := now + plan.durationDays * day }
  else
    { sub with
      validUntil := (if sub.validUntil > now then sub.validUntil else now) +
        plan.durationDays * day }

/-- The extension starts at the end of a running subscription, at `now` for any other. -/
def extensionOverflows (now : Int) (plan : Plan) (sub : Subscription) : Bool :=
  daysOverflow (if sub.status ≠ "active" then now else
    if sub.validUntil > now then sub.validUntil else now) plan.durationDays

/-- `valid_until` grown by bonus days; the clock is read once for the test and once
more when the end has passed. -/
def addBonusDays (check base days : Int) (sub : Subscription) : Subscription :=
  { sub with
    validUntil := (if sub.validUntil > check then sub.validUntil else base) + days * day }

def bonusOverflows (check base days : Int) (sub : Subscription) : Bool :=
  daysOverflow (if sub.validUntil > check then sub.validUntil else base) days

/-- The active subscription of a user that ends last. -/
def latestActive (userId : Int) (entries : List (String × Subscription)) :
    Option (String × Subscription) :=
  (entries.filter (fun entry => entry.2.userId = userId ∧ entry.2.status = "active")).foldl
    (fun best entry =>
      match best with
      | none => some entry
      | some current =>
          if entry.2.validUntil > current.2.validUntil then some entry else some current)
    none

def pendingReferral (userId : Int) (db : Db) : Option (String × Referral) :=
  db.referrals.entries.find? (fun entry =>
    entry.2.refereeUserId = userId ∧ entry.2.rewardAppliedAt = none)

/-- The days a referral pays: its own, or the configured ones when it names none. -/
def rewardDays (settings : BillingSettings) (referral : Referral) : Int :=
  if referral.rewardDays = 0 then settings.referralRewardBonusDays else referral.rewardDays

def payReferrer (clock : Clock) (days : Int) (referral : Referral) (db : Db) : Db :=
  match latestActive referral.referrerUserId db.subscriptions.entries with
  | none => db
  | some (id, sub) =>
      { db with
        subscriptions := db.subscriptions.set id
          (addBonusDays clock.referralCheck clock.referralBase days sub) }

def rewardReferral (settings : BillingSettings) (clock : Clock) (userId : Int) (db : Db) : Db :=
  match pendingReferral userId db with
  | none => db
  | some (id, referral) =>
      let days := rewardDays settings referral
      if days = 0 then db
      else
        let paid := payReferrer clock days referral db
        Db.logFunnelEvent
          { paid with
            referrals := paid.referrals.set id
              { referral with
                rewardAppliedAt := some clock.rewardApplied
                status := "rewarded" } }
          "referral_signup" referral.referrerUserId (.reward referral.refereeUserId)

def rewardOverflows (settings : BillingSettings) (clock : Clock) (userId : Int) (db : Db) : Bool :=
  match pendingReferral userId db with
  | none => false
  | some (_, referral) =>
      let days := rewardDays settings referral
      days ≠ 0 &&
        (latestActive referral.referrerUserId db.subscriptions.entries).any (fun latest =>
          bonusOverflows clock.referralCheck clock.referralBase days latest.2)

/-- `int(promo.value)`: the decimal cut towards zero. -/
def promoDays (promo : PromoCode) : Int := promo.value.num.tdiv promo.value.den

def redeemPromo (clock : Clock) (payment : Payment) (promoCode : Option String) (db : Db) : Db :=
  match orNone (strip (orDefault promoCode "")) with
  | none => db
  | some code =>
      match db.promoCodes.find? (fun promo => promo.code = code ∧ promo.status = "active") with
      | none => db
      | some promo =>
          if db.promoRedemptions.any (fun redemption =>
              redemption.promoCodeId = promo.id ∧ redemption.userId = payment.userId) then
            db
          else
            let redeemed := { db with
              promoRedemptions := db.promoRedemptions ++
                [⟨promo.id, payment.userId, payment.id, payment.subscriptionId⟩] }
            match redeemed.subscriptions.get? payment.subscriptionId with
            | none => redeemed
            | some sub =>
                let extended :=
                  if promo.type = "bonus_days" then
                    { redeemed with
                      subscriptions := redeemed.subscriptions.set payment.subscriptionId
                        (addBonusDays clock.promoCheck clock.promoBase (promoDays promo) sub) }
                  else redeemed
                extended.logFunnelEvent "promo_applied" sub.userId (.promo promo.id)

/-- The bonus is computed under `except (TypeError, ValueError)`, which an overflow passes. -/
def promoOverflows (clock : Clock) (payment : Payment) (promoCode : Option String) (db : Db) :
    Bool :=
  match orNone (strip (orDefault promoCode "")) with
  | none => false
  | some code =>
      match db.promoCodes.find? (fun promo => promo.code = code ∧ promo.status = "active") with
      | none => false
      | some promo =>
          if db.promoRedemptions.any (fun redemption =>
              redemption.promoCodeId = promo.id ∧ redemption.userId = payment.userId) then
            false
          else
            promo.type = "bonus_days" &&
              (db.subscriptions.get? payment.subscriptionId).any (fun sub =>
                bonusOverflows clock.promoCheck clock.promoBase (promoDays promo) sub)

/-- The subscription and plan a payment extends: the subscription must belong to the
paying user. -/
def payableSubscription (db : Db) (userId : Int) (subscriptionId : String) :
    Option (Subscription × Plan) :=
  match db.subscriptions.get? subscriptionId with
  | none => none
  | some sub =>
      if sub.userId = userId then (db.plans.get? sub.planId).map (fun plan => (sub, plan))
      else none

/-- The paid subscription extended and its funnel events logged. -/
def chargeSubscription (clock : Clock) (payment : Payment) (sub : Subscription) (plan : Plan)
    (db : Db) : Db :=
  let extended := { db with
    subscriptions := db.subscriptions.set payment.subscriptionId
      (extendSubscription clock.payment plan sub)
    effectsApplied := db.effectsApplied ++ [payment.externalId] }
  (extended.logFunnelEvent "payment" sub.userId
    (.subscription payment.subscriptionId)).logFunnelEvent "renewal" sub.userId
    (.subscription payment.subscriptionId)

/-- What the effects write when no date sum raises. -/
def writtenEffects (settings : BillingSettings) (clock : Clock) (payment : Payment)
    (promoCode : Option String) (db : Db) : Db :=
  match payableSubscription db payment.userId payment.subscriptionId with
  | none => db
  | some (sub, plan) =>
      redeemPromo clock payment promoCode
        (rewardReferral settings clock payment.userId
          (chargeSubscription clock payment sub plan db))

/-- One of the date sums raises: each block meets the state the one before it wrote. -/
def effectsOverflow (settings : BillingSettings) (clock : Clock) (payment : Payment)
    (promoCode : Option String) (db : Db) : Bool :=
  match payableSubscription db payment.userId payment.subscriptionId with
  | none => false
  | some (sub, plan) =>
      let charged := chargeSubscription clock payment sub plan db
      extensionOverflows clock.payment plan sub ||
        rewardOverflows settings clock payment.userId charged ||
        promoOverflows clock payment promoCode
          (rewardReferral settings clock payment.userId charged)

inductive WebhookError where
  | missingExternalId
  | missingUserOrSubscription
  | invalidUserId
  | invalidAmount
  | dataError
  | integrityError
  | overflowError
  deriving DecidableEq, Repr

/-- `_apply_payment_success_effects`. -/
def applyPaymentSuccessEffects (settings : BillingSettings) (clock : Clock) (payment : Payment)
    (promoCode : Option String) (db : Db) : Except WebhookError Db :=
  if effectsOverflow settings clock payment promoCode db then .error .overflowError
  else .ok (writtenEffects settings clock payment promoCode db)

theorem applyPaymentSuccessEffects_eq_ok {settings : BillingSettings} {clock : Clock}
    {payment : Payment} {promoCode : Option String} {db after : Db} :
    applyPaymentSuccessEffects settings clock payment promoCode db = .ok after ↔
      effectsOverflow settings clock payment promoCode db = false ∧
        writtenEffects settings clock payment promoCode db = after := by
  unfold applyPaymentSuccessEffects
  cases effectsOverflow settings clock payment promoCode db with
  | true => simp
  | false => simp

/-! ### The webhook -/

/-- The text of the exceptions the service raises itself. -/
def WebhookError.message : WebhookError → Option String
  | .missingExternalId => some "missing external_id"
  | .missingUserOrSubscription => some "missing user_id or subscription_id"
  | _ => none

structure WebhookResult where
  paymentId : Nat
  created : Bool
  deriving DecidableEq, Repr

/-- `payload.get("external_id") or payload.get("id") or payload.get("payment_id")`. -/
def externalIdOf (payload : Payload) : Option String :=
  orNone (orDefault payload.externalId (orDefault payload.id (orDefault payload.paymentId "")))

def statusOf (payload : Payload) : String := slice 32 (payload.status.getD "completed")

def currencyOf (payload : Payload) : String := slice 8 (payload.currency.getD "XTR")

/-- The row a first delivery inserts, or what the conversions raise. -/
def readPayment (id : Nat) (provider externalId : String) (payload : Payload) :
    Except WebhookError Payment :=
  match payload.userId, payload.subscriptionId with
  | .absent, _ => .error .missingUserOrSubscription
  | _, none => .error .missingUserOrSubscription
  | .refused, some _ => .error .invalidUserId
  | .value userId, some subscriptionId =>
      match payload.amount with
      | .refused => .error .invalidAmount
      | amount =>
          .ok { id := id
                userId := userId
                subscriptionId := subscriptionId
                provider := provider
                status := statusOf payload
                amount := match amount with
                  | .value content => content
                  | _ => 0
                currency := currencyOf payload
                externalId := externalId
                webhookPayload := some payload }

/-- A `Numeric(12, 2)` column takes what rounds to at most ten digits before the point. -/
def amountFits (amount : Rat) : Bool :=
  -(9999999999995 * amount.den) < amount.num * 1000 &&
    amount.num * 1000 < 9999999999995 * amount.den

/-- The constraints an insert into `payments` meets besides the unique external id. -/
def insertPayment (payment : Payment) (db : Db) : Except WebhookError Db :=
  if payment.externalId.toList.length > 255 then .error .dataError
  else if ¬ amountFits payment.amount then .error .dataError
  else if ¬ db.users.any (fun user => user.id = payment.userId) then .error .integrityError
  else if payment.subscriptionId ∉ db.subscriptions.keys then .error .integrityError
  else .ok { db with payments := db.payments ++ [payment] }

def Db.paymentFor (db : Db) (externalId : String) : Option Payment :=
  db.payments.find? (fun payment => payment.externalId = externalId)

def Db.addEvent (db : Db) (paymentId : Nat) (eventType : String) (payload : EventPayload) : Db :=
  { db with paymentEvents := db.paymentEvents ++ [⟨paymentId, eventType, payload⟩] }

/-- One request's payload with the provider of its path and its clock readings. -/
structure Delivery where
  provider : String
  payload : Payload
  clock : Clock
  deriving DecidableEq, Repr

/-- The first delivery of an external id: store the payment, and apply its effects
when it arrives completed. -/
def createPayment (settings : BillingSettings) (delivery : Delivery) (externalId : String)
    (db : Db) : Except WebhookError (Db × WebhookResult) := do
  let payment ← readPayment db.payments.length delivery.provider externalId delivery.payload
  let inserted ← insertPayment payment db
  let received := inserted.addEvent payment.id "webhook_received" (.webhook delivery.payload)
  if payment.status = "completed" then
    let final ← applyPaymentSuccessEffects settings delivery.clock payment
      delivery.payload.promoCode received
    .ok (final, ⟨payment.id, true⟩)
  else .ok (received, ⟨payment.id, true⟩)

/-- `process_payment_webhook`.  A known external id only leaves an event behind. -/
def processPaymentWebhook (settings : BillingSettings) (delivery : Delivery) (db : Db) :
    Except WebhookError (Db × WebhookResult) :=
  match externalIdOf delivery.payload with
  | none => .error .missingExternalId
  | some externalId =>
      match db.paymentFor externalId with
      | some payment =>
          .ok (db.addEvent payment.id "webhook_repeat" (.webhook delivery.payload),
            ⟨payment.id, false⟩)
      | none => createPayment settings delivery externalId db

/-- One request: commit what the service did, or roll everything back. -/
def deliver (settings : BillingSettings) (db : Db) (delivery : Delivery) : Db :=
  match processPaymentWebhook settings delivery db with
  | .ok (committed, _) => committed
  | .error _ => db

def runDeliveries (settings : BillingSettings) (db : Db) (deliveries : List Delivery) : Db :=
  deliveries.foldl (deliver settings) db

/-! ### The bot's confirmation -/

def Db.setPaymentStatus (db : Db) (paymentId : Nat) (status : String) : Db :=
  { db with payments := db.payments.map (fun payment =>
      if payment.id = paymentId then { payment with status := status } else payment) }

/-- `complete_pending_payment_by_bot`: whether the payment is (now) completed. -/
def completePendingPaymentByBot (settings : BillingSettings) (clock : Clock) (paymentId : Nat)
    (tgId : Int) (telegramPaymentChargeId : Option String) (db : Db) :
    Except WebhookError (Db × Bool) :=
  match db.payments.find? (fun payment => payment.id = paymentId) with
  | none => .ok (db, false)
  | some payment =>
      if ¬ db.users.any (fun user => user.id = payment.userId ∧ user.tgId = tgId) then
        .ok (db, false)
      else if payment.status = "completed" then .ok (db, true)
      else if payment.status ≠ "pending" then .ok (db, false)
      else do
        let confirmed := (db.setPaymentStatus paymentId "completed").addEvent paymentId
          "bot_confirm" (.botConfirm tgId telegramPaymentChargeId)
        let final ← applyPaymentSuccessEffects settings clock
          { payment with status := "completed" } (payment.webhookPayload.bind Payload.promoCode)
          confirmed
        .ok (final, true)

/-- The bot's request: commit, or roll everything back. -/
def confirmByBot (settings : BillingSettings) (clock : Clock) (paymentId : Nat) (tgId : Int)
    (telegramPaymentChargeId : Option String) (db : Db) : Db :=
  match completePendingPaymentByBot settings clock paymentId tgId telegramPaymentChargeId db with
  | .ok (committed, _) => committed
  | .error _ => db

end VpnSuite.Billing
