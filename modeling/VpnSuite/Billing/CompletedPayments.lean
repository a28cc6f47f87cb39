/-
Runs of payments, completed by the provider's webhook or by the bot.

A request that completes a payment reaches `_apply_payment_success_effects` once, with
arguments that depend on the state it finds (`effectsCall`).  The effects are three
blocks in a row: the paid subscription is charged, a referral may be rewarded, a promo
may be redeemed.  Any other request, and one whose effects make a date sum that raises,
leaves the business tables alone.
-/

import VpnSuite.Billing.WebhookReplay

set_option autoImplicit false

namespace VpnSuite.Billing

open Foundations
open Foundations.PythonText

/-! ### Requests that complete a payment -/

inductive Completion where
  | webhook (delivery : Delivery)
  | bot (paymentId : Nat) (tgId : Int) (telegramPaymentChargeId : Option String) (clock : Clock)
  deriving DecidableEq, Repr

def complete (settings : BillingSettings) (db : Db) : Completion → Db
  | .webhook delivery => deliver settings db delivery
  | .bot paymentId tgId telegramPaymentChargeId clock =>
      confirmByBot settings clock paymentId tgId telegramPaymentChargeId db

/-- The tables the effects of a payment read or write. -/
structure SameTables (before after : Db) : Prop where
  users : after.users = before.users
  plans : after.plans = before.plans
  subscriptions : after.subscriptions = before.subscriptions
  referrals : after.referrals = before.referrals
  promoCodes : after.promoCodes = before.promoCodes
  promoRedemptions : after.promoRedemptions = before.promoRedemptions

theorem SameTables.refl (db : Db) : SameTables db db := ⟨rfl, rfl, rfl, rfl, rfl, rfl⟩

/-- The arguments with which a request reaches the effects, and the state they start from. -/
structure EffectsCall where
  clock : Clock
  payment : Payment
  promoCode : Option String
  received : Db
  deriving DecidableEq

def webhookCall (db : Db) (delivery : Delivery) (externalId : String) :
    Except WebhookError EffectsCall := do
  let payment ← readPayment db.payments.length delivery.provider externalId delivery.payload
  let inserted ← insertPayment payment db
  .ok { clock := delivery.clock
        payment := payment
        promoCode := delivery.payload.promoCode
        received := inserted.addEvent payment.id "webhook_received" (.webhook delivery.payload) }

def webhookEffects (db : Db) (delivery : Delivery) : Option EffectsCall :=
  match externalIdOf delivery.payload with
  | none => none
  | some externalId =>
      if (db.paymentFor externalId).isSome then none
      else
        match webhookCall db delivery externalId with
        | .error _ => none
        | .ok call => if call.payment.status = "completed" then some call else none

def botEffects (db : Db) (paymentId : Nat) (tgId : Int)
    (telegramPaymentChargeId : Option String) (clock : Clock) : Option EffectsCall :=
  match db.payments.find? (fun payment => payment.id = paymentId) with
  | none => none
  | some payment =>
      if db.users.any (fun user => user.id = payment.userId ∧ user.tgId = tgId) ∧
          payment.status = "pending" then
        some
          { clock := clock
            payment := { payment with status := "completed" }
            promoCode := payment.webhookPayload.bind Payload.promoCode
            received := (db.setPaymentStatus paymentId "completed").addEvent paymentId
              "bot_confirm" (.botConfirm tgId telegramPaymentChargeId) }
      else none

def effectsCall (db : Db) : Completion → Option EffectsCall
  | .webhook delivery => webhookEffects db delivery
  | .bot paymentId tgId telegramPaymentChargeId clock =>
      botEffects db paymentId tgId telegramPaymentChargeId clock

def EffectsCall.apply (settings : BillingSettings) (call : EffectsCall) :
    Except WebhookError Db :=
  applyPaymentSuccessEffects settings call.clock call.payment call.promoCode call.received

def EffectsCall.overflows (settings : BillingSettings) (call : EffectsCall) : Bool :=
  effectsOverflow settings call.clock call.payment call.promoCode call.received

def EffectsCall.written (settings : BillingSettings) (call : EffectsCall) : Db :=
  writtenEffects settings call.clock call.payment call.promoCode call.received

/-- What a request commits that reaches the effects from `db`. -/
def EffectsCall.committed (settings : BillingSettings) (call : EffectsCall) (db : Db) : Db :=
  match call.apply settings with
  | .ok final => final
  | .error _ => db

theorem EffectsCall.committed_eq (settings : BillingSettings) (call : EffectsCall) (db : Db) :
    call.committed settings db =
      if call.overflows settings then db else call.written settings := by
  unfold EffectsCall.committed EffectsCall.apply applyPaymentSuccessEffects EffectsCall.overflows
  cases effectsOverflow settings call.clock call.payment call.promoCode call.received with
  | true => rfl
  | false => rfl

theorem createPayment_eq (settings : BillingSettings) (delivery : Delivery) (externalId : String)
    (db : Db) :
    createPayment settings delivery externalId db =
      (webhookCall db delivery externalId).bind (fun call =>
        (if call.payment.status = "completed" then call.apply settings else .ok call.received).map
          (fun final => (final, ⟨call.payment.id, true⟩))) := by
  unfold createPayment webhookCall
  cases readPayment db.payments.length delivery.provider externalId delivery.payload with
  | error raised => rfl
  | ok payment =>
      dsimp only [bind, Except.bind]
      cases insertPayment payment db with
      | error raised => rfl
      | ok inserted =>
          dsimp only
          by_cases paid : payment.status = "completed"
          · rw [if_pos paid, if_pos paid]
            unfold EffectsCall.apply
            cases applyPaymentSuccessEffects settings delivery.clock payment
              delivery.payload.promoCode (inserted.addEvent payment.id "webhook_received"
                (.webhook delivery.payload)) with
            | error raised => rfl
            | ok final => rfl
          · rw [if_neg paid, if_neg paid]
            rfl

theorem webhookCall_tables {db : Db} {delivery : Delivery} {externalId : String}
    {call : EffectsCall} (reached : webhookCall db delivery externalId = .ok call) :
    SameTables db call.received := by
  unfold webhookCall at reached
  obtain ⟨payment, _, afterRead⟩ := bind_eq_ok.mp reached
  obtain ⟨inserted, stored, returned⟩ := bind_eq_ok.mp afterRead
  obtain ⟨_, _, _, _, rfl⟩ := insertPayment_ok_iff.mp stored
  rw [← Except.ok.inj returned]
  exact ⟨rfl, rfl, rfl, rfl, rfl, rfl⟩

theorem deliver_eq {settings : BillingSettings} {db : Db} {delivery : Delivery}
    {externalId : String} (named : externalIdOf delivery.payload = some externalId)
    (unknown : db.paymentFor externalId = none) :
    deliver settings db delivery =
      match webhookCall db delivery externalId with
      | .error _ => db
      | .ok call =>
          if call.payment.status = "completed" then call.committed settings db
          else call.received := by
  unfold deliver processPaymentWebhook
  rw [named]
  dsimp only
  rw [unknown]
  dsimp only
  rw [createPayment_eq]
  cases webhookCall db delivery externalId with
  | error raised => rfl
  | ok call =>
      dsimp only [Except.bind]
      by_cases paid : call.payment.status = "completed"
      · rw [if_pos paid, if_pos paid]
        unfold EffectsCall.committed
        cases call.apply settings with
        | error raised => rfl
        | ok final => rfl
      · rw [if_neg paid, if_neg paid]
        rfl

/-- A request that does not reach the effects leaves the business tables alone. -/
theorem complete_of_no_call {settings : BillingSettings} {db : Db} {event : Completion}
    (idle : effectsCall db event = none) : SameTables db (complete settings db event) := by
  cases event with
  | webhook delivery =>
      change SameTables db (deliver settings db delivery)
      change webhookEffects db delivery = none at idle
      unfold webhookEffects at idle
      cases named : externalIdOf delivery.payload with
      | none =>
          unfold deliver processPaymentWebhook
          rw [named]
          exact .refl db
      | some externalId =>
          rw [named] at idle
          dsimp only at idle
          cases known : db.paymentFor externalId with
          | some payment =>
              unfold deliver processPaymentWebhook
              rw [named]
              dsimp only
              rw [known]
              exact ⟨rfl, rfl, rfl, rfl, rfl, rfl⟩
          | none =>
              rw [known, Option.isSome_none, if_neg Bool.false_ne_true] at idle
              rw [deliver_eq named known]
              cases reached : webhookCall db delivery externalId with
              | error raised => exact .refl db
              | ok call =>
                  rw [reached] at idle
                  dsimp only at idle ⊢
                  split at idle
                  · cases idle
                  · rename_i unfinished
                    rw [if_neg unfinished]
                    exact webhookCall_tables reached
  | bot paymentId tgId telegramPaymentChargeId clock =>
      change SameTables db
        (confirmByBot settings clock paymentId tgId telegramPaymentChargeId db)
      change botEffects db paymentId tgId telegramPaymentChargeId clock = none at idle
      unfold botEffects at idle
      unfold confirmByBot completePendingPaymentByBot
      cases found : db.payments.find? (fun payment => payment.id = paymentId) with
      | none => exact .refl db
      | some payment =>
          rw [found] at idle
          dsimp only at idle ⊢
          split at idle
          · cases idle
          · rename_i refused
            by_cases owner : db.users.any
                (fun user => user.id = payment.userId ∧ user.tgId = tgId) = true
            · rw [if_neg (not_not.mpr owner)]
              by_cases finished : payment.status = "completed"
              · rw [if_pos finished]
                exact .refl db
              · have unpaid : payment.status ≠ "pending" := fun pending =>
                  refused ⟨owner, pending⟩
                rw [if_neg finished, if_pos unpaid]
                exact .refl db
            · rw [if_pos owner]
              exact .refl db

/-- A request that reaches the effects commits them, from its own view of the tables, unless
one of their date sums raises. -/
theorem complete_of_call (settings : BillingSettings) {db : Db} {event : Completion}
    {call : EffectsCall} (reached : effectsCall db event = some call) :
    complete settings db event = call.committed settings db ∧ SameTables db call.received := by
  cases event with
  | webhook delivery =>
      change deliver settings db delivery = call.committed settings db ∧ _
      change webhookEffects db delivery = some call at reached
      unfold webhookEffects at reached
      cases named : externalIdOf delivery.payload with
      | none =>
          rw [named] at reached
          cases reached
      | some externalId =>
          rw [named] at reached
          dsimp only at reached
          cases known : db.paymentFor externalId with
          | some payment =>
              rw [known, Option.isSome_some, if_pos rfl] at reached
              cases reached
          | none =>
              rw [known, Option.isSome_none, if_neg Bool.false_ne_true] at reached
              rw [deliver_eq named known]
              cases stored : webhookCall db delivery externalId with
              | error raised =>
                  rw [stored] at reached
                  cases reached
              | ok other =>
                  rw [stored] at reached
                  dsimp only at reached ⊢
                  split at reached
                  · rename_i finished
                    obtain rfl := Option.some.inj reached
                    rw [if_pos finished]
                    exact ⟨rfl, webhookCall_tables stored⟩
                  · cases reached
  | bot paymentId tgId telegramPaymentChargeId clock =>
      change confirmByBot settings clock paymentId tgId telegramPaymentChargeId db =
        call.committed settings db ∧ _
      change botEffects db paymentId tgId telegramPaymentChargeId clock = some call at reached
      unfold botEffects at reached
      unfold confirmByBot completePendingPaymentByBot
      cases found : db.payments.find? (fun payment => payment.id = paymentId) with
      | none =>
          rw [found] at reached
          cases reached
      | some payment =>
          rw [found] at reached
          dsimp only at reached ⊢
          split at reached
          · rename_i admitted
            have unfinished : payment.status ≠ "completed" := by
              rw [admitted.2]
              decide
            rw [if_neg (not_not.mpr admitted.1), if_neg unfinished,
              if_neg (not_not.mpr admitted.2), ← Option.some.inj reached]
            refine ⟨?_, ⟨rfl, rfl, rfl, rfl, rfl, rfl⟩⟩
            unfold EffectsCall.committed EffectsCall.apply
            cases applyPaymentSuccessEffects settings clock { payment with status := "completed" }
                (payment.webhookPayload.bind Payload.promoCode)
                ((db.setPaymentStatus paymentId "completed").addEvent paymentId "bot_confirm"
                  (.botConfirm tgId telegramPaymentChargeId)) with
            | error raised => rfl
            | ok final => rfl
          · cases reached

/-! ### The three blocks of the effects -/

/-- The state after the paid subscription is extended and its funnel events logged. -/
def chargedState (clock : Clock) (payment : Payment) (db : Db) : Option Db :=
  (payableSubscription db payment.userId payment.subscriptionId).map (fun paid =>
    chargeSubscription clock payment paid.1 paid.2 db)

theorem writtenEffects_blocks (settings : BillingSettings) (clock : Clock)
    (payment : Payment) (promoCode : Option String) (db : Db) :
    writtenEffects settings clock payment promoCode db =
      match chargedState clock payment db with
      | none => db
      | some charged =>
          redeemPromo clock payment promoCode
            (rewardReferral settings clock payment.userId charged) := by
  unfold writtenEffects chargedState
  cases payableSubscription db payment.userId payment.subscriptionId with
  | none => rfl
  | some paid => rfl

theorem payableSubscription_eq_some {db : Db} {userId : Int} {subscriptionId : String}
    {sub : Subscription} {plan : Plan}
    (payable : payableSubscription db userId subscriptionId = some (sub, plan)) :
    db.subscriptions.get? subscriptionId = some sub ∧ sub.userId = userId ∧
      db.plans.get? sub.planId = some plan := by
  unfold payableSubscription at payable
  cases found : db.subscriptions.get? subscriptionId with
  | none =>
      rw [found] at payable
      cases payable
  | some stored =>
      rw [found] at payable
      dsimp only at payable
      split at payable
      · rename_i owned
        obtain ⟨stocked, planned, pair⟩ := Option.map_eq_some_iff.mp payable
        obtain ⟨rfl, rfl⟩ := Prod.mk.inj pair
        exact ⟨rfl, owned, planned⟩
      · cases payable

theorem SameTables.payable_eq {before after : Db} (same : SameTables before after) (userId : Int)
    (subscriptionId : String) :
    payableSubscription after userId subscriptionId =
      payableSubscription before userId subscriptionId := by
  unfold payableSubscription
  rw [same.subscriptions, same.plans]

/-- The charged state as a change of the state before the request: one subscription is
extended, and no other table the later blocks look at differs. -/
structure Charged (clock : Clock) (payment : Payment) (db charged : Db) : Prop where
  users : charged.users = db.users
  plans : charged.plans = db.plans
  referrals : charged.referrals = db.referrals
  promoCodes : charged.promoCodes = db.promoCodes
  promoRedemptions : charged.promoRedemptions = db.promoRedemptions
  paid : ∃ sub plan,
    payableSubscription db payment.userId payment.subscriptionId = some (sub, plan) ∧
      charged.subscriptions = db.subscriptions.set payment.subscriptionId
        (extendSubscription clock.payment plan sub)

theorem charged_of_chargedState {clock : Clock} {payment : Payment} {db received charged : Db}
    (same : SameTables db received)
    (reached : chargedState clock payment received = some charged) :
    Charged clock payment db charged := by
  obtain ⟨paid, payable, rfl⟩ := Option.map_eq_some_iff.mp reached
  rw [same.payable_eq] at payable
  refine ⟨same.users, same.plans, same.referrals, same.promoCodes, same.promoRedemptions,
    paid.1, paid.2, payable, ?_⟩
  change received.subscriptions.set _ _ = _
  rw [same.subscriptions]

/-- Where a request that gets as far as the reward block, and past every date sum, stands. -/
def rewardPoint (settings : BillingSettings) (db : Db) (event : Completion) :
    Option (EffectsCall × Db) :=
  (effectsCall db event).bind (fun call =>
    if call.overflows settings then none
    else (chargedState call.clock call.payment call.received).map (fun charged => (call, charged)))

theorem rewardPoint_charged {settings : BillingSettings} {db charged : Db} {event : Completion}
    {call : EffectsCall} (reached : rewardPoint settings db event = some (call, charged)) :
    effectsCall db event = some call ∧ Charged call.clock call.payment db charged := by
  obtain ⟨found, called, further⟩ := Option.bind_eq_some_iff.mp reached
  split at further
  · cases further
  · obtain ⟨state, charging, pair⟩ := Option.map_eq_some_iff.mp further
    obtain ⟨rfl, rfl⟩ := Prod.mk.inj pair
    exact ⟨called, charged_of_chargedState (complete_of_call settings called).2 charging⟩

/-- A payment that reaches the reward block rewards a referral and redeems a promo, in
that order; any other request keeps the business tables. -/
theorem complete_eq (settings : BillingSettings) (db : Db) (event : Completion) :
    match rewardPoint settings db event with
    | none => SameTables db (complete settings db event)
    | some (call, charged) =>
        complete settings db event =
          redeemPromo call.clock call.payment call.promoCode
            (rewardReferral settings call.clock call.payment.userId charged) := by
  unfold rewardPoint
  cases called : effectsCall db event with
  | none => exact complete_of_no_call called
  | some call =>
      obtain ⟨committed, tables⟩ := complete_of_call settings called
      rw [EffectsCall.committed_eq] at committed
      rw [Option.bind_some]
      by_cases raised : call.overflows settings = true
      · rw [if_pos raised] at committed ⊢
        rw [committed]
        exact .refl db
      · rw [if_neg raised, EffectsCall.written, writtenEffects_blocks] at committed
        rw [if_neg raised]
        cases charging : chargedState call.clock call.payment call.received with
        | none =>
            rw [charging] at committed
            rw [Option.map_none, committed]
            exact tables
        | some charged =>
            rw [charging] at committed
            exact committed

end VpnSuite.Billing
