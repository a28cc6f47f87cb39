/-
Runs of payment webhooks, one after another.

Whether a delivery can be stored and whether it entitles its payer depends on who owns
which subscription, which no delivery changes, and on the end dates it would write, which
must stay in the range of `datetime`.  A run settles a payment at the first delivery that
is stored in the state it finds: that delivery alone decides the stored status and whether
the subscription effects are applied.
-/

import VpnSuite.Billing.PaymentModel

set_option autoImplicit false

namespace VpnSuite.Billing

open Foundations
open Foundations.PythonText

/-! ### What a delivery cannot change -/

/-- The owner and the plan of a subscription. -/
def Db.contract (db : Db) (subscriptionId : String) : Option (Int × String) :=
  (db.subscriptions.get? subscriptionId).map (fun sub => (sub.userId, sub.planId))

/-- Two states with the same users, plans and subscription contracts. -/
structure SameAccounts (before after : Db) : Prop where
  users : after.users = before.users
  plans : after.plans = before.plans
  contracts : ∀ id, after.contract id = before.contract id

theorem SameAccounts.refl (db : Db) : SameAccounts db db := ⟨rfl, rfl, fun _ => rfl⟩

theorem SameAccounts.trans {first second third : Db} (left : SameAccounts first second)
    (right : SameAccounts second third) : SameAccounts first third :=
  ⟨right.users.trans left.users, right.plans.trans left.plans,
    fun id => (right.contracts id).trans (left.contracts id)⟩

/-- Rewriting a subscription under the same contract keeps every contract. -/
theorem contract_set {db : Db} {id : String} {old new : Subscription}
    (found : db.subscriptions.get? id = some old)
    (same : (new.userId, new.planId) = (old.userId, old.planId)) (other : String) :
    ({ db with subscriptions := db.subscriptions.set id new } : Db).contract other =
      db.contract other := by
  unfold Db.contract
  rw [Dict.get?_set]
  split
  · rename_i atKey
    rw [atKey, found, Option.map_some, Option.map_some, same]
  · rfl

theorem extendSubscription_contract (now : Int) (plan : Plan) (sub : Subscription) :
    ((extendSubscription now plan sub).userId, (extendSubscription now plan sub).planId) =
      (sub.userId, sub.planId) := by
  unfold extendSubscription
  split <;> rfl

/-- What the effects of a payment leave alone. -/
structure EffectsFrame (before after : Db) : Prop where
  accounts : SameAccounts before after
  payments : after.payments = before.payments
  applied : after.effectsApplied = before.effectsApplied

theorem EffectsFrame.refl (db : Db) : EffectsFrame db db := ⟨.refl db, rfl, rfl⟩

theorem EffectsFrame.trans {first second third : Db} (left : EffectsFrame first second)
    (right : EffectsFrame second third) : EffectsFrame first third :=
  ⟨left.accounts.trans right.accounts, right.payments.trans left.payments,
    right.applied.trans left.applied⟩

theorem EffectsFrame.setSubscription {db : Db} {id : String} {old new : Subscription}
    (found : db.subscriptions.get? id = some old)
    (same : (new.userId, new.planId) = (old.userId, old.planId)) :
    EffectsFrame db { db with subscriptions := db.subscriptions.set id new } :=
  ⟨⟨rfl, rfl, contract_set found same⟩, rfl, rfl⟩

theorem EffectsFrame.logFunnelEvent (db : Db) (eventType : String) (userId : Int)
    (payload : FunnelPayload) : EffectsFrame db (db.logFunnelEvent eventType userId payload) :=
  ⟨⟨rfl, rfl, fun _ => rfl⟩, rfl, rfl⟩

private theorem foldl_latest_mem (entries : List (String × Subscription))
    (start : Option (String × Subscription)) {best : String × Subscription}
    (chosen : entries.foldl (fun best entry =>
      match best with
      | none => some entry
      | some current =>
          if entry.2.validUntil > current.2.validUntil then some entry else some current)
      start = some best) :
    start = some best ∨ best ∈ entries := by
  induction entries generalizing start with
  | nil => exact Or.inl chosen
  | cons entry rest ih =>
      rcases ih _ chosen with here | later
      · cases start with
        | none => exact Or.inr (List.mem_cons.mpr (Or.inl (Option.some.inj here).symm))
        | some current =>
            simp only at here
            split at here
            · exact Or.inr (List.mem_cons.mpr (Or.inl (Option.some.inj here).symm))
            · exact Or.inl here
      · exact Or.inr (List.mem_cons_of_mem entry later)

theorem latestActive_mem {userId : Int} {entries : List (String × Subscription)}
    {best : String × Subscription} (chosen : latestActive userId entries = some best) :
    best ∈ entries := by
  rcases foldl_latest_mem _ none chosen with impossible | member
  · cases impossible
  · exact List.mem_of_mem_filter member

theorem payReferrer_frame (clock : Clock) (days : Int) (referral : Referral) (db : Db) :
    EffectsFrame db (payReferrer clock days referral db) := by
  unfold payReferrer
  split
  · exact .refl db
  · rename_i id sub latest
    exact .setSubscription ((db.subscriptions.mem_entries_iff id sub).mp (latestActive_mem latest))
      rfl

theorem rewardReferral_frame (settings : BillingSettings) (clock : Clock) (userId : Int)
    (db : Db) : EffectsFrame db (rewardReferral settings clock userId db) := by
  unfold rewardReferral
  split
  · exact .refl db
  · rename_i id referral pending
    dsimp only
    split
    · exact .refl db
    · refine (payReferrer_frame clock (rewardDays settings referral) referral db).trans ?_
      exact ⟨⟨rfl, rfl, fun _ => rfl⟩, rfl, rfl⟩

theorem redeemPromo_frame (clock : Clock) (payment : Payment) (promoCode : Option String)
    (db : Db) : EffectsFrame db (redeemPromo clock payment promoCode db) := by
  unfold redeemPromo
  split
  · exact .refl db
  · split
    · exact .refl db
    · split
      · exact .refl db
      · dsimp only
        split
        · exact ⟨⟨rfl, rfl, fun _ => rfl⟩, rfl, rfl⟩
        · rename_i promo _ _ sub found
          refine EffectsFrame.trans ?_ (.logFunnelEvent _ _ _ _)
          split
          · exact ⟨⟨rfl, rfl, contract_set found rfl⟩, rfl, rfl⟩
          · exact ⟨⟨rfl, rfl, fun _ => rfl⟩, rfl, rfl⟩

/-- The effects touch no account and no payment, and are recorded exactly when the
payer owns the subscription and its plan exists. -/
theorem writtenEffects_spec (settings : BillingSettings) (clock : Clock)
    (payment : Payment) (promoCode : Option String) (db : Db) :
    let final := writtenEffects settings clock payment promoCode db
    SameAccounts db final ∧ final.payments = db.payments ∧
      final.effectsApplied = db.effectsApplied ++
        if (payableSubscription db payment.userId payment.subscriptionId).isSome
        then [payment.externalId] else [] := by
  unfold writtenEffects
  cases payable : payableSubscription db payment.userId payment.subscriptionId with
  | none =>
      refine ⟨.refl db, rfl, ?_⟩
      simp
  | some pair =>
      obtain ⟨sub, plan⟩ := pair
      have found : db.subscriptions.get? payment.subscriptionId = some sub := by
        unfold payableSubscription at payable
        cases stored : db.subscriptions.get? payment.subscriptionId with
        | none => simp [stored] at payable
        | some other =>
            simp only [stored] at payable
            split at payable
            · obtain ⟨_, _, same⟩ := Option.map_eq_some_iff.mp payable
              rw [(Prod.mk.inj same).1]
            · cases payable
      have later := fun start => (rewardReferral_frame settings clock payment.userId start).trans
        (redeemPromo_frame clock payment promoCode
          (rewardReferral settings clock payment.userId start))
      refine ⟨?_, ?_, ?_⟩
      · refine SameAccounts.trans ?_ (later _).accounts
        exact ⟨rfl, rfl, contract_set found (extendSubscription_contract clock.payment plan sub)⟩
      · exact (later _).payments
      · rw [(later _).applied]
        rfl

/-! ### Storable and entitling deliveries -/

/-- The amount converts and fits its column; a missing one is stored as zero. -/
def storableAmount : Field Rat → Bool
  | .absent => true
  | .refused => false
  | .value content => amountFits content

theorem storableAmount_iff (amount : Field Rat) :
    storableAmount amount = true ↔
      amount ≠ .refused ∧ amountFits (match amount with
        | .value content => content
        | _ => 0) = true := by
  cases amount with
  | absent =>
      have zero : amountFits 0 = true := by decide
      simp [storableAmount, zero]
  | refused => simp [storableAmount]
  | value content => simp [storableAmount]

/-- The fields are readable and the rows the payment points to exist. -/
def storable (db : Db) (payload : Payload) : Bool :=
  match externalIdOf payload, payload.userId, payload.subscriptionId, payload.amount with
  | some externalId, .value userId, some subscriptionId, amount =>
      storableAmount amount && externalId.toList.length ≤ 255 &&
        db.users.any (fun user => user.id = userId) && (db.contract subscriptionId).isSome
  | _, _, _, _ => false

/-- The subscription belongs to the paying user and its plan exists. -/
def entitles (db : Db) (payload : Payload) : Bool :=
  match payload.userId, payload.subscriptionId with
  | .value userId, some subscriptionId =>
      match db.contract subscriptionId with
      | none => false
      | some (owner, planId) => owner = userId && (db.plans.get? planId).isSome
  | _, _ => false

theorem SameAccounts.entitles_eq {before after : Db} (same : SameAccounts before after)
    (payload : Payload) : entitles after payload = entitles before payload := by
  simp only [entitles, same.plans, same.contracts]

theorem payableSubscription_isSome (db : Db) (userId : Int) (subscriptionId : String) :
    (payableSubscription db userId subscriptionId).isSome =
      match db.contract subscriptionId with
      | none => false
      | some (owner, planId) => decide (owner = userId) && (db.plans.get? planId).isSome := by
  unfold payableSubscription Db.contract
  cases db.subscriptions.get? subscriptionId with
  | none => rfl
  | some sub =>
      by_cases owned : sub.userId = userId
      · simp [owned]
      · simp [owned]

theorem contract_isSome (db : Db) (subscriptionId : String) :
    (db.contract subscriptionId).isSome = true ↔ subscriptionId ∈ db.subscriptions.keys := by
  rw [Dict.mem_keys_iff, Db.contract, Option.isSome_map, Option.isSome_iff_exists]

theorem storable_iff {db : Db} {payload : Payload} :
    storable db payload = true ↔
      ∃ externalId userId subscriptionId, externalIdOf payload = some externalId ∧
        payload.userId = .value userId ∧ payload.subscriptionId = some subscriptionId ∧
        storableAmount payload.amount = true ∧ externalId.toList.length ≤ 255 ∧
        db.users.any (fun user => user.id = userId) = true ∧
        subscriptionId ∈ db.subscriptions.keys := by
  unfold storable
  constructor
  · intro accepted
    split at accepted
    · rename_i externalId userId subscriptionId keyed user sub
      simp only [Bool.and_eq_true, decide_eq_true_eq, contract_isSome] at accepted
      obtain ⟨⟨⟨readable, short⟩, known⟩, present⟩ := accepted
      exact ⟨externalId, userId, subscriptionId, keyed, user, sub, readable, short, known, present⟩
    · cases accepted
  · rintro ⟨externalId, userId, subscriptionId, keyed, user, sub, readable, short, known, present⟩
    simp only [keyed, user, sub, Bool.and_eq_true, decide_eq_true_eq, contract_isSome]
    exact ⟨⟨⟨readable, short⟩, known⟩, present⟩

theorem readPayment_ok_iff {id : Nat} {provider externalId : String} {payload : Payload}
    {payment : Payment} :
    readPayment id provider externalId payload = .ok payment ↔
      ∃ userId subscriptionId, payload.userId = .value userId ∧
        payload.subscriptionId = some subscriptionId ∧ payload.amount ≠ .refused ∧
        payment = { id := id
                    userId := userId
                    subscriptionId := subscriptionId
                    provider := provider
                    status := statusOf payload
                    amount := match payload.amount with
                      | .value content => content
                      | _ => 0
                    currency := currencyOf payload
                    externalId := externalId
                    webhookPayload := some payload } := by
  unfold readPayment
  cases payload.userId with
  | absent => simp
  | refused => cases payload.subscriptionId <;> simp
  | value userId =>
      cases payload.subscriptionId with
      | none => simp
      | some subscriptionId => cases payload.amount <;> simp [eq_comm]

theorem insertPayment_ok_iff {payment : Payment} {db final : Db} :
    insertPayment payment db = .ok final ↔
      payment.externalId.toList.length ≤ 255 ∧ amountFits payment.amount = true ∧
        db.users.any (fun user => user.id = payment.userId) = true ∧
        payment.subscriptionId ∈ db.subscriptions.keys ∧
        final = { db with payments := db.payments ++ [payment] } := by
  unfold insertPayment
  split
  · rename_i long
    simp only [reduceCtorEq, false_iff]
    omega
  · rename_i short
    split
    · rename_i large
      simp [large]
    · rename_i fits
      split
      · rename_i unknown
        simp [unknown]
      · rename_i known
        split
        · rename_i missing
          simp [missing]
        · rename_i present
          simp only [Except.ok.injEq]
          constructor
          · intro same
            exact ⟨by omega, by simpa using fits, by simpa using known, by simpa using present,
              same.symm⟩
          · rintro ⟨_, _, _, _, same⟩
            exact same.symm

/-- The record a first delivery makes in the log of applied effects. -/
def recorded (db : Db) (payload : Payload) (externalId : String) : List String :=
  if statusOf payload = "completed" ∧ entitles db payload = true then [externalId] else []

/-- The state once the payment row and its first event are in place. -/
def receivedState (delivery : Delivery) (payment : Payment) (db : Db) : Db :=
  ({ db with payments := db.payments ++ [payment] } : Db).addEvent payment.id
    "webhook_received" (.webhook delivery.payload)

/-- The state a first delivery commits. -/
def settledState (settings : BillingSettings) (delivery : Delivery) (payment : Payment)
    (db : Db) : Db :=
  if payment.status = "completed" then
    writtenEffects settings delivery.clock payment delivery.payload.promoCode
      (receivedState delivery payment db)
  else receivedState delivery payment db

/-- Applying the effects of a first delivery makes a date sum that raises. -/
def overflows (settings : BillingSettings) (db : Db) (delivery : Delivery) : Bool :=
  match externalIdOf delivery.payload with
  | none => false
  | some externalId =>
      match readPayment db.payments.length delivery.provider externalId delivery.payload with
      | .error _ => false
      | .ok payment =>
          payment.status = "completed" &&
            effectsOverflow settings delivery.clock payment delivery.payload.promoCode
              (receivedState delivery payment db)

theorem settledState_spec (settings : BillingSettings) (delivery : Delivery) (payment : Payment)
    (db : Db) :
    let final := settledState settings delivery payment db
    SameAccounts db final ∧ final.payments = db.payments ++ [payment] ∧
      final.effectsApplied = db.effectsApplied ++
        if payment.status = "completed" ∧
          (payableSubscription db payment.userId payment.subscriptionId).isSome = true
        then [payment.externalId] else [] := by
  have stored : SameAccounts db (receivedState delivery payment db) :=
    ⟨rfl, rfl, fun _ => rfl⟩
  unfold settledState
  by_cases completed : payment.status = "completed"
  · obtain ⟨accounts, payments, applied⟩ := writtenEffects_spec settings
      delivery.clock payment delivery.payload.promoCode (receivedState delivery payment db)
    simp only [completed, true_and]
    exact ⟨stored.trans accounts, payments, applied⟩
  · simp only [completed, false_and, if_false, List.append_nil]
    exact ⟨stored, rfl, rfl⟩

theorem exists_readPayment {externalId : String} {db : Db} {delivery : Delivery}
    (keyed : externalIdOf delivery.payload = some externalId)
    (accepted : storable db delivery.payload = true) :
    ∃ payment, readPayment db.payments.length delivery.provider externalId delivery.payload =
        .ok payment ∧
      insertPayment payment db = .ok { db with payments := db.payments ++ [payment] } ∧
      payment.externalId = externalId ∧ payment.status = statusOf delivery.payload ∧
      (payableSubscription db payment.userId payment.subscriptionId).isSome =
        entitles db delivery.payload := by
  obtain ⟨key, userId, subscriptionId, sameKey, user, sub, stored, short, known, present⟩ :=
    storable_iff.mp accepted
  rw [keyed, Option.some.injEq] at sameKey
  subst sameKey
  obtain ⟨readable, fits⟩ := (storableAmount_iff _).mp stored
  refine ⟨_, readPayment_ok_iff.mpr ⟨userId, subscriptionId, user, sub, readable, rfl⟩, ?_, rfl,
    rfl, ?_⟩
  · exact insertPayment_ok_iff.mpr ⟨short, fits, known, present, rfl⟩
  · rw [payableSubscription_isSome, entitles, user, sub]

/-- A storable first delivery whose dates stay in range adds one payment with its own
status. -/
theorem createPayment_ok (settings : BillingSettings) {delivery : Delivery}
    {externalId : String} {db : Db} (keyed : externalIdOf delivery.payload = some externalId)
    (accepted : storable db delivery.payload = true)
    (dated : overflows settings db delivery = false) :
    ∃ (payment : Payment) (final : Db),
      createPayment settings delivery externalId db = .ok (final, ⟨payment.id, true⟩) ∧
      payment.externalId = externalId ∧ payment.status = statusOf delivery.payload ∧
      final.payments = db.payments ++ [payment] ∧
      final.effectsApplied = db.effectsApplied ++ recorded db delivery.payload externalId ∧
      SameAccounts db final := by
  obtain ⟨payment, paymentRead, inserted, external, status, entitled⟩ :=
    exists_readPayment keyed accepted
  unfold overflows at dated
  rw [keyed] at dated
  dsimp only at dated
  rw [paymentRead, Bool.and_eq_false_iff, decide_eq_false_iff_not] at dated
  have computed : createPayment settings delivery externalId db =
      .ok (settledState settings delivery payment db, ⟨payment.id, true⟩) := by
    rw [createPayment, paymentRead]
    change (insertPayment payment db >>= _) = _
    rw [inserted]
    unfold settledState
    rcases dated with unpaid | inRange
    · simp only [if_neg unpaid]
      rfl
    · by_cases paid : payment.status = "completed"
      · simp only [if_pos paid]
        change (applyPaymentSuccessEffects settings delivery.clock payment
          delivery.payload.promoCode (receivedState delivery payment db) >>= _) = _
        rw [applyPaymentSuccessEffects_eq_ok.mpr ⟨inRange, rfl⟩]
        rfl
      · simp only [if_neg paid]
        rfl
  obtain ⟨accounts, payments, applied⟩ := settledState_spec settings delivery payment db
  refine ⟨payment, _, computed, external, status, payments, ?_, accounts⟩
  rw [applied, entitled, status, external]
  rfl

theorem storable_of_createPayment {settings : BillingSettings} {delivery : Delivery}
    {externalId : String} {db : Db} {outcome : Db × WebhookResult}
    (keyed : externalIdOf delivery.payload = some externalId)
    (created : createPayment settings delivery externalId db = .ok outcome) :
    storable db delivery.payload = true ∧ overflows settings db delivery = false := by
  obtain ⟨payment, paymentRead, rest⟩ := bind_eq_ok.mp created
  obtain ⟨inserted, insertion, settled⟩ := bind_eq_ok.mp rest
  obtain ⟨userId, subscriptionId, user, sub, readable, shape⟩ := readPayment_ok_iff.mp paymentRead
  obtain ⟨short, fits, known, present, rfl⟩ := insertPayment_ok_iff.mp insertion
  constructor
  · rw [shape] at short fits known present
    exact storable_iff.mpr ⟨externalId, userId, subscriptionId, keyed, user, sub,
      (storableAmount_iff _).mpr ⟨readable, fits⟩, short, known, present⟩
  · unfold overflows
    rw [keyed]
    dsimp only
    rw [paymentRead]
    by_cases paid : payment.status = "completed"
    · simp only [if_pos paid] at settled
      obtain ⟨final, applied, _⟩ := bind_eq_ok.mp settled
      exact Bool.and_eq_false_iff.mpr (Or.inr (applyPaymentSuccessEffects_eq_ok.mp applied).1)
    · exact Bool.and_eq_false_iff.mpr (Or.inl (decide_eq_false paid))

/-! ### One delivery, seen from one external id -/

/-- The delivery is for this external id and is stored in the state it finds. -/
def decides (settings : BillingSettings) (db : Db) (externalId : String) (delivery : Delivery) :
    Bool :=
  externalIdOf delivery.payload = some externalId && storable db delivery.payload &&
    !overflows settings db delivery

theorem decides_iff (settings : BillingSettings) (db : Db) (externalId : String)
    (delivery : Delivery) :
    decides settings db externalId delivery = true ↔
      externalIdOf delivery.payload = some externalId ∧ storable db delivery.payload = true ∧
        overflows settings db delivery = false := by
  simp [decides, and_assoc]

/-- What a delivery does to the payment of `externalId`. -/
inductive Seen (settings : BillingSettings) (externalId : String) (db : Db)
    (delivery : Delivery) (after : Db) : Prop where
  | kept (samePayment : after.paymentFor externalId = db.paymentFor externalId)
      (sameCount : after.effectsApplied.count externalId = db.effectsApplied.count externalId)
      (idle : db.paymentFor externalId = none →
        decides settings db externalId delivery = false)
  | created (payment : Payment) (unknown : db.paymentFor externalId = none)
      (deciding : decides settings db externalId delivery = true)
      (found : after.paymentFor externalId = some payment)
      (status : payment.status = statusOf delivery.payload)
      (counted : after.effectsApplied.count externalId =
        db.effectsApplied.count externalId + (recorded db delivery.payload externalId).length)

theorem paymentFor_append (db after : Db) (payment : Payment) (externalId : String)
    (grown : after.payments = db.payments ++ [payment]) :
    after.paymentFor externalId =
      (db.paymentFor externalId).or
        (if payment.externalId = externalId then some payment else none) := by
  unfold Db.paymentFor
  rw [grown, List.find?_append]
  congr 1
  by_cases same : payment.externalId = externalId <;> simp [same]

theorem decides_eq_false {settings : BillingSettings} {db : Db} {externalId : String}
    {delivery : Delivery}
    (refused : ¬ (externalIdOf delivery.payload = some externalId ∧
      storable db delivery.payload = true ∧ overflows settings db delivery = false)) :
    decides settings db externalId delivery = false := by
  rw [← Bool.not_eq_true, decides_iff]
  exact refused

theorem deliver_seen (settings : BillingSettings) (externalId : String) (db : Db)
    (delivery : Delivery) :
    SameAccounts db (deliver settings db delivery) ∧
      Seen settings externalId db delivery (deliver settings db delivery) := by
  unfold deliver processPaymentWebhook
  cases keyed : externalIdOf delivery.payload with
  | none =>
      refine ⟨.refl db, .kept rfl rfl (fun _ => decides_eq_false ?_)⟩
      rintro ⟨impossible, _⟩
      rw [keyed] at impossible
      cases impossible
  | some key =>
      dsimp only
      cases known : db.paymentFor key with
      | some payment =>
          refine ⟨⟨rfl, rfl, fun _ => rfl⟩, .kept rfl rfl ?_⟩
          intro unknown
          apply decides_eq_false
          rintro ⟨sameKey, _⟩
          rw [keyed, Option.some.injEq] at sameKey
          rw [← sameKey, known] at unknown
          cases unknown
      | none =>
          dsimp only
          cases outcome : createPayment settings delivery key db with
          | ok result =>
              obtain ⟨accepted, dated⟩ := storable_of_createPayment keyed outcome
              obtain ⟨payment, final, created, external, status, payments, applied, accounts⟩ :=
                createPayment_ok settings keyed accepted dated
              obtain rfl := Except.ok.inj (outcome.symm.trans created)
              refine ⟨accounts, ?_⟩
              have grown := paymentFor_append db final payment externalId payments
              by_cases same : key = externalId
              · subst same
                refine .created payment known ((decides_iff _ _ _ _).mpr ⟨keyed, accepted, dated⟩)
                  ?_ status ?_
                · rw [grown, known, external, if_pos rfl, Option.none_or]
                · rw [applied, List.count_append]
                  congr 1
                  unfold recorded
                  split <;> simp
              · refine .kept ?_ ?_ (fun _ => decides_eq_false ?_)
                · rw [grown, external, if_neg same, Option.or_none]
                · rw [applied, List.count_append]
                  unfold recorded
                  split <;> simp [same]
                · rintro ⟨sameKey, _⟩
                  rw [keyed, Option.some.injEq] at sameKey
                  exact same sameKey
          | error raised =>
              refine ⟨.refl db, .kept rfl rfl (fun _ => decides_eq_false ?_)⟩
              rintro ⟨_, accepted, dated⟩
              obtain ⟨_, _, created, _⟩ := createPayment_ok settings keyed accepted dated
              rw [outcome] at created
              cases created

/-! ### Whole runs -/

theorem SameAccounts.recorded_eq {before after : Db} (same : SameAccounts before after)
    (payload : Payload) (externalId : String) :
    recorded after payload externalId = recorded before payload externalId := by
  rw [recorded, recorded, same.entitles_eq]

/-- The first delivery of a run that is stored under this external id, each delivery met in
the state the run has reached. -/
def firstStored (settings : BillingSettings) (externalId : String) :
    Db → List Delivery → Option Delivery
  | _, [] => none
  | db, delivery :: rest =>
      if decides settings db externalId delivery then some delivery
      else firstStored settings externalId (deliver settings db delivery) rest

/-- A stored payment is never touched again by a delivery. -/
theorem runDeliveries_known (settings : BillingSettings) {externalId : String}
    {payment : Payment} (deliveries : List Delivery) (db : Db)
    (known : db.paymentFor externalId = some payment) :
    (runDeliveries settings db deliveries).paymentFor externalId = some payment ∧
      (runDeliveries settings db deliveries).effectsApplied.count externalId =
        db.effectsApplied.count externalId := by
  induction deliveries generalizing db with
  | nil => exact ⟨known, rfl⟩
  | cons delivery rest ih =>
      obtain ⟨_, seen⟩ := deliver_seen settings externalId db delivery
      cases seen with
      | kept samePayment sameCount _ =>
          obtain ⟨found, counted⟩ := ih (deliver settings db delivery) (samePayment.trans known)
          exact ⟨found, counted.trans sameCount⟩
      | created _ unknown _ _ _ _ =>
          rw [known] at unknown
          cases unknown

/-- An unknown payment stays unknown until a delivery of it is stored. -/
theorem runDeliveries_undecided (settings : BillingSettings) {externalId : String}
    (deliveries : List Delivery) (db : Db) (unknown : db.paymentFor externalId = none)
    (undecided : firstStored settings externalId db deliveries = none) :
    (runDeliveries settings db deliveries).paymentFor externalId = none ∧
      (runDeliveries settings db deliveries).effectsApplied.count externalId =
        db.effectsApplied.count externalId := by
  induction deliveries generalizing db with
  | nil => exact ⟨unknown, rfl⟩
  | cons delivery rest ih =>
      obtain ⟨_, seen⟩ := deliver_seen settings externalId db delivery
      rw [firstStored] at undecided
      cases seen with
      | kept samePayment sameCount idle =>
          rw [idle unknown, if_neg Bool.false_ne_true] at undecided
          obtain ⟨found, counted⟩ := ih (deliver settings db delivery)
            (samePayment.trans unknown) undecided
          exact ⟨found, counted.trans sameCount⟩
      | created payment _ deciding _ _ _ =>
          rw [if_pos deciding] at undecided
          cases undecided

/-- The first stored delivery decides status and effects once and for all. -/
theorem runDeliveries_decided (settings : BillingSettings) {externalId : String}
    {first : Delivery} (deliveries : List Delivery) (db : Db)
    (unknown : db.paymentFor externalId = none)
    (decided : firstStored settings externalId db deliveries = some first) :
    (∃ payment, (runDeliveries settings db deliveries).paymentFor externalId = some payment ∧
        payment.status = statusOf first.payload) ∧
      (runDeliveries settings db deliveries).effectsApplied.count externalId =
        db.effectsApplied.count externalId +
          (recorded db first.payload externalId).length := by
  induction deliveries generalizing db with
  | nil => cases decided
  | cons delivery rest ih =>
      obtain ⟨accounts, seen⟩ := deliver_seen settings externalId db delivery
      rw [firstStored] at decided
      cases seen with
      | kept samePayment sameCount idle =>
          rw [idle unknown, if_neg Bool.false_ne_true] at decided
          obtain ⟨found, counted⟩ := ih (deliver settings db delivery)
            (samePayment.trans unknown) decided
          rw [sameCount, accounts.recorded_eq] at counted
          exact ⟨found, counted⟩
      | created payment _ deciding found status counted =>
          rw [if_pos deciding] at decided
          obtain rfl := Option.some.inj decided
          obtain ⟨kept, sameCount⟩ :=
            runDeliveries_known settings rest (deliver settings db delivery) found
          exact ⟨⟨payment, kept, status⟩, sameCount.trans counted⟩

/-- Over the run the effects of a payment are applied once, and it ends completed. -/
def AppliedOnce (settings : BillingSettings) (db : Db) (deliveries : List Delivery)
    (externalId : String) : Prop :=
  (runDeliveries settings db deliveries).effectsApplied.count externalId =
      db.effectsApplied.count externalId + 1 ∧
    ∃ payment, (runDeliveries settings db deliveries).paymentFor externalId = some payment ∧
      payment.status = "completed"

/-- A payment is applied once exactly when it is new and the first of its deliveries that is
stored is a completed one. -/
theorem appliedOnce_iff_first_completed (settings : BillingSettings) (db : Db)
    (deliveries : List Delivery) (externalId : String) :
    AppliedOnce settings db deliveries externalId ↔
      db.paymentFor externalId = none ∧
        ∃ first, firstStored settings externalId db deliveries = some first ∧
          statusOf first.payload = "completed" ∧ entitles db first.payload = true := by
  unfold AppliedOnce
  cases known : db.paymentFor externalId with
  | some payment =>
      obtain ⟨_, counted⟩ := runDeliveries_known settings deliveries db known
      constructor
      · rintro ⟨once, _⟩
        omega
      · rintro ⟨impossible, _⟩
        cases impossible
  | none =>
      cases decided : firstStored settings externalId db deliveries with
      | none =>
          obtain ⟨_, counted⟩ := runDeliveries_undecided settings deliveries db known decided
          constructor
          · rintro ⟨once, _⟩
            omega
          · rintro ⟨_, first, impossible, _⟩
            cases impossible
      | some first =>
          obtain ⟨⟨payment, found, status⟩, counted⟩ :=
            runDeliveries_decided settings deliveries db known decided
          constructor
          · rintro ⟨once, _⟩
            have one : (recorded db first.payload externalId).length = 1 := by omega
            unfold recorded at one
            split at one
            · rename_i both
              exact ⟨rfl, first, rfl, both⟩
            · cases one
          · rintro ⟨_, other, same, completed, entitled⟩
            cases same
            refine ⟨?_, payment, found, status.trans completed⟩
            rw [counted, recorded, if_pos ⟨completed, entitled⟩]
            rfl

def janDb : Db :=
  { users := [⟨1, 100⟩]
    plans := ⟨[("month", ⟨30⟩)], by decide⟩
    subscriptions := ⟨[("sub", ⟨1, "month", 0, 5 * day, "active"⟩)], by decide⟩
    payments := []
    paymentEvents := []
    referrals := ⟨[], by decide⟩
    promoCodes := []
    promoRedemptions := []
    funnelEvents := []
    effectsApplied := [] }

def starsDelivery (status : String) : Delivery :=
  { provider := "telegram_stars"
    payload :=
      { externalId := some "stars-1"
        id := none
        paymentId := none
        userId := .value 1
        subscriptionId := some "sub"
        amount := .value 100
        status := some status
        currency := some "XTR"
        promoCode := none }
    clock := ⟨day, day, day, day, day, day⟩ }

/-- A payment announced as pending is never completed by the later delivery. -/
theorem completed_after_pending_lost :
    let deliveries := [starsDelivery "pending", starsDelivery "completed"]
    let final := runDeliveries ⟨7⟩ janDb deliveries
    (storable janDb (starsDelivery "completed").payload = true ∧
      entitles janDb (starsDelivery "completed").payload = true) ∧
    final.effectsApplied = [] ∧ (final.paymentFor "stars-1").map Payment.status = some "pending" ∧
    ¬ AppliedOnce ⟨7⟩ janDb deliveries "stars-1" := by
  refine ⟨by decide, by decide, by decide, ?_⟩
  rintro ⟨once, _⟩
  exact absurd once (by decide)

end VpnSuite.Billing
