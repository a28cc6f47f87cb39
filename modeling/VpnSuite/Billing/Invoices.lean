/-
Invoices of the bot and of the web app (`create_invoice` in `api/v1/bot.py`,
`webapp_create_invoice` in `api/v1/webapp.py`).

Both pick a subscription of the plan, insert a payment and, when the plan is free, activate
the subscription at once.  The bot cuts the price to an integer before it asks whether the
plan is free; the web app compares the price itself.  An invoice whose external id is taken
is a replay for the bot, which answers with the payment there is, and a failure for the web
app.

Prices and amounts are the decimals of the plan and payment rows.
-/

import VpnSuite.Billing.PendingSubscriptions
import VpnSuite.Billing.WebhookReplay
import Mathlib.Algebra.Order.Ring.Rat
import Mathlib.Tactic.Linarith

set_option autoImplicit false

namespace VpnSuite.Billing

open Foundations
open Foundations.PythonText

/-! ### Tables -/

/-- The columns of a plan that only invoices read. -/
structure Offer where
  name : String
  priceAmount : Rat
  priceCurrency : String
  deriving DecidableEq, Repr

/-- The billing tables, the offers by plan id, the server the query for an active one returns,
and the `plan_selected` funnel events. -/
structure InvoiceDb where
  billing : Db
  offers : Dict String Offer
  server : Option String
  plansSelected : List (Int × String)

def InvoiceDb.plan (db : InvoiceDb) (planId : String) : Option (Plan × Offer) :=
  (db.billing.plans.get? planId).bind (fun plan =>
    (db.offers.get? planId).map (fun offer => (plan, offer)))

def InvoiceDb.setSubscription (db : InvoiceDb) (id : String) (row : Subscription) : InvoiceDb :=
  { db with billing := { db.billing with subscriptions := db.billing.subscriptions.set id row } }

/-! ### Invoices -/

structure Invoice where
  payment : Payment
  title : String
  description : String
  starCount : Int
  serverId : String
  subscriptionId : String
  freeActivation : Bool
  deriving DecidableEq, Repr

inductive InvoiceError where
  | unsupportedProvider (provider : String)
  | userNotFound
  | planNotFound
  | subscriptionNotFound
  | serverNotAvailable
  | database (error : WebhookError)
  deriving DecidableEq, Repr

def InvoiceError.code : InvoiceError → Option String
  | .unsupportedProvider _ => some "UNSUPPORTED_PROVIDER"
  | .userNotFound => some "USER_NOT_FOUND"
  | .planNotFound => some "PLAN_NOT_FOUND"
  | .subscriptionNotFound => some "SUBSCRIPTION_NOT_FOUND"
  | .serverNotAvailable => some "SERVER_NOT_AVAILABLE"
  | .database _ => none

/-- `int(amount)`: the decimal cut towards zero. -/
def truncated (amount : Rat) : Int := amount.num.tdiv amount.den

def starCount (isFree : Bool) (priceAmount : Rat) : Int :=
  if isFree then 0 else max 1 (truncated priceAmount)

def invoiceDescription (plan : Plan) : String :=
  "VPN plan, " ++ toString plan.durationDays ++ " days"

/-- `{"promo_code": …}` if there is one. -/
def promoPayload (promoCode : Option String) : Option Payload :=
  (orNone (orDefault promoCode "")).map (fun code =>
    ⟨none, none, none, .absent, none, .absent, none, none, some code⟩)

def invoicePayment (db : Db) (userId : Int) (subscriptionId provider externalId : String)
    (offer : Offer) (promoCode : Option String) (isFree : Bool) : Payment :=
  { id := db.payments.length
    userId := userId
    subscriptionId := subscriptionId
    provider := provider
    status := if isFree then "completed" else "pending"
    amount := offer.priceAmount
    currency := offer.priceCurrency
    externalId := externalId
    webhookPayload := promoPayload promoCode }

/-! ### The bot -/

/-- The request; `requestKey` is the idempotency key or the id of the request, and `first` the
row a look without an order would return first. -/
structure BotInvoiceRequest where
  provider : String
  tgId : Int
  planId : String
  subscriptionId : Option String
  promoCode : Option String
  requestKey : String
  first : String
  deriving DecidableEq, Repr

/-- The active subscription of the plan, else the pending one. -/
def planSubscription (userId : Int) (planId first : String) (now : Int) (db : Db) :
    Option (String × Subscription) :=
  ((selectActive userId planId first now db.subscriptions).orElse
      (fun _ => selectPending userId planId db.subscriptions)).bind
    (fun id => (db.subscriptions.get? id).map (fun sub => (id, sub)))

/-- The row the bot charges: the given one if it is the user's, whatever its plan. -/
def botSubscription (request : BotInvoiceRequest) (userId now : Int) (db : Db) :
    Option (String × Subscription) :=
  match orNone (orDefault request.subscriptionId "") with
  | some id =>
      ((db.subscriptions.get? id).filter (fun sub => sub.userId = userId)).map
        (fun sub => (id, sub))
  | none => planSubscription userId request.planId request.first now db

def botExternalId (request : BotInvoiceRequest) (userId : Int) (subscriptionId : String) :
    String :=
  "bot:" ++ request.provider ++ ":" ++ toString userId ++ ":" ++ subscriptionId ++ ":" ++
    request.requestKey

def botIsFree (offer : Offer) : Bool := truncated offer.priceAmount ≤ 0

def activateFrom (now : Int) (plan : Plan) (sub : Subscription) : Subscription :=
  { sub with status := "active", validFrom := now, validUntil := now + plan.durationDays * day }

/-- The answer to a replay: the payment there is, with its subscription and plan. -/
def replayInvoice (existing : Payment) (serverId : String) (db : InvoiceDb) :
    Except InvoiceError Invoice :=
  match (db.billing.subscriptions.get? existing.subscriptionId).bind
      (fun sub => db.plan sub.planId) with
  | none => .error (.database .integrityError)
  | some (plan, offer) =>
      let isFree := existing.status = "completed" && truncated existing.amount ≤ 0
      .ok { payment := existing
            title := orDefault (some offer.name) "VPN"
            description := invoiceDescription plan
            starCount := starCount isFree offer.priceAmount
            serverId := serverId
            subscriptionId := existing.subscriptionId
            freeActivation := isFree }

def ensure (condition : Bool) (error : InvoiceError) : Except InvoiceError Unit :=
  if condition then .ok () else .error error

def orRaise {α : Type} (value : Option α) (error : InvoiceError) : Except InvoiceError α :=
  value.elim (.error error) .ok

/-- `create_invoice` from the insert on; a taken external id is a replay. -/
def chargeBot (request : BotInvoiceRequest) (now userId : Int) (plan : Plan) (offer : Offer)
    (id : String) (sub : Subscription) (serverId : String) (db : InvoiceDb) :
    Except InvoiceError (Invoice × InvoiceDb) :=
  let externalId := botExternalId request userId id
  match db.billing.paymentFor externalId with
  | some existing => (replayInvoice existing serverId db).map (fun invoice => (invoice, db))
  | none =>
      let isFree := botIsFree offer
      let payment := invoicePayment db.billing userId id request.provider externalId offer
        request.promoCode isFree
      match insertPayment payment db.billing with
      | .error error => .error (.database error)
      | .ok billing =>
          let paid := { db with billing := billing }
          .ok ({ payment := payment
                 title := orDefault (some offer.name) "VPN"
                 description := invoiceDescription plan
                 starCount := starCount isFree offer.priceAmount
                 serverId := serverId
                 subscriptionId := id
                 freeActivation := isFree },
            if isFree && sub.status ≠ "active" then
              paid.setSubscription id (activateFrom now plan sub)
            else paid)

/-- `create_invoice`. -/
def createInvoice (request : BotInvoiceRequest) (now : Int) (db : InvoiceDb) :
    Except InvoiceError (Invoice × InvoiceDb) := do
  ensure (request.provider = "telegram_stars") (.unsupportedProvider request.provider)
  let user ← orRaise (db.billing.users.find? (fun user => user.tgId = request.tgId)) .userNotFound
  let (plan, offer) ← orRaise (db.plan request.planId) .planNotFound
  let (id, sub) ← orRaise (botSubscription request user.id now db.billing) .subscriptionNotFound
  let serverId ← orRaise db.server .serverNotAvailable
  chargeBot request now user.id plan offer id sub serverId db

/-! ### The web app -/

/-- The request, with the ids a new user and a new subscription would get. -/
structure WebInvoiceRequest where
  tgId : Int
  planId : String
  promoCode : Option String
  requestId : String
  first : String
  newUserId : Int
  newSubscriptionId : String
  deriving DecidableEq, Repr

/-- `_get_or_create_webapp_user`. -/
def getOrCreateWebappUser (tgId newUserId : Int) (db : Db) : User × Db :=
  match db.users.find? (fun user => user.tgId = tgId) with
  | some user => (user, db)
  | none => (⟨newUserId, tgId⟩, { db with users := db.users ++ [⟨newUserId, tgId⟩] })

def webExternalId (request : WebInvoiceRequest) (userId : Int) (subscriptionId : String) : String :=
  "webapp:telegram_stars:" ++ toString userId ++ ":" ++ subscriptionId ++ ":" ++ request.requestId

/-- The row the web app charges; without one it inserts a pending row. -/
def webSubscription (request : WebInvoiceRequest) (userId now : Int) (db : Db) :
    Except InvoiceError ((String × Subscription) × Db) :=
  match planSubscription userId request.planId request.first now db with
  | some chosen => .ok (chosen, db)
  | none =>
      if request.newSubscriptionId ∈ db.subscriptions.keys then
        .error (.database .integrityError)
      else
        let row := pendingSubscription userId request.planId now
        .ok ((request.newSubscriptionId, row),
          { db with subscriptions := db.subscriptions.set request.newSubscriptionId row })

def webIsFree (offer : Offer) : Bool := offer.priceAmount ≤ 0

/-- `webapp_create_invoice` from the insert on. -/
def chargeWeb (request : WebInvoiceRequest) (now userId : Int) (plan : Plan) (offer : Offer)
    (id : String) (sub : Subscription) (db : InvoiceDb) :
    Except InvoiceError (Invoice × InvoiceDb) :=
  let externalId := webExternalId request userId id
  let isFree := webIsFree offer
  let payment := invoicePayment db.billing userId id "telegram_stars" externalId offer
    request.promoCode isFree
  if (db.billing.paymentFor externalId).isSome then .error (.database .integrityError)
  else
    match insertPayment payment db.billing with
    | .error error => .error (.database error)
    | .ok billing =>
        let paid := { db with
          billing := billing
          plansSelected := db.plansSelected ++ [(userId, request.planId)] }
        .ok ({ payment := payment
               title := orDefault (some offer.name) "VPN"
               description := invoiceDescription plan
               starCount := starCount isFree offer.priceAmount
               serverId := db.server.getD ""
               subscriptionId := id
               freeActivation := isFree },
          paid.setSubscription id
            ((RequestKind.webapp offer.priceAmount plan.durationDays true).activate now sub))

/-- `webapp_create_invoice`, past the check of the session. -/
def webappCreateInvoice (request : WebInvoiceRequest) (now : Int) (db : InvoiceDb) :
    Except InvoiceError (Invoice × InvoiceDb) := do
  let (user, known) := getOrCreateWebappUser request.tgId request.newUserId db.billing
  let (plan, offer) ← orRaise (db.plan request.planId) .planNotFound
  let ((id, sub), selected) ← webSubscription request user.id now known
  ensure (db.server.isSome || webIsFree offer) .serverNotAvailable
  chargeWeb request now user.id plan offer id sub { db with billing := selected }

/-! ### What an invoice does -/

theorem truncated_nonpos_iff (amount : Rat) : truncated amount ≤ 0 ↔ amount < 1 := by
  have positive : (0 : Int) < amount.den := Int.natCast_pos.mpr amount.den_pos
  have below : amount < 1 ↔ amount.num < amount.den := by
    rw [Rat.lt_iff]
    simp
  rw [below, truncated]
  constructor
  · intro cut
    by_contra large
    have whole : (1 : Int) ≤ amount.num.tdiv amount.den := by
      rw [Int.tdiv_eq_ediv_of_nonneg (by omega)]
      exact Int.le_ediv_of_mul_le positive (by omega)
    omega
  · intro small
    by_cases negative : amount.num ≤ 0
    · rw [← Int.neg_nonneg, ← Int.neg_tdiv]
      exact Int.tdiv_nonneg (by omega) positive.le
    · rw [Int.tdiv_eq_zero_of_lt (by omega) small]

section Outcomes

variable {now userId : Int} {plan : Plan} {offer : Offer} {id : String} {sub : Subscription}
  {db : InvoiceDb} {result : Invoice × InvoiceDb}

theorem orRaise_eq_ok {α : Type} {value : Option α} {error : InvoiceError} {content : α} :
    orRaise value error = .ok content ↔ value = some content := by
  cases value <;> simp [orRaise]

/-- The chosen row is stored, is the user's, belongs to the plan, and is active or pending. -/
theorem planSubscription_some {planId first : String} {billing : Db}
    (chosen : planSubscription userId planId first now billing = some (id, sub)) :
    billing.subscriptions.get? id = some sub ∧ sub.planId = planId ∧
      (sub.status = "active" ∨ sub.status = "pending") := by
  unfold planSubscription at chosen
  obtain ⟨selected, picked, read⟩ := Option.bind_eq_some_iff.mp chosen
  obtain ⟨row, stored, same⟩ := Option.map_eq_some_iff.mp read
  obtain ⟨rfl, rfl⟩ := Prod.mk.inj same
  refine ⟨stored, ?_⟩
  cases active : selectActive userId planId first now billing.subscriptions with
  | some found =>
      rw [active] at picked
      obtain rfl := Option.some.inj picked
      obtain ⟨other, there, -, ofPlan, status, -⟩ := mem_activeIds.mp (selectActive_some active)
      obtain rfl := Option.some.inj (stored.symm.trans there)
      exact ⟨ofPlan, Or.inl status⟩
  | none =>
      rw [active] at picked
      obtain ⟨other, there, -, ofPlan, status⟩ := mem_pendingIds.mp (selectPending_some picked)
      obtain rfl := Option.some.inj (stored.symm.trans there)
      exact ⟨ofPlan, Or.inr status⟩

theorem botSubscription_stored {request : BotInvoiceRequest} {billing : Db}
    (chosen : botSubscription request userId now billing = some (id, sub)) :
    billing.subscriptions.get? id = some sub := by
  unfold botSubscription at chosen
  split at chosen
  · obtain ⟨row, found, same⟩ := Option.map_eq_some_iff.mp chosen
    obtain ⟨rfl, rfl⟩ := Prod.mk.inj same
    exact (Option.filter_eq_some_iff.mp found).1
  · exact (planSubscription_some chosen).1

/-- Without a given subscription the bot charges the row the web app would. -/
theorem botSubscription_eq_plan {request : BotInvoiceRequest} {billing : Db}
    (open_ : orNone (orDefault request.subscriptionId "") = none) :
    botSubscription request userId now billing =
      planSubscription userId request.planId request.first now billing := by
  rw [botSubscription, open_]

/-- How a bot invoice ends: with the payment there is, or with a new one. -/
theorem chargeBot_ok {request : BotInvoiceRequest} {serverId : String}
    (charged : chargeBot request now userId plan offer id sub serverId db = .ok result) :
    (∃ existing, db.billing.paymentFor (botExternalId request userId id) = some existing ∧
        replayInvoice existing serverId db = .ok result.1 ∧ result.2 = db) ∨
      db.billing.paymentFor (botExternalId request userId id) = none ∧
        result.1.payment.status = (if botIsFree offer then "completed" else "pending") ∧
        result.1.subscriptionId = id ∧ result.1.freeActivation = botIsFree offer ∧
        result.1.starCount = starCount (botIsFree offer) offer.priceAmount ∧
        result.2.billing.subscriptions =
          if botIsFree offer && sub.status ≠ "active" then
            db.billing.subscriptions.set id (activateFrom now plan sub)
          else db.billing.subscriptions := by
  unfold chargeBot at charged
  dsimp only at charged
  split at charged
  · rename_i existing found
    left
    refine ⟨existing, found, ?_⟩
    cases replayed : replayInvoice existing serverId db with
    | error error =>
        rw [replayed] at charged
        cases charged
    | ok invoice =>
        rw [replayed] at charged
        cases charged
        exact ⟨rfl, rfl⟩
  · rename_i fresh
    right
    split at charged
    · cases charged
    · rename_i billing inserted
      cases charged
      obtain ⟨-, -, -, -, rfl⟩ := insertPayment_ok_iff.mp inserted
      refine ⟨fresh, rfl, rfl, rfl, rfl, ?_⟩
      split <;> rfl

/-- How an invoice of the web app ends. -/
theorem chargeWeb_ok {request : WebInvoiceRequest}
    (charged : chargeWeb request now userId plan offer id sub db = .ok result) :
    result.1.payment.status = (if webIsFree offer then "completed" else "pending") ∧
      result.1.subscriptionId = id ∧ result.1.freeActivation = webIsFree offer ∧
      result.1.starCount = starCount (webIsFree offer) offer.priceAmount ∧
      result.2.billing.subscriptions = db.billing.subscriptions.set id
        ((RequestKind.webapp offer.priceAmount plan.durationDays true).activate now sub) := by
  unfold chargeWeb at charged
  dsimp only at charged
  split at charged
  · cases charged
  · split at charged
    · cases charged
    · rename_i billing inserted
      cases charged
      obtain ⟨-, -, -, -, rfl⟩ := insertPayment_ok_iff.mp inserted
      exact ⟨rfl, rfl, rfl, rfl, rfl⟩

theorem createInvoice_ok {request : BotInvoiceRequest}
    (returned : createInvoice request now db = .ok result) :
    ∃ user plan offer id sub serverId,
      db.billing.users.find? (fun user => user.tgId = request.tgId) = some user ∧
      db.plan request.planId = some (plan, offer) ∧
      botSubscription request user.id now db.billing = some (id, sub) ∧
      chargeBot request now user.id plan offer id sub serverId db = .ok result := by
  unfold createInvoice at returned
  obtain ⟨_, -, returned⟩ := bind_eq_ok.mp returned
  obtain ⟨user, found, returned⟩ := bind_eq_ok.mp returned
  obtain ⟨⟨plan, offer⟩, offered, returned⟩ := bind_eq_ok.mp returned
  obtain ⟨⟨id, sub⟩, chosen, returned⟩ := bind_eq_ok.mp returned
  obtain ⟨serverId, -, charged⟩ := bind_eq_ok.mp returned
  exact ⟨user, plan, offer, id, sub, serverId, orRaise_eq_ok.mp found, orRaise_eq_ok.mp offered,
    orRaise_eq_ok.mp chosen, charged⟩

/-- A known user is charged for a row that is there, or for a new one. -/
theorem webappCreateInvoice_ok {request : WebInvoiceRequest} {user : User}
    (known : db.billing.users.find? (fun user => user.tgId = request.tgId) = some user)
    (returned : webappCreateInvoice request now db = .ok result) :
    ∃ plan offer, db.plan request.planId = some (plan, offer) ∧
      ((∃ id sub, planSubscription user.id request.planId request.first now db.billing =
          some (id, sub) ∧ chargeWeb request now user.id plan offer id sub db = .ok result) ∨
        db.billing.subscriptions.get? result.1.subscriptionId = none) := by
  unfold webappCreateInvoice getOrCreateWebappUser at returned
  rw [known] at returned
  obtain ⟨⟨plan, offer⟩, offered, returned⟩ := bind_eq_ok.mp returned
  refine ⟨plan, offer, orRaise_eq_ok.mp offered, ?_⟩
  obtain ⟨⟨⟨id, sub⟩, selected⟩, chosen, returned⟩ := bind_eq_ok.mp returned
  obtain ⟨_, -, charged⟩ := bind_eq_ok.mp returned
  unfold webSubscription at chosen
  split at chosen
  · rename_i picked found
    cases chosen
    exact Or.inl ⟨id, sub, found, charged⟩
  · split at chosen
    · cases chosen
    · rename_i fresh
      cases chosen
      right
      rw [(chargeWeb_ok charged).2.1]
      exact (Dict.get?_eq_none_iff ..).mpr fresh

end Outcomes

/-! ### Both invoices for one subscription -/

/-- What the two answers have to agree on. -/
structure InvoicesAgree (bot web : Invoice × InvoiceDb) : Prop where
  freeActivation : bot.1.freeActivation = web.1.freeActivation
  starCount : bot.1.starCount = web.1.starCount
  paymentStatus : bot.1.payment.status = web.1.payment.status
  subscription :
    (bot.2.billing.subscriptions.get? bot.1.subscriptionId).map
        (fun row => (row.status, row.validUntil)) =
      (web.2.billing.subscriptions.get? web.1.subscriptionId).map
        (fun row => (row.status, row.validUntil))

/-- The invoice has turned its subscription active. -/
def Activates (db : InvoiceDb) (result : Invoice × InvoiceDb) : Prop :=
  (result.2.billing.subscriptions.get? result.1.subscriptionId).map Subscription.status =
      some "active" ∧
    (db.billing.subscriptions.get? result.1.subscriptionId).map Subscription.status ≠ some "active"

/-- The payment that makes the bot's request a replay. -/
def replayedPayment (request : BotInvoiceRequest) (userId now : Int) (db : Db) : Option Payment :=
  (botSubscription request userId now db).bind (fun chosen =>
    db.paymentFor (botExternalId request userId chosen.1))

/-- The condition.  A new bot invoice: the price is not between nothing and one unit.  A
replay: the old payment is what a new invoice would be. -/
def chargesAlike (priceAmount : Rat) (status : String) : Option Payment → Prop
  | none => ¬ (0 < priceAmount ∧ priceAmount < 1)
  | some existing =>
      (priceAmount ≤ 0 ∧ existing.status = "completed" ∧ existing.amount < 1 ∧
          status = "active") ∨
        0 < priceAmount ∧ existing.status = "pending"

section Comparison

variable {now : Int} {plan : Plan} {offer : Offer} {sub : Subscription} {id : String}
  {db : InvoiceDb} {bot web : Invoice × InvoiceDb}

/-- What the web app answers for a stored row `sub` with id `id`. -/
structure WebCharged (now : Int) (plan : Plan) (offer : Offer) (id : String) (sub : Subscription)
    (web : Invoice × InvoiceDb) : Prop where
  status : web.1.payment.status = if webIsFree offer then "completed" else "pending"
  subscriptionId : web.1.subscriptionId = id
  freeActivation : web.1.freeActivation = webIsFree offer
  starCount : web.1.starCount = Billing.starCount (webIsFree offer) offer.priceAmount
  row : web.2.billing.subscriptions.get? id =
    some ((RequestKind.webapp offer.priceAmount plan.durationDays true).activate now sub)

/-- A price the web app charges leaves the row alone. -/
theorem WebCharged.paid (charged : WebCharged now plan offer id sub web)
    (positive : 0 < offer.priceAmount) :
    webIsFree offer = false ∧ web.2.billing.subscriptions.get? id = some sub := by
  have paid : webIsFree offer = false := decide_eq_false (Rat.not_le.mpr positive)
  have notFree : (RequestKind.webapp offer.priceAmount plan.durationDays true).isFree = false :=
    paid
  exact ⟨paid, by rw [charged.row, activate_paid notFree]⟩

theorem not_activates_of_row {result : Invoice × InvoiceDb}
    (stored : db.billing.subscriptions.get? result.1.subscriptionId = some sub)
    (kept : result.2.billing.subscriptions.get? result.1.subscriptionId = some sub) :
    ¬ Activates db result := by
  rintro ⟨after, before⟩
  rw [kept] at after
  rw [stored] at before
  exact before after

theorem fresh_agrees_iff (charged : WebCharged now plan offer id sub web)
    (stored : db.billing.subscriptions.get? id = some sub)
    (lasting : 1 ≤ plan.durationDays)
    (status : bot.1.payment.status = (if botIsFree offer then "completed" else "pending"))
    (subscriptionId : bot.1.subscriptionId = id)
    (freeActivation : bot.1.freeActivation = botIsFree offer)
    (stars : bot.1.starCount = starCount (botIsFree offer) offer.priceAmount)
    (rows : bot.2.billing.subscriptions =
      if botIsFree offer && sub.status ≠ "active" then
        db.billing.subscriptions.set id (activateFrom now plan sub)
      else db.billing.subscriptions) :
    (InvoicesAgree bot web ∧
        (0 < offer.priceAmount → ¬ Activates db bot ∧ ¬ Activates db web)) ↔
      ¬ (0 < offer.priceAmount ∧ offer.priceAmount < 1) := by
  have botFree : botIsFree offer = decide (offer.priceAmount < 1) :=
    decide_eq_decide.mpr (truncated_nonpos_iff offer.priceAmount)
  by_cases positive : 0 < offer.priceAmount
  · obtain ⟨paid, webRow⟩ := charged.paid positive
    by_cases small : offer.priceAmount < 1
    · -- cut to nothing by the bot only
      refine iff_of_false ?_ (fun outside => outside ⟨positive, small⟩)
      rintro ⟨agree, -⟩
      have same := agree.freeActivation
      rw [freeActivation, charged.freeActivation, botFree, decide_eq_true small, paid] at same
      cases same
    · have costs : botIsFree offer = false := botFree.trans (decide_eq_false small)
      have botRow : bot.2.billing.subscriptions.get? bot.1.subscriptionId = some sub := by
        rw [rows, costs, subscriptionId]
        exact stored
      refine iff_of_true ⟨⟨?_, ?_, ?_, ?_⟩, fun _ => ⟨?_, ?_⟩⟩ (fun inside => small inside.2)
      · rw [freeActivation, charged.freeActivation, costs, paid]
      · rw [stars, charged.starCount, costs, paid]
      · rw [status, charged.status, costs, paid]
      · rw [botRow, charged.subscriptionId, webRow]
      · exact not_activates_of_row (subscriptionId ▸ stored) botRow
      · exact not_activates_of_row (charged.subscriptionId ▸ stored)
          (charged.subscriptionId ▸ webRow)
  · have free : webIsFree offer = true := decide_eq_true (Rat.not_lt.mp positive)
    have below : offer.priceAmount < 1 := by linarith
    have botToo : botIsFree offer = true := botFree.trans (decide_eq_true below)
    refine iff_of_true ⟨⟨?_, ?_, ?_, ?_⟩, fun costs => absurd costs positive⟩
      (fun inside => positive inside.1)
    · rw [freeActivation, charged.freeActivation, botToo, free]
    · rw [stars, charged.starCount, botToo, free]
    · rw [status, charged.status, botToo, free]
    · rw [charged.subscriptionId, charged.row, subscriptionId, rows, botToo]
      by_cases active : sub.status = "active"
      · simp [active, stored, activate_active]
      · have days : plan.durationDays ≠ 0 := by omega
        simp [active, RequestKind.activate, Rat.not_lt.mp positive, activateFrom, days]

theorem replay_agrees_iff {existing : Payment} {serverId : String}
    (charged : WebCharged now plan offer id sub web)
    (stored : db.billing.subscriptions.get? id = some sub)
    (offered : db.plan sub.planId = some (plan, offer))
    (replayed : replayInvoice existing serverId db = .ok bot.1) (kept : bot.2 = db)
    (subscriptionId : bot.1.subscriptionId = id) :
    (InvoicesAgree bot web ∧
        (0 < offer.priceAmount → ¬ Activates db bot ∧ ¬ Activates db web)) ↔
      chargesAlike offer.priceAmount sub.status (some existing) := by
  have answer : bot.1.payment = existing ∧ existing.subscriptionId = id ∧
      bot.1.freeActivation = (decide (existing.status = "completed") &&
        decide (truncated existing.amount ≤ 0)) ∧
      bot.1.starCount = starCount bot.1.freeActivation offer.priceAmount := by
    unfold replayInvoice at replayed
    split at replayed
    · cases replayed
    · rename_i oldPlan oldOffer found
      have same : bot.1 = _ := (Except.ok.inj replayed).symm
      have ownId : existing.subscriptionId = id := by
        rw [← subscriptionId, same]
      rw [ownId, stored, Option.bind_some, offered] at found
      obtain ⟨rfl, rfl⟩ := Prod.mk.inj (Option.some.inj found)
      rw [same]
      exact ⟨rfl, ownId, rfl, rfl⟩
  obtain ⟨payment, -, freeActivation, stars⟩ := answer
  have botRow : bot.2.billing.subscriptions.get? bot.1.subscriptionId = some sub := by
    rw [kept, subscriptionId]
    exact stored
  unfold chargesAlike
  by_cases positive : 0 < offer.priceAmount
  · obtain ⟨paid, webRow⟩ := charged.paid positive
    constructor
    · rintro ⟨agree, -⟩
      have same := agree.paymentStatus
      rw [payment, charged.status, paid] at same
      exact Or.inr ⟨positive, same⟩
    · rintro (⟨free, -⟩ | ⟨-, pending⟩)
      · exact absurd free (Rat.not_le.mpr positive)
      · have costs : bot.1.freeActivation = false := by
          rw [freeActivation, pending]
          rfl
        refine ⟨⟨?_, ?_, ?_, ?_⟩, fun _ => ⟨?_, ?_⟩⟩
        · rw [costs, charged.freeActivation, paid]
        · rw [stars, costs, charged.starCount, paid]
        · rw [payment, pending, charged.status, paid]
          rfl
        · rw [botRow, charged.subscriptionId, webRow]
        · exact not_activates_of_row (subscriptionId ▸ stored) botRow
        · exact not_activates_of_row (charged.subscriptionId ▸ stored)
            (charged.subscriptionId ▸ webRow)
  · have free : webIsFree offer = true := decide_eq_true (Rat.not_lt.mp positive)
    constructor
    · rintro ⟨agree, -⟩
      have sameFree := agree.freeActivation
      rw [freeActivation, charged.freeActivation, free, Bool.and_eq_true, decide_eq_true_eq,
        decide_eq_true_eq, truncated_nonpos_iff] at sameFree
      refine Or.inl ⟨Rat.not_lt.mp positive, sameFree.1, sameFree.2, ?_⟩
      -- the web app would have activated a pending row, the replay leaves it
      by_contra inactive
      have sameRow := agree.subscription
      rw [botRow, charged.subscriptionId, charged.row] at sameRow
      simp [RequestKind.activate, Rat.not_lt.mp positive, inactive] at sameRow
    · rintro (⟨-, completed, small, active⟩ | ⟨costs, -⟩)
      · have botFree : bot.1.freeActivation = true := by
          rw [freeActivation, completed, Bool.and_eq_true, decide_eq_true_eq, decide_eq_true_eq,
            truncated_nonpos_iff]
          exact ⟨rfl, small⟩
        refine ⟨⟨?_, ?_, ?_, ?_⟩, fun costs => absurd costs positive⟩
        · rw [botFree, charged.freeActivation, free]
        · rw [stars, botFree, charged.starCount, free]
        · rw [payment, completed, charged.status, free]
          rfl
        · rw [botRow, charged.subscriptionId, charged.row, activate_active _ _ active]
      · exact absurd costs positive

end Comparison

/-- The bot and the web app, both invoicing one subscription from one state, charge alike and
give nothing away exactly under the condition. -/
theorem invoices_agree_iff (botRequest : BotInvoiceRequest) (webRequest : WebInvoiceRequest)
    (now : Int) (db : InvoiceDb) (bot web : Invoice × InvoiceDb) (user : User) (plan : Plan)
    (offer : Offer) (sub : Subscription) (sameUser : webRequest.tgId = botRequest.tgId)
    (samePlan : webRequest.planId = botRequest.planId)
    (known : db.billing.users.find? (fun user => user.tgId = botRequest.tgId) = some user)
    (offered : db.plan botRequest.planId = some (plan, offer)) (lasting : 1 ≤ plan.durationDays)
    (botOk : createInvoice botRequest now db = .ok bot)
    (webOk : webappCreateInvoice webRequest now db = .ok web)
    (sameRow : bot.1.subscriptionId = web.1.subscriptionId)
    (charged : db.billing.subscriptions.get? bot.1.subscriptionId = some sub) :
    (InvoicesAgree bot web ∧
        (0 < offer.priceAmount → ¬ Activates db bot ∧ ¬ Activates db web)) ↔
      chargesAlike offer.priceAmount sub.status
        (replayedPayment botRequest user.id now db.billing) := by
  obtain ⟨botUser, botPlan, botOffer, id, chosen, serverId, botKnown, botOffered, botChosen,
    botCharged⟩ := createInvoice_ok botOk
  obtain rfl := Option.some.inj (botKnown.symm.trans known)
  obtain ⟨rfl, rfl⟩ := Prod.mk.inj (Option.some.inj (botOffered.symm.trans offered))
  obtain ⟨webPlan, webOffer, webOffered, row | fresh⟩ :=
    webappCreateInvoice_ok (sameUser ▸ known) webOk
  swap
  · rw [← sameRow, charged] at fresh
    cases fresh
  rw [samePlan] at webOffered
  obtain ⟨rfl, rfl⟩ := Prod.mk.inj (Option.some.inj (webOffered.symm.trans offered))
  obtain ⟨webId, webSub, webChosen, webCharged⟩ := row
  obtain ⟨webStored, ofPlan, -⟩ := planSubscription_some webChosen
  obtain ⟨status, webIs, freeActivation, stars, rows⟩ := chargeWeb_ok webCharged
  obtain rfl : webId = bot.1.subscriptionId := by rw [sameRow, webIs]
  obtain rfl := Option.some.inj (webStored.symm.trans charged)
  have webAnswer : WebCharged now webPlan webOffer bot.1.subscriptionId webSub web :=
    ⟨status, webIs, freeActivation, stars, by rw [rows, Dict.get?_set, if_pos rfl]⟩
  have replays : replayedPayment botRequest botUser.id now db.billing =
      db.billing.paymentFor (botExternalId botRequest botUser.id id) := by
    rw [replayedPayment, botChosen, Option.bind_some]
  rw [replays]
  obtain ⟨existing, found, replayed, kept⟩ | ⟨absent, botStatus, botIs, botFree, botStars,
    botRows⟩ := chargeBot_ok botCharged
  · rw [found]
    exact replay_agrees_iff webAnswer charged (by rw [ofPlan, samePlan, offered]) replayed kept rfl
  · rw [absent]
    obtain rfl : id = bot.1.subscriptionId := botIs.symm
    obtain rfl := Option.some.inj ((botSubscription_stored botChosen).symm.trans charged)
    exact fresh_agrees_iff webAnswer charged lasting botStatus rfl botFree botStars botRows

/-- One user with a pending subscription of a plan at the given price. -/
def pendingAtPrice (priceAmount : Rat) : InvoiceDb where
  billing :=
    { users := [⟨1, 100⟩]
      plans := Dict.ofList [("p", ⟨30⟩)]
      subscriptions := Dict.ofList [("s", ⟨1, "p", 0, 0, "pending"⟩)]
      payments := []
      paymentEvents := []
      referrals := Dict.empty
      promoCodes := []
      promoRedemptions := []
      funnelEvents := []
      effectsApplied := [] }
  offers := Dict.ofList [("p", ⟨"Month", priceAmount, "XTR"⟩)]
  server := some "node-a"
  plansSelected := []

def botSample : BotInvoiceRequest := ⟨"telegram_stars", 100, "p", none, none, "key-1", ""⟩

def webSample : WebInvoiceRequest := ⟨100, "p", none, "request-1", "", 2, "new"⟩

/-- What an answer says, and the row it leaves. -/
structure Charge where
  freeActivation : Bool
  starCount : Int
  paymentStatus : String
  row : Option Subscription
  deriving DecidableEq, Repr

def chargeOf (result : Except InvoiceError (Invoice × InvoiceDb)) : Option Charge :=
  result.toOption.map (fun answer =>
    ⟨answer.1.freeActivation, answer.1.starCount, answer.1.payment.status,
      answer.2.billing.subscriptions.get? answer.1.subscriptionId⟩)

/-- At half a star the bot gives the plan away and the web app asks for one star. -/
theorem half_star_plan_given_away :
    chargeOf (createInvoice botSample 1 (pendingAtPrice (1 / 2))) =
        some ⟨true, 0, "completed", some ⟨1, "p", 1, 1 + 30 * day, "active"⟩⟩ ∧
      chargeOf (webappCreateInvoice webSample 1 (pendingAtPrice (1 / 2))) =
        some ⟨false, 1, "pending", some ⟨1, "p", 0, 0, "pending"⟩⟩ := by
  decide +kernel

/-- At three stars both ask for three. -/
theorem three_star_plan_charged_alike :
    ∃ bot web, createInvoice botSample 1 (pendingAtPrice 3) = .ok bot ∧
      webappCreateInvoice webSample 1 (pendingAtPrice 3) = .ok web ∧ InvoicesAgree bot web := by
  have botIs : (createInvoice botSample 1 (pendingAtPrice 3)).toOption.map
      (fun answer => answer.1.subscriptionId) = some "s" := by decide +kernel
  have webIs : (webappCreateInvoice webSample 1 (pendingAtPrice 3)).toOption.map
      (fun answer => answer.1.subscriptionId) = some "s" := by decide +kernel
  cases botOk : createInvoice botSample 1 (pendingAtPrice 3) with
  | error error =>
      rw [botOk] at botIs
      cases botIs
  | ok bot =>
      cases webOk : webappCreateInvoice webSample 1 (pendingAtPrice 3) with
      | error error =>
          rw [webOk] at webIs
          cases webIs
      | ok web =>
          rw [botOk] at botIs
          rw [webOk] at webIs
          have botRow : bot.1.subscriptionId = "s" := Option.some.inj botIs
          have webRow : web.1.subscriptionId = "s" := Option.some.inj webIs
          refine ⟨bot, web, rfl, rfl, ?_⟩
          have alike := invoices_agree_iff botSample webSample 1 (pendingAtPrice 3) bot web
            ⟨1, 100⟩ ⟨30⟩ ⟨"Month", 3, "XTR"⟩ ⟨1, "p", 0, 0, "pending"⟩ rfl rfl (by decide +kernel)
            (by decide +kernel) (by decide) botOk webOk (botRow.trans webRow.symm)
            (by rw [botRow]; decide +kernel)
          have fresh : replayedPayment botSample 1 1 (pendingAtPrice 3).billing = none := by
            decide +kernel
          rw [fresh] at alike
          have whole : ¬ ((0 : Rat) < 3 ∧ (3 : Rat) < 1) := by decide +kernel
          exact (alike.mpr whole).1

end VpnSuite.Billing
