/-
Promo codes: the two validation endpoints and the redemption a payment makes
(`promo_validate` in `api/v1/bot.py`, `webapp_promo_validate` in `api/v1/webapp.py`).

The endpoints look at the `constraints` of a promo, which the payment never reads: they
refuse an expired code and may admit a second use.  The constraints are a table of their
own, keyed by promo id; an entry holds its JSON fields after the conversion the
endpoints apply to them.
-/

import VpnSuite.Billing.ReferralReward

set_option autoImplicit false

namespace VpnSuite.Billing

open Foundations
open Foundations.PythonText

/-! ### The endpoints -/

/-- `constraints["expires_at"]`: missing or falsy, a text that reads as an instant with a
time zone, a text that does not, or another value. -/
inductive Expiry where
  | absent
  | instant (value : Int)
  | unreadable
  | notText
  deriving DecidableEq, Repr

structure PromoConstraints where
  expiresAt : Expiry
  perUserLimit : Field Rat
  deriving DecidableEq, Repr

inductive PromoError where
  | promoNotFound
  | promoExpired
  | userNotFound
  | promoAlreadyUsed
  | unhandled
  deriving DecidableEq, Repr

/-- Status, code and message of the errors the endpoints raise themselves. -/
def PromoError.response : PromoError → Option (Nat × String × String)
  | .promoNotFound => some (404, "PROMO_NOT_FOUND", "Invalid or expired code")
  | .promoExpired => some (400, "PROMO_EXPIRED", "Code expired")
  | .userNotFound => some (404, "USER_NOT_FOUND", "User not found")
  | .promoAlreadyUsed => some (400, "PROMO_ALREADY_USED", "Code already used")
  | .unhandled => none

structure PromoPreview where
  type : String
  value : Rat
  deriving DecidableEq, Repr

inductive PromoEndpoint where
  | bot
  | webapp
  deriving DecidableEq, Repr

def activePromo (code : String) (db : Db) : Option PromoCode :=
  db.promoCodes.find? (fun promo => promo.code = code ∧ promo.status = "active")

def findPromo (code : String) (db : Db) : Except PromoError PromoCode :=
  match activePromo code db with
  | none => .error .promoNotFound
  | some promo => .ok promo

def findUser (tgId : Int) (db : Db) : Except PromoError User :=
  match db.users.find? (fun user => user.tgId = tgId) with
  | none => .error .userNotFound
  | some user => .ok user

/-- A value that is no text has no `replace`; the webapp converts it to one, which does
not read as an instant. -/
def checkExpiry (endpoint : PromoEndpoint) (now : Int) : Expiry → Except PromoError Unit
  | .absent => .ok ()
  | .instant value => if value < now then .error .promoExpired else .ok ()
  | .unreadable => .ok ()
  | .notText =>
      match endpoint with
      | .bot => .error .unhandled
      | .webapp => .ok ()

def redemptionsOf (promoCodeId : String) (userId : Int) (db : Db) : List PromoRedemption :=
  db.promoRedemptions.filter (fun redemption =>
    redemption.promoCodeId = promoCodeId ∧ redemption.userId = userId)

/-- `scalar_one_or_none() and per_user <= 1`.  The limit is only compared when there is a
redemption; two of them make the query raise. -/
def checkUses (limit : Field Rat) : List PromoRedemption → Except PromoError Unit
  | [] => .ok ()
  | [_] =>
      match limit with
      | .absent => .error .promoAlreadyUsed
      | .refused => .error .unhandled
      | .value content => if content ≤ 1 then .error .promoAlreadyUsed else .ok ()
  | _ => .error .unhandled

/-- `promo_validate`. -/
def promoValidate (constraints : String → PromoConstraints) (now : Int) (code : String)
    (tgId : Int) (db : Db) : Except PromoError PromoPreview := do
  let promo ← findPromo (strip code) db
  checkExpiry .bot now (constraints promo.id).expiresAt
  let user ← findUser tgId db
  checkUses (constraints promo.id).perUserLimit (redemptionsOf promo.id user.id db)
  .ok ⟨promo.type, promo.value⟩

/-- `webapp_promo_validate`, past its session check. -/
def webappPromoValidate (constraints : String → PromoConstraints) (now : Int) (code : String)
    (tgId : Int) (db : Db) : Except PromoError PromoPreview := do
  let promo ← findPromo (strip code) db
  let user ← findUser tgId db
  checkExpiry .webapp now (constraints promo.id).expiresAt
  checkUses (constraints promo.id).perUserLimit (redemptionsOf promo.id user.id db)
  .ok ⟨promo.type, promo.value⟩

def PromoEndpoint.validate (endpoint : PromoEndpoint) :
    (String → PromoConstraints) → Int → String → Int → Db → Except PromoError PromoPreview :=
  match endpoint with
  | .bot => promoValidate
  | .webapp => webappPromoValidate

def accepts (result : Except PromoError PromoPreview) : Bool :=
  match result with
  | .ok _ => true
  | .error _ => false

/-! ### When an endpoint accepts -/

def expiryAllows (endpoint : PromoEndpoint) (now : Int) (expiry : Expiry) : Bool :=
  match checkExpiry endpoint now expiry with
  | .ok _ => true
  | .error _ => false

def usesAllow (limit : Field Rat) (redemptions : List PromoRedemption) : Bool :=
  match checkUses limit redemptions with
  | .ok _ => true
  | .error _ => false

/-- For a known user both endpoints accept the same way. -/
theorem accepts_validate (endpoint : PromoEndpoint) (constraints : String → PromoConstraints)
    (now : Int) (code : String) {tgId : Int} {user : User} {db : Db}
    (known : db.users.find? (fun user => user.tgId = tgId) = some user) :
    accepts (endpoint.validate constraints now code tgId db) =
      match activePromo (strip code) db with
      | none => false
      | some promo =>
          expiryAllows endpoint now (constraints promo.id).expiresAt &&
            usesAllow (constraints promo.id).perUserLimit (redemptionsOf promo.id user.id db) := by
  have found : findUser tgId db = .ok user := by rw [findUser, known]
  cases endpoint with
  | bot =>
      change accepts (promoValidate constraints now code tgId db) = _
      unfold promoValidate findPromo expiryAllows usesAllow
      cases activePromo (strip code) db with
      | none => rfl
      | some promo =>
          dsimp only [bind, Except.bind]
          rw [found]
          dsimp only
          cases checkExpiry .bot now (constraints promo.id).expiresAt with
          | error raised => rfl
          | ok passed =>
              cases checkUses (constraints promo.id).perUserLimit
                (redemptionsOf promo.id user.id db) with
              | error raised => rfl
              | ok admitted => rfl
  | webapp =>
      change accepts (webappPromoValidate constraints now code tgId db) = _
      unfold webappPromoValidate findPromo expiryAllows usesAllow
      cases activePromo (strip code) db with
      | none => rfl
      | some promo =>
          dsimp only [bind, Except.bind]
          rw [found]
          dsimp only
          cases checkExpiry .webapp now (constraints promo.id).expiresAt with
          | error raised => rfl
          | ok passed =>
              cases checkUses (constraints promo.id).perUserLimit
                (redemptionsOf promo.id user.id db) with
              | error raised => rfl
              | ok admitted => rfl

/-! ### What a payment redeems -/

/-- The promo a payment redeems: active under its code, and never used by the payer. -/
def redeemablePromo (code : String) (userId : Int) (db : Db) : Option PromoCode :=
  (activePromo code db).filter (fun promo => redemptionsOf promo.id userId db = [])

def redemptionRow (payment : Payment) (promo : PromoCode) : PromoRedemption :=
  ⟨promo.id, payment.userId, payment.id, payment.subscriptionId⟩

theorem redemptionsOf_eq_nil_iff (promoCodeId : String) (userId : Int) (db : Db) :
    redemptionsOf promoCodeId userId db = [] ↔
      ¬ db.promoRedemptions.any (fun redemption =>
        redemption.promoCodeId = promoCodeId ∧ redemption.userId = userId) = true := by
  unfold redemptionsOf
  rw [List.filter_eq_nil_iff, List.any_eq_true]
  constructor
  · rintro unused ⟨redemption, member, used⟩
    exact unused redemption member used
  · intro unused redemption member used
    exact unused ⟨redemption, member, used⟩

section Redeem

variable {clock : Clock} {payment : Payment} {promoCode : Option String} {code : String} {db : Db}
  (coded : orNone (strip (orDefault promoCode "")) = some code)

include coded

theorem redeemPromo_idle (nothing : redeemablePromo code payment.userId db = none) :
    redeemPromo clock payment promoCode db = db := by
  unfold redeemablePromo activePromo at nothing
  unfold redeemPromo
  rw [coded]
  dsimp only
  split
  · rfl
  · rename_i promo active
    rw [active, Option.filter_some] at nothing
    split at nothing
    · cases nothing
    · rename_i used
      rw [decide_eq_true_eq, redemptionsOf_eq_nil_iff, not_not] at used
      rw [if_pos used]

/-- A redeemable promo is recorded, and its bonus days go to the paid subscription. -/
theorem redeemPromo_redeemed {promo : PromoCode} {sub : Subscription}
    (redeemable : redeemablePromo code payment.userId db = some promo)
    (stored : db.subscriptions.get? payment.subscriptionId = some sub) :
    (redeemPromo clock payment promoCode db).promoRedemptions =
        db.promoRedemptions ++ [redemptionRow payment promo] ∧
      (redeemPromo clock payment promoCode db).subscriptions.get? payment.subscriptionId =
        some (if promo.type = "bonus_days" then
          addBonusDays clock.promoCheck clock.promoBase (promoDays promo) sub else sub) := by
  obtain ⟨active, unused⟩ := Option.filter_eq_some_iff.mp redeemable
  rw [decide_eq_true_eq, redemptionsOf_eq_nil_iff] at unused
  unfold activePromo at active
  unfold redeemPromo
  rw [coded]
  dsimp only
  rw [active]
  dsimp only
  rw [if_neg unused, stored]
  dsimp only
  by_cases bonus : promo.type = "bonus_days"
  · rw [if_pos bonus, if_pos bonus]
    exact ⟨rfl, (Dict.get?_set _ _ _ _).trans (if_pos rfl)⟩
  · rw [if_neg bonus, if_neg bonus]
    exact ⟨rfl, stored⟩

end Redeem

/-- The reward block does not touch promos. -/
theorem rewardReferral_promos (settings : BillingSettings) (clock : Clock) (userId : Int)
    (db : Db) :
    (rewardReferral settings clock userId db).promoCodes = db.promoCodes ∧
      (rewardReferral settings clock userId db).promoRedemptions = db.promoRedemptions := by
  have paid : ∀ days referral, (payReferrer clock days referral db).promoCodes = db.promoCodes ∧
      (payReferrer clock days referral db).promoRedemptions = db.promoRedemptions := by
    intro days referral
    unfold payReferrer
    split <;> exact ⟨rfl, rfl⟩
  unfold rewardReferral
  split
  · exact ⟨rfl, rfl⟩
  · dsimp only
    split
    · exact ⟨rfl, rfl⟩
    · exact paid _ _

theorem redeemablePromo_congr {before after : Db} (code : String) (userId : Int)
    (codes : after.promoCodes = before.promoCodes)
    (redemptions : after.promoRedemptions = before.promoRedemptions) :
    redeemablePromo code userId after = redeemablePromo code userId before := by
  unfold redeemablePromo activePromo redemptionsOf
  rw [codes, redemptions]

/-! ### One payment -/

/-- A payment that carries a promo code, and the account its payer is known by. -/
structure CarriedCode (db : Db) (event : Completion) where
  call : EffectsCall
  code : String
  tgId : Int
  user : User
  reached : effectsCall db event = some call
  coded : orNone (strip (orDefault call.promoCode "")) = some code
  known : db.users.find? (fun user => user.tgId = tgId) = some user
  payer : user.id = call.payment.userId

section Step

variable (settings : BillingSettings) (db : Db) (event : Completion)

/-- The payment records a redemption and adds the bonus days of a `bonus_days` promo. -/
structure PromoHonoured (call : EffectsCall) (promo : PromoCode) : Prop where
  recorded : (complete settings db event).promoRedemptions =
    db.promoRedemptions ++ [redemptionRow call.payment promo]
  extended : promo.type = "bonus_days" →
    ∃ charged sub, rewardPoint settings db event = some (call, charged) ∧
      (rewardReferral settings call.clock call.payment.userId charged).subscriptions.get?
        call.payment.subscriptionId = some sub ∧
      (complete settings db event).subscriptions.get? call.payment.subscriptionId =
        some (addBonusDays call.clock.promoCheck call.clock.promoBase (promoDays promo) sub)

/-- No redemption is recorded and the promo block changes nothing. -/
structure PromoIgnored : Prop where
  unrecorded : (complete settings db event).promoRedemptions = db.promoRedemptions
  unchanged : ∀ call charged, rewardPoint settings db event = some (call, charged) →
    complete settings db event =
      rewardReferral settings call.clock call.payment.userId charged

/-- The paid subscription belongs to the payer and has its plan, and no date sum raises. -/
def settles (call : EffectsCall) : Bool :=
  (payableSubscription db call.payment.userId call.payment.subscriptionId).isSome &&
    !call.overflows settings

variable {db event}

/-- The payment is settled, and redeems the promo its code names. -/
def redeems (carried : CarriedCode db event) : Option PromoCode :=
  if settles settings db carried.call then
    redeemablePromo carried.code carried.call.payment.userId db
  else none

theorem rewardPoint_of_call {call : EffectsCall} (reached : effectsCall db event = some call) :
    (rewardPoint settings db event).isSome = settles settings db call := by
  rw [rewardPoint, reached, Option.bind_some, settles]
  cases call.overflows settings with
  | true => simp
  | false =>
      rw [if_neg Bool.false_ne_true, Option.isSome_map, chargedState, Option.isSome_map,
        (complete_of_call settings reached).2.payable_eq]
      simp

theorem rewarded_subscription {call : EffectsCall} {charged : Db}
    (reached : rewardPoint settings db event = some (call, charged)) :
    ∃ sub, (rewardReferral settings call.clock call.payment.userId charged).subscriptions.get?
      call.payment.subscriptionId = some sub := by
  obtain ⟨sub, plan, _, written⟩ := (rewardPoint_charged reached).2.paid
  have contract := (rewardReferral_frame settings call.clock call.payment.userId
    charged).accounts.contracts call.payment.subscriptionId
  rw [Db.contract, Db.contract, written, Dict.get?_set, if_pos rfl, Option.map_some] at contract
  obtain ⟨rewarded, stored, _⟩ := Option.map_eq_some_iff.mp contract
  exact ⟨rewarded, stored⟩

theorem honoured_of_redeems (carried : CarriedCode db event) {promo : PromoCode}
    (redeemed : redeems settings carried = some promo) :
    PromoHonoured settings db event carried.call promo := by
  unfold redeems at redeemed
  split at redeemed
  · rename_i payable
    rw [← rewardPoint_of_call settings carried.reached] at payable
    obtain ⟨⟨call, charged⟩, point⟩ := Option.isSome_iff_exists.mp payable
    obtain rfl : call = carried.call := Option.some.inj
      ((rewardPoint_charged point).1.symm.trans carried.reached)
    have charge := (rewardPoint_charged point).2
    obtain ⟨codes, redemptions⟩ := rewardReferral_promos settings carried.call.clock
      carried.call.payment.userId charged
    rw [← redeemablePromo_congr _ _ (codes.trans charge.promoCodes)
      (redemptions.trans charge.promoRedemptions)] at redeemed
    obtain ⟨sub, stored⟩ := rewarded_subscription settings point
    obtain ⟨recorded, extended⟩ :=
      @redeemPromo_redeemed carried.call.clock _ _ _ _ carried.coded _ _ redeemed stored
    have committed := complete_eq settings db event
    rw [point] at committed
    dsimp only at committed
    constructor
    · rw [committed, recorded, redemptions, charge.promoRedemptions]
    · intro bonus
      refine ⟨charged, sub, point, stored, ?_⟩
      rw [committed, extended, if_pos bonus]
  · cases redeemed

theorem ignored_of_not_redeems (carried : CarriedCode db event)
    (unredeemed : redeems settings carried = none) : PromoIgnored settings db event := by
  have committed := complete_eq settings db event
  cases point : rewardPoint settings db event with
  | none =>
      rw [point] at committed
      refine ⟨committed.promoRedemptions, ?_⟩
      intro call charged reached
      rw [point] at reached
      cases reached
  | some pair =>
      obtain ⟨call, charged⟩ := pair
      obtain rfl : call = carried.call := Option.some.inj
        ((rewardPoint_charged point).1.symm.trans carried.reached)
      have charge := (rewardPoint_charged point).2
      obtain ⟨codes, redemptions⟩ := rewardReferral_promos settings carried.call.clock
        carried.call.payment.userId charged
      have payable := rewardPoint_of_call settings carried.reached
      rw [point, Option.isSome_some] at payable
      rw [redeems, ← payable, if_pos rfl, ← redeemablePromo_congr _ _
        (codes.trans charge.promoCodes) (redemptions.trans charge.promoRedemptions)] at unredeemed
      rw [point] at committed
      dsimp only at committed
      rw [redeemPromo_idle carried.coded unredeemed] at committed
      refine ⟨?_, ?_⟩
      · rw [committed, redemptions, charge.promoRedemptions]
      · intro other state reached
        rw [point] at reached
        obtain ⟨rfl, rfl⟩ := Prod.mk.inj (Option.some.inj reached)
        exact committed

theorem exists_honoured_iff (carried : CarriedCode db event) :
    (∃ promo, PromoHonoured settings db event carried.call promo) ↔
      (redeems settings carried).isSome = true := by
  constructor
  · rintro ⟨promo, honoured⟩
    cases redeemed : redeems settings carried with
    | some other => rfl
    | none =>
        have grown := honoured.recorded
        rw [(ignored_of_not_redeems settings carried redeemed).unrecorded] at grown
        have longer := congrArg List.length grown
        simp at longer
  · intro redeemed
    obtain ⟨promo, found⟩ := Option.isSome_iff_exists.mp redeemed
    exact ⟨promo, honoured_of_redeems settings carried found⟩

variable (endpoint : PromoEndpoint) (constraints : String → PromoConstraints) (now : Int)

/-- The endpoint's answer for the code a payment carries, in the state before it. -/
def validated (carried : CarriedCode db event) : Bool :=
  accepts (endpoint.validate constraints now (orDefault carried.call.promoCode "")
    carried.tgId db)

/-- The payment redeems the code exactly when the endpoint would have accepted it. -/
structure PromoAgreement (carried : CarriedCode db event) : Prop where
  agrees : validated endpoint constraints now carried = true ↔
    ∃ promo, PromoHonoured settings db event carried.call promo
  refused : validated endpoint constraints now carried = false → PromoIgnored settings db event

def limitAboveOne : Field Rat → Bool
  | .value limit => 1 < limit
  | _ => false

/-- A first use must be of a code that is unexpired exactly when the payment is settled (its
subscription is the payer's and has a plan, and every date it writes is in range);
a second use must be of a code that has expired or admits one use. -/
def promoConsistent (carried : CarriedCode db event) : Bool :=
  match activePromo carried.code db with
  | none => true
  | some promo =>
      let unexpired := expiryAllows endpoint now (constraints promo.id).expiresAt
      match redemptionsOf promo.id carried.call.payment.userId db with
      | [] =>
          unexpired == settles settings db carried.call
      | [_] => !unexpired || !limitAboveOne (constraints promo.id).perUserLimit
      | _ => true

theorem agreement_iff (carried : CarriedCode db event) :
    PromoAgreement settings endpoint constraints now carried ↔
      validated endpoint constraints now carried = (redeems settings carried).isSome := by
  constructor
  · intro agreement
    rw [Bool.eq_iff_iff, agreement.agrees, exists_honoured_iff]
  · intro same
    constructor
    · rw [exists_honoured_iff, same]
    · intro refused
      rw [same, Option.isSome_eq_false_iff, Option.isNone_iff_eq_none] at refused
      exact ignored_of_not_redeems settings carried refused

theorem usesAllow_single (limit : Field Rat) (redemption : PromoRedemption) :
    usesAllow limit [redemption] = limitAboveOne limit := by
  cases limit with
  | absent => rfl
  | refused => rfl
  | value content =>
      unfold usesAllow checkUses limitAboveOne
      by_cases small : content ≤ 1
      · have bounded : ¬ 1 < content := Rat.not_lt.mpr small
        simp [small, bounded]
      · have large : 1 < content := Rat.not_le.mp small
        simp [small, large]

theorem promoConsistent_eq (carried : CarriedCode db event) :
    promoConsistent settings endpoint constraints now carried =
      (validated endpoint constraints now carried == (redeems settings carried).isSome) := by
  have code : strip (orDefault carried.call.promoCode "") = carried.code :=
    (orNone_eq_some carried.coded).1.symm
  rw [validated, accepts_validate endpoint constraints now _ carried.known, code, carried.payer]
  unfold promoConsistent redeems redeemablePromo
  cases activePromo carried.code db with
  | none =>
      dsimp only [Option.filter_none]
      split <;> rfl
  | some promo =>
      dsimp only
      rw [Option.filter_some]
      cases redemptionsOf promo.id carried.call.payment.userId db with
      | nil =>
          have unused : usesAllow (constraints promo.id).perUserLimit [] = true := rfl
          rw [unused, Bool.and_true]
          cases settles settings db carried.call with
          | true => rfl
          | false => rfl
      | cons first others =>
          have kept : (if settles settings db carried.call = true then
                (if decide (first :: others = []) = true then some promo else none)
              else none) = none := by
            split <;> rfl
          rw [kept, Option.isSome_none]
          cases others with
          | nil =>
              rw [usesAllow_single]
              cases expiryAllows endpoint now (constraints promo.id).expiresAt <;>
                cases limitAboveOne (constraints promo.id).perUserLimit <;> rfl
          | cons second rest =>
              have twice : usesAllow (constraints promo.id).perUserLimit
                  (first :: second :: rest) = false := rfl
              rw [twice, Bool.and_false]
              rfl

end Step

/-! ### Runs -/

/-- At every payment of every run that carries a code: redemption and validation agree if
and only if the promo, the uses made of it and the paid subscription are consistent. -/
theorem promo_redemption_iff_validation (settings : BillingSettings)
    (constraints : String → PromoConstraints) (endpoint : PromoEndpoint) (db : Db)
    (completions : List Completion) :
    EveryStep (complete settings) db completions (fun before event =>
      ∀ (carried : CarriedCode before event) (now : Int),
        PromoAgreement settings endpoint constraints now carried ↔
          promoConsistent settings endpoint constraints now carried = true) := by
  intro earlier event later split carried now
  rw [agreement_iff, promoConsistent_eq, beq_iff_eq]

/-- One user, one active code worth a week, and the uses made of it. -/
def springCodes (uses : List PromoRedemption) : Db :=
  { users := [⟨1, 101⟩]
    plans := Dict.ofList [("month", ⟨30⟩)]
    subscriptions := Dict.ofList [("sub", ⟨1, "month", 0, 5 * day, "active"⟩)]
    payments := []
    paymentEvents := []
    referrals := Dict.ofList []
    promoCodes := [⟨"p-1", "SPRING", "bonus_days", 7, "active"⟩]
    promoRedemptions := uses
    funnelEvents := []
    effectsApplied := [] }

def springPayload : Payload :=
  { externalId := some "charge-1"
    id := none
    paymentId := none
    userId := .value 1
    subscriptionId := some "sub"
    amount := .value 100
    status := none
    currency := none
    promoCode := some "SPRING" }

def springPayment : Completion :=
  .webhook ⟨"telegram", springPayload, ⟨2 * day, 2 * day, 2 * day, 2 * day, 2 * day, 2 * day⟩⟩

/-- The call `springPayment` makes when the code was used as listed. -/
def springCall (uses : List PromoRedemption) : EffectsCall :=
  let payment : Payment :=
    ⟨0, 1, "sub", "telegram", "completed", 100, "XTR", "charge-1", some springPayload⟩
  { clock := ⟨2 * day, 2 * day, 2 * day, 2 * day, 2 * day, 2 * day⟩
    payment := payment
    promoCode := some "SPRING"
    received := { springCodes uses with
      payments := [payment]
      paymentEvents := [⟨0, "webhook_received", .webhook springPayload⟩] } }

def springCarried (uses : List PromoRedemption)
    (reached : effectsCall (springCodes uses) springPayment = some (springCall uses)) :
    CarriedCode (springCodes uses) springPayment :=
  { call := springCall uses
    code := "SPRING"
    tgId := 101
    user := ⟨1, 101⟩
    reached := reached
    coded := by
      change orNone (strip (orDefault (some "SPRING") "")) = some "SPRING"
      decide +kernel
    known := rfl
    payer := rfl }

/-- A payment honours a code that expired a day before, and passes over a second use of a
code that admits two. -/
theorem expired_code_honoured_and_second_use_ignored :
    ¬ EveryStep (complete ⟨7⟩) (springCodes []) [springPayment] (fun before event =>
        ∀ (carried : CarriedCode before event) (now : Int),
          PromoAgreement ⟨7⟩ .bot (fun _ => ⟨.instant day, .absent⟩) now carried) ∧
      ¬ EveryStep (complete ⟨7⟩) (springCodes [⟨"p-1", 1, 0, "sub"⟩]) [springPayment] (fun before event =>
        ∀ (carried : CarriedCode before event) (now : Int),
          PromoAgreement ⟨7⟩ .bot (fun _ => ⟨.absent, .value 2⟩) now carried) := by
  constructor
  · intro law
    have agreement := (agreement_iff ⟨7⟩ _ _ _ (springCarried [] (by decide +kernel))).mp
      (law [] springPayment [] rfl (springCarried [] (by decide +kernel)) (2 * day))
    revert agreement
    decide +kernel
  · intro law
    have agreement := (agreement_iff ⟨7⟩ _ _ _
      (springCarried [⟨"p-1", 1, 0, "sub"⟩] (by decide +kernel))).mp
      (law [] springPayment [] rfl
        (springCarried [⟨"p-1", 1, 0, "sub"⟩] (by decide +kernel)) (2 * day))
    revert agreement
    decide +kernel

example : promoConsistent ⟨7⟩ .bot (fun _ => ⟨.instant (3 * day), .absent⟩) (2 * day)
    (springCarried [] (by decide +kernel)) = true := by decide +kernel

end VpnSuite.Billing
