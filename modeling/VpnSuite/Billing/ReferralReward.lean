/-
Referral rewards over a run of completed payments.

The reward block marks a referral as rewarded whether or not the referrer has a
subscription the days could go to.  The marker is written at most once in every run;
the days are paid exactly when the referrer owns the subscription being paid for or
another one that is active.
-/

import VpnSuite.Billing.CompletedPayments
import VpnSuite.Foundations.StepRuns

set_option autoImplicit false

namespace VpnSuite.Billing

open Foundations
open Foundations.PythonText

/-! ### The subscription the days go to -/

private theorem foldl_latest_isSome (entries : List (String × Subscription))
    (start : Option (String × Subscription)) (started : start.isSome = true ∨ entries ≠ []) :
    (entries.foldl (fun best entry =>
      match best with
      | none => some entry
      | some current =>
          if entry.2.validUntil > current.2.validUntil then some entry else some current)
      start).isSome = true := by
  induction entries generalizing start with
  | nil =>
      rcases started with present | impossible
      · exact present
      · exact absurd rfl impossible
  | cons entry rest ih =>
      apply ih
      left
      cases start with
      | none => rfl
      | some current =>
          dsimp only
          split <;> rfl

theorem latestActive_eq_some {userId : Int} {entries : List (String × Subscription)}
    {best : String × Subscription} (chosen : latestActive userId entries = some best) :
    best ∈ entries ∧ best.2.userId = userId ∧ best.2.status = "active" := by
  have kept : latestActive userId (entries.filter (fun entry =>
      entry.2.userId = userId ∧ entry.2.status = "active")) = some best := by
    unfold latestActive at chosen ⊢
    rw [List.filter_filter]
    simpa using chosen
  have member := latestActive_mem kept
  rw [List.mem_filter, decide_eq_true_eq] at member
  exact ⟨member.1, member.2.1, member.2.2⟩

theorem latestActive_isSome_iff (userId : Int) (entries : List (String × Subscription)) :
    (latestActive userId entries).isSome = true ↔
      ∃ entry ∈ entries, entry.2.userId = userId ∧ entry.2.status = "active" := by
  constructor
  · intro present
    obtain ⟨best, chosen⟩ := Option.isSome_iff_exists.mp present
    obtain ⟨member, owned, active⟩ := latestActive_eq_some chosen
    exact ⟨best, member, owned, active⟩
  · rintro ⟨entry, member, owned, active⟩
    apply foldl_latest_isSome
    right
    intro empty
    have kept : entry ∈ entries.filter (fun entry =>
        entry.2.userId = userId ∧ entry.2.status = "active") :=
      List.mem_filter.mpr ⟨member, decide_eq_true ⟨owned, active⟩⟩
    rw [empty] at kept
    cases kept

/-! ### What the reward block does -/

/-- The referral a payment of the user rewards: unrewarded, and worth some days. -/
def dueReferral (settings : BillingSettings) (userId : Int) (db : Db) :
    Option (String × Referral) :=
  (pendingReferral userId db).filter (fun entry => rewardDays settings entry.2 ≠ 0)

def rewardedRow (clock : Clock) (referral : Referral) : Referral :=
  { referral with
    rewardAppliedAt := some clock.rewardApplied
    status := "rewarded" }

theorem dueReferral_congr {settings : BillingSettings} {userId : Int} {before after : Db}
    (same : after.referrals = before.referrals) :
    dueReferral settings userId after = dueReferral settings userId before := by
  unfold dueReferral pendingReferral
  rw [same]

theorem dueReferral_eq_some {settings : BillingSettings} {userId : Int} {db : Db} {id : String}
    {referral : Referral} (due : dueReferral settings userId db = some (id, referral)) :
    db.referrals.get? id = some referral ∧ referral.rewardAppliedAt = none := by
  obtain ⟨pending, _⟩ := Option.filter_eq_some_iff.mp due
  have member := List.mem_of_find?_eq_some pending
  have unrewarded := List.find?_some pending
  rw [decide_eq_true_eq] at unrewarded
  exact ⟨(db.referrals.mem_entries_iff id referral).mp member, unrewarded.2⟩

theorem rewardReferral_idle {settings : BillingSettings} {clock : Clock} {userId : Int} {db : Db}
    (none_due : dueReferral settings userId db = none) :
    rewardReferral settings clock userId db = db := by
  unfold rewardReferral
  cases pending : pendingReferral userId db with
  | none => rfl
  | some entry =>
      dsimp only
      by_cases free : rewardDays settings entry.2 = 0
      · rw [if_pos free]
      · rw [dueReferral, pending, Option.filter_some, if_pos (decide_eq_true free)] at none_due
        cases none_due

theorem rewardReferral_due {settings : BillingSettings} {clock : Clock} {userId : Int} {db : Db}
    {id : String} {referral : Referral}
    (due : dueReferral settings userId db = some (id, referral)) :
    (rewardReferral settings clock userId db).referrals =
        db.referrals.set id (rewardedRow clock referral) ∧
      (rewardReferral settings clock userId db).subscriptions =
        (payReferrer clock (rewardDays settings referral) referral db).subscriptions := by
  obtain ⟨pending, worth⟩ := Option.filter_eq_some_iff.mp due
  have kept : (payReferrer clock (rewardDays settings referral) referral db).referrals =
      db.referrals := by
    unfold payReferrer
    split <;> rfl
  unfold rewardReferral
  rw [pending]
  dsimp only
  rw [if_neg (of_decide_eq_true worth)]
  refine ⟨?_, rfl⟩
  change Dict.set _ _ _ = _
  rw [kept]
  rfl

@[simp] theorem redeemPromo_referrals (clock : Clock) (payment : Payment)
    (promoCode : Option String) (db : Db) :
    (redeemPromo clock payment promoCode db).referrals = db.referrals := by
  unfold redeemPromo
  split
  · rfl
  · split
    · rfl
    · split
      · rfl
      · dsimp only
        split
        · rfl
        · change Db.referrals (ite _ _ _) = _
          split <;> rfl

/-! ### One payment -/

section Step

variable (settings : BillingSettings) (db : Db) (event : Completion)

/-- Some subscription of the referrer is raised by the reward days while the request
applies the reward. -/
def ReferrerPaid (call : EffectsCall) (charged : Db) (referral : Referral) : Prop :=
  ∃ subscriptionId sub, charged.subscriptions.get? subscriptionId = some sub ∧
    sub.userId = referral.referrerUserId ∧
    (rewardReferral settings call.clock call.payment.userId charged).subscriptions.get?
        subscriptionId =
      some (addBonusDays call.clock.referralCheck call.clock.referralBase
        (rewardDays settings referral) sub)

/-- The reward is paid when it is recorded, and only then. -/
structure RewardHonoured : Prop where
  recorded : ∀ id, (complete settings db event).referrals.get? id ≠ db.referrals.get? id →
    ∃ referral call charged, rewardPoint settings db event = some (call, charged) ∧
      db.referrals.get? id = some referral ∧ referral.rewardAppliedAt = none ∧
      (complete settings db event).referrals.get? id = some (rewardedRow call.clock referral) ∧
      ReferrerPaid settings call charged referral
  unrecorded : (complete settings db event).referrals = db.referrals →
    ∀ call charged, rewardPoint settings db event = some (call, charged) →
      rewardReferral settings call.clock call.payment.userId charged = charged

/-- The referral is marked as rewarded while the reward block changes no subscription. -/
def RewardWithheld : Prop :=
  ∃ call charged id, rewardPoint settings db event = some (call, charged) ∧
    (complete settings db event).referrals.get? id ≠ db.referrals.get? id ∧
    (rewardReferral settings call.clock call.payment.userId charged).subscriptions =
      charged.subscriptions

/-- When the payment rewards a referral, its referrer owns the paid subscription or
another one that is active. -/
def referrerServed : Bool :=
  match rewardPoint settings db event with
  | none => true
  | some (call, _) =>
      match dueReferral settings call.payment.userId db with
      | none => true
      | some (_, referral) =>
          db.subscriptions.entries.any (fun entry =>
            entry.2.userId = referral.referrerUserId &&
              (entry.2.status = "active" || entry.1 = call.payment.subscriptionId))

variable {settings db event} {call : EffectsCall} {charged : Db}

theorem referrerPaid_of_active {id : String} {referral : Referral}
    (due : dueReferral settings call.payment.userId charged = some (id, referral))
    (active : ∃ entry ∈ charged.subscriptions.entries,
      entry.2.userId = referral.referrerUserId ∧ entry.2.status = "active") :
    ReferrerPaid settings call charged referral := by
  obtain ⟨best, chosen⟩ :=
    Option.isSome_iff_exists.mp ((latestActive_isSome_iff _ _).mpr active)
  obtain ⟨member, owned, _⟩ := latestActive_eq_some chosen
  refine ⟨best.1, best.2, (Dict.mem_entries_iff _ _ _).mp member, owned, ?_⟩
  rw [(rewardReferral_due due).2, payReferrer, chosen]
  exact (Dict.get?_set _ _ _ _).trans (if_pos rfl)

theorem withheld_of_inactive {id : String} {referral : Referral}
    (due : dueReferral settings call.payment.userId charged = some (id, referral))
    (inactive : ¬ ∃ entry ∈ charged.subscriptions.entries,
      entry.2.userId = referral.referrerUserId ∧ entry.2.status = "active") :
    (rewardReferral settings call.clock call.payment.userId charged).subscriptions =
      charged.subscriptions := by
  have unchosen : latestActive referral.referrerUserId charged.subscriptions.entries = none := by
    rw [← Option.not_isSome_iff_eq_none, latestActive_isSome_iff]
    exact inactive
  rw [(rewardReferral_due due).2, payReferrer, unchosen]

variable (reached : rewardPoint settings db event = some (call, charged))

include reached

theorem complete_referrals :
    (complete settings db event).referrals =
      (rewardReferral settings call.clock call.payment.userId charged).referrals := by
  have committed := complete_eq settings db event
  rw [reached] at committed
  rw [committed, redeemPromo_referrals]

/-- The paid subscription is active by the time the reward block looks for one. -/
theorem active_in_charged_iff (userId : Int) :
    (∃ entry ∈ charged.subscriptions.entries,
        entry.2.userId = userId ∧ entry.2.status = "active") ↔
      db.subscriptions.entries.any (fun entry =>
        entry.2.userId = userId &&
          (entry.2.status = "active" || entry.1 = call.payment.subscriptionId)) = true := by
  obtain ⟨sub, plan, payable, written⟩ := (rewardPoint_charged reached).2.paid
  obtain ⟨stored, _, _⟩ := payableSubscription_eq_some payable
  have owner := congrArg Prod.fst (extendSubscription_contract call.clock.payment plan sub)
  have active : (extendSubscription call.clock.payment plan sub).status = "active" := by
    unfold extendSubscription
    split
    · rfl
    · rename_i already
      exact not_not.mp already
  have lookup : ∀ id, charged.subscriptions.get? id =
      if id = call.payment.subscriptionId then
        some (extendSubscription call.clock.payment plan sub)
      else db.subscriptions.get? id := by
    intro id
    rw [written, Dict.get?_set]
  rw [List.any_eq_true]
  simp only [Bool.and_eq_true, Bool.or_eq_true, decide_eq_true_eq]
  constructor
  · rintro ⟨⟨id, other⟩, member, owned, live⟩
    rw [Dict.mem_entries_iff, lookup] at member
    split at member
    · rename_i paidHere
      obtain rfl := Option.some.inj member
      exact ⟨(id, sub), (db.subscriptions.mem_entries_iff id sub).mpr (paidHere ▸ stored),
        owner.symm.trans owned, Or.inr paidHere⟩
    · exact ⟨(id, other), (db.subscriptions.mem_entries_iff id other).mpr member, owned,
        Or.inl live⟩
  · rintro ⟨⟨id, other⟩, member, owned, live⟩
    rw [Dict.mem_entries_iff] at member
    by_cases paidHere : id = call.payment.subscriptionId
    · rw [paidHere] at member
      obtain rfl := Option.some.inj (stored.symm.trans member)
      refine ⟨(id, _), (Dict.mem_entries_iff _ _ _).mpr ?_, owner.trans owned, active⟩
      rw [lookup, if_pos paidHere]
    · refine ⟨(id, other), (Dict.mem_entries_iff _ _ _).mpr ?_, owned,
        live.resolve_right paidHere⟩
      rw [lookup, if_neg paidHere]
      exact member

end Step

/-- What a request does to one referral: nothing, or the one reward it had due. -/
theorem complete_referral_cases (settings : BillingSettings) (db : Db) (event : Completion)
    (id : String) :
    (complete settings db event).referrals.get? id = db.referrals.get? id ∨
      ∃ call charged referral, rewardPoint settings db event = some (call, charged) ∧
        dueReferral settings call.payment.userId db = some (id, referral) ∧
        (complete settings db event).referrals.get? id =
          some (rewardedRow call.clock referral) := by
  have committed := complete_eq settings db event
  cases reached : rewardPoint settings db event with
  | none =>
      rw [reached] at committed
      left
      rw [committed.referrals]
  | some pair =>
      obtain ⟨call, charged⟩ := pair
      have kept := (rewardPoint_charged reached).2.referrals
      rw [complete_referrals reached]
      cases due : dueReferral settings call.payment.userId charged with
      | none =>
          left
          rw [rewardReferral_idle due, kept]
      | some entry =>
          obtain ⟨dueId, referral⟩ := entry
          rw [(rewardReferral_due due).1, Dict.get?_set]
          by_cases here : id = dueId
          · right
            subst here
            rw [dueReferral_congr kept] at due
            exact ⟨call, charged, referral, rfl, due, if_pos rfl⟩
          · left
            rw [if_neg here, kept]

/-- A due referral does change: its marker was empty. -/
theorem due_is_recorded {settings : BillingSettings} {db charged : Db} {event : Completion}
    {call : EffectsCall} {id : String} {referral : Referral}
    (reached : rewardPoint settings db event = some (call, charged))
    (due : dueReferral settings call.payment.userId db = some (id, referral)) :
    (complete settings db event).referrals.get? id ≠ db.referrals.get? id := by
  have kept := (rewardPoint_charged reached).2.referrals
  obtain ⟨stored, unrewarded⟩ := dueReferral_eq_some due
  rw [← dueReferral_congr kept] at due
  rw [complete_referrals reached, (rewardReferral_due due).1, Dict.get?_set, if_pos rfl, stored]
  intro same
  have marker := congrArg Referral.rewardAppliedAt (Option.some.inj same)
  rw [unrewarded] at marker
  cases marker

theorem honoured_of_served {settings : BillingSettings} {db : Db} {event : Completion}
    (served : referrerServed settings db event = true) : RewardHonoured settings db event := by
  constructor
  · intro id changed
    rcases complete_referral_cases settings db event id with
      same | ⟨call, charged, referral, reached, due, recorded⟩
    · exact absurd same changed
    · obtain ⟨stored, unrewarded⟩ := dueReferral_eq_some due
      refine ⟨referral, call, charged, reached, stored, unrewarded, recorded, ?_⟩
      unfold referrerServed at served
      rw [reached] at served
      dsimp only at served
      rw [due] at served
      rw [← dueReferral_congr (rewardPoint_charged reached).2.referrals] at due
      exact referrerPaid_of_active due ((active_in_charged_iff reached _).mpr served)
  · intro same call charged reached
    apply rewardReferral_idle
    cases due : dueReferral settings call.payment.userId charged with
    | none => rfl
    | some entry =>
        rw [dueReferral_congr (rewardPoint_charged reached).2.referrals] at due
        exact absurd (by rw [same]) (due_is_recorded reached due)

theorem withheld_of_unserved {settings : BillingSettings} {db : Db} {event : Completion}
    (unserved : referrerServed settings db event = false) : RewardWithheld settings db event := by
  unfold referrerServed at unserved
  split at unserved
  · cases unserved
  · rename_i call charged reached
    split at unserved
    · cases unserved
    · rename_i id referral due
      refine ⟨call, charged, id, reached, due_is_recorded reached due, ?_⟩
      rw [← dueReferral_congr (rewardPoint_charged reached).2.referrals] at due
      apply withheld_of_inactive due
      rw [active_in_charged_iff reached, unserved]
      exact Bool.false_ne_true

/-! ### Runs -/

/-- How often a run writes the reward marker of a referral. -/
def rewardsRecorded (settings : BillingSettings) (id : String) : Db → List Completion → Nat
  | _, [] => 0
  | db, event :: rest =>
      let after := complete settings db event
      (if after.referrals.get? id = db.referrals.get? id then 0 else 1) +
        rewardsRecorded settings id after rest

/-- The rewards a referral can still bring. -/
def rewardCredit (id : String) (db : Db) : Nat :=
  match db.referrals.get? id with
  | none => 0
  | some referral => if referral.rewardAppliedAt = none then 1 else 0

theorem rewardCredit_step (settings : BillingSettings) (id : String) (db : Db)
    (event : Completion) :
    (if (complete settings db event).referrals.get? id = db.referrals.get? id then 0 else 1) +
      rewardCredit id (complete settings db event) ≤ rewardCredit id db := by
  unfold rewardCredit
  rcases complete_referral_cases settings db event id with
    same | ⟨call, charged, referral, reached, due, recorded⟩
  · rw [same, if_pos rfl]
    omega
  · obtain ⟨stored, unrewarded⟩ := dueReferral_eq_some due
    rw [if_neg (due_is_recorded reached due), recorded, stored]
    simp [rewardedRow, unrewarded]

theorem rewardsRecorded_le_credit (settings : BillingSettings) (id : String)
    (completions : List Completion) (db : Db) :
    rewardsRecorded settings id db completions ≤ rewardCredit id db := by
  induction completions generalizing db with
  | nil => exact Nat.zero_le _
  | cons event rest ih =>
      have here := rewardCredit_step settings id db event
      have later := ih (complete settings db event)
      rw [rewardsRecorded]
      omega

theorem rewardCredit_le_one (id : String) (db : Db) : rewardCredit id db ≤ 1 := by
  unfold rewardCredit
  split
  · exact Nat.zero_le 1
  · split
    · exact Nat.le_refl 1
    · exact Nat.zero_le 1

/-- Each reward is recorded at most once, and paid when it is recorded. -/
structure RewardLaw (settings : BillingSettings) (db : Db) (completions : List Completion) :
    Prop where
  once : ∀ id, rewardsRecorded settings id db completions ≤ 1
  paid : EveryStep (complete settings) db completions (RewardHonoured settings)

/-- Over every run of completed payments a reward is recorded at most once; every payment
whose referrer is served pays the reward it records, and every other one records a
reward that nobody gets. -/
theorem referral_rewards_over_runs (settings : BillingSettings) (db : Db)
    (completions : List Completion) :
    (∀ id, rewardsRecorded settings id db completions ≤ 1) ∧
      (EveryStep (complete settings) db completions (fun before event =>
          referrerServed settings before event = true) →
        RewardLaw settings db completions) ∧
      EveryStep (complete settings) db completions (fun before event =>
        (referrerServed settings before event = true → RewardHonoured settings before event) ∧
        (referrerServed settings before event = false →
          RewardWithheld settings before event)) := by
  have once : ∀ id, rewardsRecorded settings id db completions ≤ 1 := fun id =>
    (rewardsRecorded_le_credit settings id completions db).trans (rewardCredit_le_one id db)
  refine ⟨once, ?_, ?_⟩
  · intro served
    refine ⟨once, ?_⟩
    intro earlier event later split
    exact honoured_of_served (served earlier event later split)
  · intro earlier event later split
    exact ⟨honoured_of_served, withheld_of_unserved⟩

/-- A referrer whose subscription has ended, and the referee's first payment. -/
def endedReferrer : Db :=
  { users := [⟨1, 101⟩, ⟨2, 102⟩]
    plans := Dict.ofList [("month", ⟨30⟩)]
    subscriptions := Dict.ofList
      [("old", ⟨1, "month", 0, day, "expired"⟩), ("new", ⟨2, "month", 0, 0, "pending"⟩)]
    payments := []
    paymentEvents := []
    referrals := Dict.ofList [("invite", ⟨1, 2, "pending", 7, none⟩)]
    promoCodes := []
    promoRedemptions := []
    funnelEvents := []
    effectsApplied := [] }

def firstPayment : Completion :=
  .webhook
    { provider := "telegram"
      payload :=
        { externalId := some "charge-1"
          id := none
          paymentId := none
          userId := .value 2
          subscriptionId := some "new"
          amount := .value 100
          status := none
          currency := none
          promoCode := none }
      clock := ⟨2 * day, 2 * day, 2 * day, 2 * day, 2 * day, 2 * day⟩ }

/-- The referral is marked as rewarded and the referrer gets nothing. -/
theorem ended_referrer_goes_unpaid : ¬ RewardLaw ⟨7⟩ endedReferrer [firstPayment] := by
  intro law
  have changed : (complete ⟨7⟩ endedReferrer firstPayment).referrals.get? "invite" ≠
      endedReferrer.referrals.get? "invite" := by decide
  have unpaid : (rewardPoint ⟨7⟩ endedReferrer firstPayment).all (fun point =>
      point.2.subscriptions.entries.all (fun entry =>
        entry.2.userId ≠ 1 ∨
          (rewardReferral ⟨7⟩ point.1.clock point.1.payment.userId point.2).subscriptions.get?
              entry.1 ≠
            some (addBonusDays point.1.clock.referralCheck point.1.clock.referralBase 7
              entry.2))) = true := by decide
  obtain ⟨referral, call, charged, reached, stored, _, _, id, sub, found, owned, raised⟩ :=
    (law.paid [] firstPayment [] rfl).recorded "invite" changed
  obtain rfl := Option.some.inj stored
  change rewardPoint ⟨7⟩ endedReferrer firstPayment = _ at reached
  rw [reached, Option.all_some, List.all_eq_true] at unpaid
  have judged := unpaid (id, sub) ((Dict.mem_entries_iff _ _ _).mpr found)
  rw [decide_eq_true_eq] at judged
  rcases judged with foreign | unraised
  · exact foreign owned
  · exact unraised raised

/-- The same payment when the referrer's subscription still runs. -/
def runningReferrer : Db :=
  { endedReferrer with
    subscriptions := endedReferrer.subscriptions.set "old" ⟨1, "month", 0, 3 * day, "active"⟩ }

theorem running_referrer_is_paid :
    RewardLaw ⟨7⟩ runningReferrer [firstPayment] ∧
      ((complete ⟨7⟩ runningReferrer firstPayment).subscriptions.get? "old").map
        Subscription.validUntil = some (10 * day) := by
  refine ⟨(referral_rewards_over_runs ⟨7⟩ runningReferrer [firstPayment]).2.1 ?_, by decide⟩
  intro earlier event later split
  cases earlier with
  | nil =>
      obtain ⟨rfl, _⟩ := List.cons.inj split
      decide
  | cons first rest =>
      have short := congrArg List.length split
      simp at short

end VpnSuite.Billing
