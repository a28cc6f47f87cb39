/-
Trials (`services/trial_service.py`), started through `bot_trial_start` and
`webapp_trial_start`.

A transaction finds or creates the user, looks for an earlier trial, inserts the trial
subscription, issues a device and commits.  No row is locked between the look and the
commit.  Only a user who is created by the transaction itself keeps others out: the
unique `tg_id` makes them wait for its end.

The system is the transactions for one `tg_id`.  Users are stored under theirs.  The
device call, with everything it does, either succeeds or raises.
-/

import VpnSuite.Billing.PaymentModel
import VpnSuite.Foundations.StepRuns
import VpnSuite.Foundations.ExclusiveWrites
import Mathlib.Data.Fin.VecNotation

set_option autoImplicit false

namespace VpnSuite.Billing

open Foundations
open Foundations.PythonText

/-! ### Tables -/

structure TrialUser where
  id : Int
  isBanned : Bool
  deriving DecidableEq, Repr

structure TrialPlan where
  priceAmount : Rat
  durationDays : Int
  deriving DecidableEq, Repr

structure TrialSubscription where
  userId : Int
  planId : String
  validFrom : Int
  validUntil : Int
  isTrial : Bool
  deriving DecidableEq, Repr

structure TrialDb where
  users : Dict Int TrialUser
  plans : Dict String TrialPlan
  subscriptions : Dict String TrialSubscription
  deriving DecidableEq

structure TrialSettings where
  trialPlanId : String
  trialDurationHours : Int
  deriving DecidableEq, Repr

def hour : Int := 3600000000

/-- The tables after a transaction has written its user, if it is new, and its trial. -/
def TrialDb.withTrial (db : TrialDb) (tgId : Int) (user : TrialUser) (created : Bool)
    (id : String) (row : TrialSubscription) : TrialDb :=
  { db with
    users := if created then db.users.set tgId user else db.users
    subscriptions := db.subscriptions.set id row }

/-- The trial subscriptions of a user id. -/
def trialIdsOf (userId : Int) (subscriptions : Dict String TrialSubscription) : List String :=
  (subscriptions.entries.filter (fun entry =>
    entry.2.userId = userId ∧ entry.2.isTrial = true)).map Prod.fst

/-- The committed trials of the user with this `tg_id`. -/
def trialIds (tgId : Int) (db : TrialDb) : List String :=
  match db.users.get? tgId with
  | none => []
  | some user => trialIdsOf user.id db.subscriptions

/-- `order_by(duration_days.asc()).limit(1)`. -/
def shortestPlan (plans : List (String × TrialPlan)) : Option (String × TrialPlan) :=
  plans.foldl (fun best plan =>
    match best with
    | none => some plan
    | some found => if plan.2.durationDays < found.2.durationDays then some plan else some found)
    none

/-- The configured plan if it exists, else the shortest free one. -/
def trialPlan (settings : TrialSettings) (plans : Dict String TrialPlan) : Option String :=
  match (orNone settings.trialPlanId).filter (fun id => id ∈ plans.keys) with
  | some id => some id
  | none =>
      (shortestPlan (plans.entries.filter (fun entry => entry.2.priceAmount ≤ 0))).map Prod.fst

def trialSubscription (settings : TrialSettings) (now : Int) (userId : Int) (planId : String) :
    TrialSubscription :=
  { userId := userId
    planId := planId
    validFrom := now
    validUntil := now + max 1 (min 168 settings.trialDurationHours) * hour
    isTrial := true }

/-! ### Transactions -/

inductive TrialRoute where
  | bot
  | webapp
  deriving DecidableEq, Repr

inductive TrialError where
  | unavailable
  | userBanned
  | trialAlreadyUsed
  | trialPlanNotFound
  | deviceNotIssued
  | duplicateId
  | rolledBack
  deriving DecidableEq, Repr

/-- Status, code and message of the refusals the routes translate. -/
def TrialError.response (route : TrialRoute) : TrialError → Option (Nat × String × String)
  | .unavailable =>
      match route with
      | .bot => some (503, "UNAVAILABLE", "Trial service not configured")
      | .webapp => some (503, "UNAVAILABLE", "Trial not available")
  | .userBanned => some (400, "BAD_REQUEST", "user banned")
  | .trialAlreadyUsed => some (409, "TRIAL_ALREADY_USED", "Trial already used")
  | .trialPlanNotFound => some (503, "TRIAL_PLAN_NOT_FOUND", "No trial plan configured")
  | _ => none

/-- A request with the ids its rows would get and the outcome of its device call. -/
structure TrialRequest where
  route : TrialRoute
  adapterConfigured : Bool
  now : Int
  newUserId : Int
  newId : String
  deviceIssued : Bool
  deriving DecidableEq, Repr

inductive TrialPhase where
  | waiting
  | identified (user : TrialUser) (created : Bool)
  | checked (user : TrialUser) (created : Bool)
  | inserted (user : TrialUser) (created : Bool) (row : TrialSubscription)
  | started (subscriptionId : String) (trialEndsAt : Int)
  | refused (error : TrialError)
  deriving DecidableEq, Repr

/-- The user an open transaction works for, and whether it created the row itself. -/
def TrialPhase.user : TrialPhase → Option (TrialUser × Bool)
  | .identified user created => some (user, created)
  | .checked user created => some (user, created)
  | .inserted user created _ => some (user, created)
  | _ => none

/-- The transaction has found no trial and is still open. -/
def TrialPhase.passed : TrialPhase → Bool
  | .checked _ _ => true
  | .inserted _ _ _ => true
  | _ => false

/-- The row of the user is the transaction's own and not committed. -/
def TrialPhase.creates (phase : TrialPhase) : Bool := phase.user.any (fun found => found.2)

structure TrialSystem (n : Nat) where
  db : TrialDb
  phases : Fin n → TrialPhase

namespace TrialSystem

variable {n : Nat}

def start (db : TrialDb) : TrialSystem n := ⟨db, fun _ => .waiting⟩

def setPhase (system : TrialSystem n) (i : Fin n) (phase : TrialPhase) : TrialSystem n :=
  { system with phases := Function.update system.phases i phase }

theorem setPhase_self (system : TrialSystem n) (i : Fin n) (phase : TrialPhase) :
    (system.setPhase i phase).phases i = phase := by
  simp only [setPhase, Function.update_self]

theorem setPhase_of_ne (system : TrialSystem n) {i j : Fin n} (phase : TrialPhase)
    (different : j ≠ i) : (system.setPhase i phase).phases j = system.phases j := by
  simp only [setPhase, Function.update_of_ne different]

end TrialSystem

inductive TrialAction (n : Nat) where
  | proceed (i : Fin n)
  | rollback (i : Fin n)
  deriving DecidableEq, Repr

section System

variable {n : Nat} (tgId : Int) (settings : TrialSettings) (requests : Fin n → TrialRequest)

/-- The next statement of a transaction; an insert of the user waits for another's. -/
def proceedTrial (system : TrialSystem n) (i : Fin n) : TrialSystem n :=
  let request := requests i
  match system.phases i with
  | .waiting =>
      if request.route = .bot ∧ request.adapterConfigured = false then
        system.setPhase i (.refused .unavailable)
      else
        match system.db.users.get? tgId with
        | some user => system.setPhase i (.identified user false)
        | none =>
            if ∀ j, j ≠ i → (system.phases j).creates = false then
              system.setPhase i (.identified ⟨request.newUserId, false⟩ true)
            else system
  | .identified user created =>
      if request.adapterConfigured = false then system.setPhase i (.refused .unavailable)
      else if user.isBanned then system.setPhase i (.refused .userBanned)
      else if trialIdsOf user.id system.db.subscriptions ≠ [] then
        system.setPhase i (.refused .trialAlreadyUsed)
      else system.setPhase i (.checked user created)
  | .checked user created =>
      match trialPlan settings system.db.plans with
      | none => system.setPhase i (.refused .trialPlanNotFound)
      | some planId =>
          system.setPhase i
            (.inserted user created (trialSubscription settings request.now user.id planId))
  | .inserted user created row =>
      if request.deviceIssued = false then system.setPhase i (.refused .deviceNotIssued)
      else if request.newId ∈ system.db.subscriptions.keys then
        system.setPhase i (.refused .duplicateId)
      else
        TrialSystem.setPhase { system with
          db := system.db.withTrial tgId user created request.newId row }
          i (.started request.newId row.validUntil)
  | .started _ _ => system
  | .refused _ => system

def advanceTrial (system : TrialSystem n) : TrialAction n → TrialSystem n
  | .proceed i => proceedTrial tgId settings requests system i
  | .rollback i =>
      match system.phases i with
      | .started _ _ => system
      | _ => system.setPhase i (.refused .rolledBack)

/-- The condition on an action: a transaction looks for an earlier trial only when no
other one that has looked is still open. -/
def checksAlone (system : TrialSystem n) : TrialAction n → Bool
  | .proceed i =>
      match system.phases i with
      | .identified _ _ => decide (∀ j, j ≠ i → (system.phases j).passed = false)
      | _ => true
  | .rollback _ => true

end System

/-! ### The invariant -/

section Proofs

variable {n : Nat} {tgId : Int} {settings : TrialSettings} {requests : Fin n → TrialRequest}
  {system : TrialSystem n}

/-- Both transactions have found no trial and are open. -/
def bothPassed (left right : TrialPhase) : Prop := left.passed = true ∧ right.passed = true

/-- What the open transactions know of the committed tables. -/
structure TrialSound (tgId : Int) (system : TrialSystem n) : Prop where
  creator : ∀ i user, (system.phases i).user = some (user, true) →
    system.db.users.get? tgId = none ∧ ∀ j, j ≠ i → (system.phases j).user = none
  guest : ∀ i user, (system.phases i).user = some (user, false) →
    system.db.users.get? tgId = some user
  unused : ∀ i user created, (system.phases i).user = some (user, created) →
    (system.phases i).passed = true → trialIdsOf user.id system.db.subscriptions = []
  apart : Apart bothPassed system.phases
  once : (trialIds tgId system.db).length ≤ 1

/-- A transaction moves on, the tables stay. -/
theorem TrialSound.moved (sound : TrialSound tgId system) {i : Fin n} {phase : TrialPhase}
    (creator : ∀ user, phase.user = some (user, true) →
      system.db.users.get? tgId = none ∧ ∀ j, j ≠ i → (system.phases j).user = none)
    (guest : ∀ user, phase.user = some (user, false) → system.db.users.get? tgId = some user)
    (unused : ∀ user created, phase.user = some (user, created) → phase.passed = true →
      trialIdsOf user.id system.db.subscriptions = [])
    (free : phase.passed = true → ∀ j, j ≠ i → (system.phases j).passed = false) :
    TrialSound tgId (system.setPhase i phase) := by
  refine ⟨?_, ?_, ?_, ?_, sound.once⟩
  · intro j user owns
    by_cases mine : j = i
    · subst mine
      rw [TrialSystem.setPhase_self] at owns
      obtain ⟨absent, others⟩ := creator user owns
      refine ⟨absent, fun k different => ?_⟩
      rw [TrialSystem.setPhase_of_ne _ phase different]
      exact others k different
    · rw [TrialSystem.setPhase_of_ne _ phase mine] at owns
      obtain ⟨absent, others⟩ := sound.creator j user owns
      refine ⟨absent, fun k different => ?_⟩
      by_cases here : k = i
      · subst here
        rw [TrialSystem.setPhase_self]
        -- with the creator open, the moving transaction can work for nobody
        cases found : phase.user with
        | none => rfl
        | some pair =>
            obtain ⟨other, created⟩ := pair
            cases created with
            | true =>
                rw [(creator other found).2 j mine] at owns
                cases owns
            | false =>
                rw [guest other found] at absent
                cases absent
      · rw [TrialSystem.setPhase_of_ne _ phase here]
        exact others k different
  · intro j user owns
    by_cases mine : j = i
    · subst mine
      rw [TrialSystem.setPhase_self] at owns
      exact guest user owns
    · rw [TrialSystem.setPhase_of_ne _ phase mine] at owns
      exact sound.guest j user owns
  · intro j user created
    by_cases mine : j = i
    · subst mine
      rw [TrialSystem.setPhase_self]
      exact unused user created
    · rw [TrialSystem.setPhase_of_ne _ phase mine]
      exact sound.unused j user created
  · apply sound.apart.update And.symm
    rintro j different ⟨mine, others⟩
    rw [free mine j different] at others
    cases others

theorem TrialSound.refused (sound : TrialSound tgId system) (i : Fin n) (error : TrialError) :
    TrialSound tgId (system.setPhase i (.refused error)) := by
  apply sound.moved
  · intro user impossible
    cases impossible
  · intro user impossible
    cases impossible
  · intro user created impossible
    cases impossible
  · intro impossible
    cases impossible

theorem mem_trialIdsOf {userId : Int} {subscriptions : Dict String TrialSubscription}
    {id : String} :
    id ∈ trialIdsOf userId subscriptions ↔
      ∃ row, subscriptions.get? id = some row ∧ row.userId = userId ∧ row.isTrial = true := by
  rw [trialIdsOf, Dict.mem_map_filter]
  simp only [decide_eq_true_eq]

/-- The first trial of a user is the only one. -/
theorem trialIdsOf_set_new {userId : Int} {subscriptions : Dict String TrialSubscription}
    (id : String) (row : TrialSubscription) (unused : trialIdsOf userId subscriptions = []) :
    (trialIdsOf userId (subscriptions.set id row)).length ≤ 1 := by
  have only : ∀ other ∈ trialIdsOf userId (subscriptions.set id row), other = id := by
    intro other member
    obtain ⟨stored, found, facts⟩ := mem_trialIdsOf.mp member
    rw [Dict.get?_set] at found
    split at found
    · assumption
    · have before := mem_trialIdsOf.mpr ⟨stored, found, facts⟩
      rw [unused] at before
      cases before
  apply (Dict.map_filter_le_one ..).mpr
  intro left leftMember right rightMember
  rw [only left leftMember, only right rightMember]

/-- The commit of the one transaction that has passed. -/
theorem TrialSound.committed (sound : TrialSound tgId system) {i : Fin n} {user : TrialUser}
    {created : Bool} {row : TrialSubscription} (was : system.phases i = .inserted user created row)
    (id : String) :
    TrialSound tgId (TrialSystem.setPhase { system with
      db := system.db.withTrial tgId user created id row } i (.started id row.validUntil)) := by
  have mine : (system.phases i).user = some (user, created) := by rw [was]; rfl
  have passed : (system.phases i).passed = true := by rw [was]; rfl
  have stored : (system.db.withTrial tgId user created id row).users.get? tgId = some user := by
    cases created with
    | true => exact (Dict.get?_set ..).trans (if_pos rfl)
    | false => exact sound.guest i user mine
  have ended : ∀ j, ((TrialSystem.setPhase { system with
      db := system.db.withTrial tgId user created id row } i
        (.started id row.validUntil)).phases j).passed = false := by
    intro j
    by_cases here : j = i
    · subst here
      rw [TrialSystem.setPhase_self]
      rfl
    · rw [TrialSystem.setPhase_of_ne _ _ here]
      by_contra open_
      exact sound.apart (Ne.symm here) ⟨passed, Bool.eq_true_of_not_eq_false open_⟩
  have elsewhere : ∀ j other, ((TrialSystem.setPhase { system with
      db := system.db.withTrial tgId user created id row } i
        (.started id row.validUntil)).phases j).user = some other →
      j ≠ i ∧ (system.phases j).user = some other := by
    intro j other owns
    by_cases here : j = i
    · subst here
      rw [TrialSystem.setPhase_self] at owns
      cases owns
    · rw [TrialSystem.setPhase_of_ne _ _ here] at owns
      exact ⟨here, owns⟩
  refine ⟨?_, ?_, ?_, ?_, ?_⟩
  · intro j other owns
    obtain ⟨different, owned⟩ := elsewhere j (other, true) owns
    rw [(sound.creator j other owned).2 i (Ne.symm different)] at mine
    cases mine
  · intro j other owns
    obtain ⟨different, owned⟩ := elsewhere j (other, false) owns
    cases created with
    | true =>
        rw [(sound.creator i user mine).2 j different] at owned
        cases owned
    | false => exact sound.guest j other owned
  · intro j other fresh _ open_
    rw [ended j] at open_
    cases open_
  · intro left right _ both
    exact absurd ((ended left).symm.trans both.1) Bool.false_ne_true
  · change (match (system.db.withTrial tgId user created id row).users.get? tgId with
      | none => []
      | some found => trialIdsOf found.id (system.db.subscriptions.set id row)).length ≤ 1
    rw [stored]
    exact trialIdsOf_set_new id row (sound.unused i user created mine passed)

theorem TrialSound.step (sound : TrialSound tgId system) {action : TrialAction n}
    (alone : checksAlone system action = true) :
    TrialSound tgId (advanceTrial tgId settings requests system action) := by
  cases action with
  | rollback i =>
      unfold advanceTrial
      dsimp only
      split
      · exact sound
      · exact sound.refused i .rolledBack
  | proceed i =>
      have creator := sound.creator i
      have guest := sound.guest i
      have unused := sound.unused i
      change TrialSound tgId (proceedTrial tgId settings requests system i)
      cases was : system.phases i with
      | waiting =>
          simp only [proceedTrial, was]
          split
          · exact sound.refused i .unavailable
          · split
            · rename_i user present
              apply sound.moved
              · intro other impossible
                cases impossible
              · intro other same
                cases same
                exact present
              · intro other created _ impossible
                cases impossible
              · intro impossible
                cases impossible
            · rename_i absent
              split
              · rename_i uncreated
                apply sound.moved
                · intro other _
                  refine ⟨absent, fun j different => ?_⟩
                  cases owns : (system.phases j).user with
                  | none => rfl
                  | some pair =>
                      obtain ⟨found, created⟩ := pair
                      cases created with
                      | true =>
                          have creates := uncreated j different
                          rw [TrialPhase.creates, owns] at creates
                          cases creates
                      | false =>
                          rw [sound.guest j found owns] at absent
                          cases absent
                · intro other impossible
                  cases impossible
                · intro other created _ impossible
                  cases impossible
                · intro impossible
                  cases impossible
              · exact sound
      | identified user created =>
          rw [was] at creator guest
          simp only [checksAlone, was, decide_eq_true_eq] at alone
          simp only [proceedTrial, was]
          split
          · exact sound.refused i .unavailable
          · split
            · exact sound.refused i .userBanned
            · split
              · exact sound.refused i .trialAlreadyUsed
              · rename_i none_
                refine sound.moved creator guest ?_ (fun _ => alone)
                intro other fresh same _
                cases same
                exact not_not.mp none_
      | checked user created =>
          rw [was] at creator guest unused
          simp only [proceedTrial, was]
          split
          · exact sound.refused i .trialPlanNotFound
          · refine sound.moved creator guest unused ?_
            intro _ j different
            by_contra open_
            exact sound.apart (Ne.symm different)
              ⟨by rw [was]; rfl, Bool.eq_true_of_not_eq_false open_⟩
      | inserted user created row =>
          simp only [proceedTrial, was]
          split
          · exact sound.refused i .deviceNotIssued
          · split
            · exact sound.refused i .duplicateId
            · exact sound.committed was (requests i).newId
      | started subscriptionId trialEndsAt =>
          simp only [proceedTrial, was]
          exact sound
      | refused error =>
          simp only [proceedTrial, was]
          exact sound

/-! ### Runs -/

theorem trialSound_start {db : TrialDb} (once : (trialIds tgId db).length ≤ 1) :
    TrialSound tgId (TrialSystem.start db : TrialSystem n) := by
  refine ⟨?_, ?_, ?_, ?_, once⟩
  · intro i user impossible
    cases impossible
  · intro i user impossible
    cases impossible
  · intro i user created impossible
    cases impossible
  · intro left right _ both
    exact absurd both.1 Bool.false_ne_true

/-- In every run in which the transactions look for an earlier trial one after the other's
end, the user has at most one trial in every committed state. -/
theorem one_trial_when_checks_alone (tgId : Int) (settings : TrialSettings)
    (requests : Fin n → TrialRequest) (db : TrialDb) (actions : List (TrialAction n))
    (once : (trialIds tgId db).length ≤ 1)
    (alone : EveryStep (advanceTrial tgId settings requests) (TrialSystem.start db) actions
      (fun system action => checksAlone system action = true)) :
    EveryState (advanceTrial tgId settings requests) (TrialSystem.start db) actions
      (fun system => (trialIds tgId system.db).length ≤ 1) := by
  have kept : EveryState (advanceTrial tgId settings requests) (TrialSystem.start db) actions
      (TrialSound tgId) :=
    EveryStep.keeps (fun _ _ sound here => sound.step here) (trialSound_start once) alone
  exact kept.imp TrialSound.once

/-- A known user, one free plan and no trial yet. -/
def trialDb (users : List (Int × TrialUser)) : TrialDb :=
  { users := Dict.ofList users
    plans := Dict.ofList [("free", ⟨0, 1⟩)]
    subscriptions := Dict.empty }

def trialRequests : Fin 2 → TrialRequest :=
  ![⟨.bot, true, 10, 7, "trial-0", true⟩, ⟨.webapp, true, 11, 8, "trial-1", true⟩]

/-- The bot and the web app start a trial of a known user side by side. -/
theorem two_trials_side_by_side :
    ¬ EveryState (advanceTrial 101 ⟨"", 24⟩ trialRequests)
      (TrialSystem.start (trialDb [(101, ⟨1, false⟩)]))
      [.proceed 0, .proceed 1, .proceed 0, .proceed 1, .proceed 0, .proceed 1, .proceed 0,
        .proceed 1]
      (fun system => (trialIds 101 system.db).length ≤ 1) := by
  intro every
  have final := every _ [] (List.append_nil _).symm
  exact absurd final (by decide +kernel)

/-- A new user is created by the first transaction, and the second waits for its end. -/
theorem new_user_gets_one_trial :
    EveryState (advanceTrial 101 ⟨"", 24⟩ trialRequests) (TrialSystem.start (trialDb []))
      [.proceed 0, .proceed 1, .proceed 0, .proceed 1, .proceed 0, .proceed 1, .proceed 0,
        .proceed 1, .proceed 1]
      (fun system => (trialIds 101 system.db).length ≤ 1) :=
  one_trial_when_checks_alone 101 ⟨"", 24⟩ trialRequests (trialDb []) _ (by decide)
    (everyStep_iff_stepsAll.mpr (by decide +kernel))

end Proofs

end VpnSuite.Billing
