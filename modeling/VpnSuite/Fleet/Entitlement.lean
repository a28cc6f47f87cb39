/-
Which devices are served, and which are entitled to it (`services/retention_service.py`,
`agent_desired_state` in `api/v1/agent.py`, the query of `reconcile_node`).

Service is decided by the device row alone; entitlement sits in the subscription row.
Pausing writes the subscription only, issuing ignores a pause, and the expiry job looks
at the device's own `expires_at`.  So the two agree only along runs in which nobody
pauses, issues or waits against a served device.
-/

import VpnSuite.Billing.PaidTime
import VpnSuite.Fleet.FleetInvariants

set_option autoImplicit false

namespace VpnSuite.Fleet

open Foundations
open Foundations.PythonText
open VpnSuite.Billing (BillingSettings Completion GenerousTerms complete)

/-! ### Pausing, resuming and the desired state -/

/-- `pause_subscription`. -/
def pauseSubscription (now : Int) (subscriptionId : String) (userId : Int) (db : FleetDb) :
    FleetDb × Bool :=
  match db.billing.subscriptions.get? subscriptionId with
  | none => (db, false)
  | some sub =>
      if sub.userId ≠ userId then (db, false)
      else if (db.pausedAt.get? subscriptionId).isSome then (db, true)
      else ({ db with pausedAt := db.pausedAt.set subscriptionId now }, true)

/-- `resume_subscription`. -/
def resumeSubscription (subscriptionId : String) (userId : Int) (db : FleetDb) :
    FleetDb × Bool :=
  match db.billing.subscriptions.get? subscriptionId with
  | none => (db, false)
  | some sub =>
      if sub.userId ≠ userId then (db, false)
      else ({ db with pausedAt := db.pausedAt.erase subscriptionId }, true)

structure AgentDesiredPeer where
  publicKey : String
  allowedIps : String
  presharedKey : Option String
  deriving DecidableEq, Repr

/-- The peers of `agent_desired_state`. -/
def agentDesiredState (serverId : String) (db : FleetDb) : List AgentDesiredPeer :=
  ((servedRows [serverId] db.devices).filter (fun entry => entry.2.publicKey ≠ "")).map (fun entry =>
    { publicKey := entry.2.publicKey
      allowedIps := strip (orDefault entry.2.allowedIps "10.8.1.2/32")
      presharedKey := orNone (strip (orDefault entry.2.presharedKey "")) })

/-! ### The system over time -/

structure Moment where
  db : FleetDb
  now : Int

inductive EntitlementStep where
  | pause (subscriptionId : String) (userId : Int)
  | resume (subscriptionId : String) (userId : Int)
  | payment (event : Completion)
  | issue (request : IssueRequest)
  | expiryCheck
  | wait (span : Nat)
  deriving DecidableEq, Repr

/-- A request whose clock shows the present. -/
def IssueRequest.atInstant (now : Int) (request : IssueRequest) : IssueRequest :=
  { request with inputs := { request.inputs with now := now } }

/-- One request handled at one instant, or the passing of some time. -/
def entitlementStep (billing : BillingSettings) (settings : FleetSettings) (state : Moment) :
    EntitlementStep → Moment
  | .pause subscriptionId userId =>
      { state with db := (pauseSubscription state.now subscriptionId userId state.db).1 }
  | .resume subscriptionId userId =>
      { state with db := (resumeSubscription subscriptionId userId state.db).1 }
  | .payment event =>
      { state with db := { state.db with
          billing := complete billing state.db.billing (event.atInstant state.now) } }
  | .issue request =>
      match issueDevice settings (request.atInstant state.now) state.db with
      | .ok after => { state with db := after }
      | .error _ => state
  | .expiryCheck => { state with db := runDeviceExpiryCheck state.now state.db }
  | .wait span => { state with now := state.now + span }

/-! ### Entitlement -/

/-- The subscription exists, is not paused and has not ended. -/
def Entitled (state : Moment) (subscriptionId : String) : Prop :=
  ∃ sub, state.db.billing.subscriptions.get? subscriptionId = some sub ∧
    state.db.pausedAt.get? subscriptionId = none ∧ state.now < sub.validUntil

/-- Everything listed right after an expiry check at the present time is entitled. -/
def ServesEntitled (state : Moment) : Prop :=
  ∀ serverIds, ∀ entry ∈ servedRows serverIds (runDeviceExpiryCheck state.now state.db).devices,
    Entitled state entry.2.subscriptionId

/-- A device the readers list, now that the expiry check has run. -/
def served (now : Int) (device : Device) : Bool :=
  device.revokedAt = none && device.suspendedAt = none &&
    match device.expiresAt with
    | none => true
    | some expiresAt => now < expiresAt

/-- What the agent is told to serve belongs to entitled devices. -/
theorem agentDesiredState_entitled {state : Moment} (law : ServesEntitled state)
    (serverId : String) {peer : AgentDesiredPeer}
    (listed : peer ∈ agentDesiredState serverId (runDeviceExpiryCheck state.now state.db)) :
    ∃ entry ∈ servedRows [serverId] (runDeviceExpiryCheck state.now state.db).devices,
      entry.2.publicKey = peer.publicKey ∧ Entitled state entry.2.subscriptionId := by
  obtain ⟨entry, member, rfl⟩ := List.mem_map.mp listed
  have row := List.mem_of_mem_filter member
  exact ⟨entry, row, rfl, law [serverId] entry row⟩

theorem expireDevice_served (now : Int) (device : Device) :
    ((expireDevice now device).revokedAt = none ∧ (expireDevice now device).suspendedAt = none) ↔
      served now device = true := by
  unfold expireDevice served
  cases device.expiresAt with
  | none => simp
  | some expiresAt =>
      dsimp only
      by_cases due : expiresAt ≤ now ∧ device.revokedAt = none
      · rw [if_pos due]
        simp [due.1]
      · rw [if_neg due]
        simp only [Bool.and_eq_true, decide_eq_true_eq]
        constructor
        · rintro ⟨live, active⟩
          refine ⟨⟨live, active⟩, ?_⟩
          by_contra late
          exact due ⟨Int.not_lt.mp late, live⟩
        · rintro ⟨kept, _⟩
          exact kept

theorem servesEntitled_iff (state : Moment) :
    ServesEntitled state ↔ ∀ id device, state.db.devices.get? id = some device →
      served state.now device = true → Entitled state device.subscriptionId := by
  unfold ServesEntitled servedRows
  constructor
  · intro law id device found listed
    have row : (runDeviceExpiryCheck state.now state.db).devices.get? id =
        some (expireDevice state.now device) := by
      change (state.db.devices.mapValues (expireDevice state.now)).get? id = _
      rw [Dict.get?_mapValues, found]
      rfl
    have member := law [(expireDevice state.now device).serverId]
      (id, expireDevice state.now device) (List.mem_filter.mpr
        ⟨(Dict.mem_entries_iff _ _ _).mpr row, decide_eq_true
          ⟨List.mem_singleton_self _, (expireDevice_served state.now device).mpr listed⟩⟩)
    rw [(expireDevice_spec state.now device).1] at member
    exact member
  · rintro law serverIds ⟨id, device⟩ member
    obtain ⟨stored, chosen⟩ := List.mem_filter.mp member
    have found := (Dict.mem_entries_iff _ _ _).mp stored
    change (state.db.devices.mapValues (expireDevice state.now)).get? id = some device at found
    rw [Dict.get?_mapValues] at found
    obtain ⟨earlier, wasThere, rfl⟩ := Option.map_eq_some_iff.mp found
    have listed := (expireDevice_served state.now earlier).mp (of_decide_eq_true chosen).2
    change Entitled state (expireDevice state.now earlier).subscriptionId
    rw [(expireDevice_spec state.now earlier).1]
    exact law id earlier wasThere listed

/-! ### What keeps the law -/

/-- The subscriptions of served devices. -/
def servedSubscriptions (now : Int) (db : FleetDb) : List String :=
  (db.devices.entries.filter (fun entry => served now entry.2)).map
    (fun entry => entry.2.subscriptionId)

def runsPast (now : Int) (db : FleetDb) (subscriptionId : String) : Bool :=
  match db.billing.subscriptions.get? subscriptionId with
  | none => false
  | some sub => now < sub.validUntil

def ownerOf (db : FleetDb) (subscriptionId : String) : Option Int :=
  (db.billing.subscriptions.get? subscriptionId).map Billing.Subscription.userId

/-- Whether a step may be taken: nobody pauses a subscription with a served device, no
device is issued to a paused subscription, and no subscription ends under a served
device. -/
def keepsEntitlement (state : Moment) : EntitlementStep → Bool
  | .pause subscriptionId userId =>
      ownerOf state.db subscriptionId ≠ some userId ||
        subscriptionId ∉ servedSubscriptions state.now state.db
  | .issue request => state.db.pausedAt.get? request.subscriptionId = none
  | .wait span =>
      (servedSubscriptions (state.now + span) state.db).all
        (runsPast (state.now + span) state.db)
  | _ => true

/-- A device created by the step belongs to a subscription that is not paused. -/
def IssuesUnpaused (billing : BillingSettings) (settings : FleetSettings) (state : Moment)
    (step : EntitlementStep) : Prop :=
  ∀ id device, state.db.devices.get? id = none →
    (entitlementStep billing settings state step).db.devices.get? id = some device →
    state.db.pausedAt.get? device.subscriptionId = none

theorem mem_servedSubscriptions {now : Int} {db : FleetDb} {subscriptionId : String} :
    subscriptionId ∈ servedSubscriptions now db ↔
      ∃ id device, db.devices.get? id = some device ∧ served now device = true ∧
        device.subscriptionId = subscriptionId := by
  unfold servedSubscriptions
  simp only [List.mem_map, List.mem_filter]
  constructor
  · rintro ⟨⟨id, device⟩, ⟨member, listed⟩, owned⟩
    exact ⟨id, device, (Dict.mem_entries_iff _ _ _).mp member, listed, owned⟩
  · rintro ⟨id, device, found, listed, owned⟩
    exact ⟨(id, device), ⟨(Dict.mem_entries_iff _ _ _).mpr found, listed⟩, owned⟩

/-- The law carries over to a state with the same devices whose subscriptions are at
least as good. -/
theorem ServesEntitled.mono {before after : Moment} (law : ServesEntitled before)
    (devices : after.db.devices = before.db.devices) (present : after.now = before.now)
    (entitled : ∀ subscriptionId, subscriptionId ∈ servedSubscriptions before.now before.db →
      Entitled before subscriptionId → Entitled after subscriptionId) : ServesEntitled after := by
  rw [servesEntitled_iff] at law ⊢
  intro id device found listed
  rw [devices] at found
  rw [present] at listed
  exact entitled _ (mem_servedSubscriptions.mpr ⟨id, device, found, listed, rfl⟩)
    (law id device found listed)

section Steps

variable {billing : BillingSettings} {settings : FleetSettings} {state : Moment}

/-- Pausing marks the user's own subscription and nothing else. -/
theorem pauseSubscription_eq (now : Int) (subscriptionId : String) (userId : Int)
    (db : FleetDb) :
    (pauseSubscription now subscriptionId userId db).1 =
      if ownerOf db subscriptionId = some userId ∧ db.pausedAt.get? subscriptionId = none then
        { db with pausedAt := db.pausedAt.set subscriptionId now }
      else db := by
  unfold pauseSubscription ownerOf
  cases db.billing.subscriptions.get? subscriptionId with
  | none => simp
  | some sub =>
      by_cases owned : sub.userId = userId
      · cases db.pausedAt.get? subscriptionId with
        | none => simp [owned]
        | some moment => simp [owned]
      · simp [owned]

theorem pause_law_iff (law : ServesEntitled state) (subscriptionId : String) (userId : Int) :
    ServesEntitled (entitlementStep billing settings state (.pause subscriptionId userId)) ↔
      keepsEntitlement state (.pause subscriptionId userId) = true := by
  have after : entitlementStep billing settings state (.pause subscriptionId userId) =
      { state with db := (pauseSubscription state.now subscriptionId userId state.db).1 } := rfl
  have condition : keepsEntitlement state (.pause subscriptionId userId) = true ↔
      ownerOf state.db subscriptionId ≠ some userId ∨
        subscriptionId ∉ servedSubscriptions state.now state.db := by
    change (_ || _) = true ↔ _
    rw [Bool.or_eq_true, decide_eq_true_eq, decide_eq_true_eq]
  rw [after, condition, pauseSubscription_eq]
  by_cases marks : ownerOf state.db subscriptionId = some userId ∧
      state.db.pausedAt.get? subscriptionId = none
  · rw [if_pos marks]
    constructor
    · intro later
      right
      intro member
      obtain ⟨id, device, found, listed, owned⟩ := mem_servedSubscriptions.mp member
      obtain ⟨_, _, unpaused, _⟩ := (servesEntitled_iff _).mp later id device found listed
      change (state.db.pausedAt.set subscriptionId state.now).get? device.subscriptionId = none
        at unpaused
      rw [Dict.get?_set, if_pos owned] at unpaused
      cases unpaused
    · intro allowed
      have unserved := allowed.resolve_left (not_not.mpr marks.1)
      refine law.mono rfl rfl ?_
      rintro other member ⟨sub, stored, unpaused, running⟩
      have different : other ≠ subscriptionId := by
        rintro rfl
        exact unserved member
      refine ⟨sub, stored, ?_, running⟩
      change (state.db.pausedAt.set subscriptionId state.now).get? other = none
      rw [Dict.get?_set, if_neg different]
      exact unpaused
  · rw [if_neg marks]
    refine iff_of_true law ?_
    by_contra refused
    rw [not_or, not_not, not_not] at refused
    obtain ⟨id, device, found, listed, owned⟩ := mem_servedSubscriptions.mp refused.2
    obtain ⟨_, _, unpaused, _⟩ := (servesEntitled_iff state).mp law id device found listed
    rw [owned] at unpaused
    exact marks ⟨refused.1, unpaused⟩

theorem resume_law (law : ServesEntitled state) (subscriptionId : String) (userId : Int) :
    ServesEntitled (entitlementStep billing settings state (.resume subscriptionId userId)) := by
  have after : entitlementStep billing settings state (.resume subscriptionId userId) =
      { state with db := (resumeSubscription subscriptionId userId state.db).1 } := rfl
  rw [after]
  unfold resumeSubscription
  split
  · exact law
  · split
    · exact law
    · refine law.mono rfl rfl ?_
      rintro other _ ⟨sub, stored, unpaused, running⟩
      refine ⟨sub, stored, ?_, running⟩
      change (state.db.pausedAt.erase subscriptionId).get? other = none
      rw [Dict.get?_erase]
      split
      · rfl
      · exact unpaused

theorem payment_law (terms : GenerousTerms billing state.db.billing) (law : ServesEntitled state)
    (event : Completion) :
    ServesEntitled (entitlementStep billing settings state (.payment event)) := by
  refine law.mono rfl rfl ?_
  rintro subscriptionId _ ⟨sub, stored, unpaused, running⟩
  obtain ⟨later, kept, forward⟩ :=
    @Billing.complete_ahead billing state.now state.db.billing terms event subscriptionId sub stored
  exact ⟨later, kept, unpaused, forward running⟩

theorem expiryCheck_law (law : ServesEntitled state) :
    ServesEntitled (entitlementStep billing settings state .expiryCheck) := by
  rw [servesEntitled_iff] at law ⊢
  intro id device found listed
  change (state.db.devices.mapValues (expireDevice state.now)).get? id = some device at found
  rw [Dict.get?_mapValues] at found
  obtain ⟨earlier, stored, rfl⟩ := Option.map_eq_some_iff.mp found
  have wasListed : served state.now earlier = true := by
    apply (expireDevice_served state.now earlier).mp
    have kept : served state.now (expireDevice state.now earlier) = true := listed
    rw [served, Bool.and_eq_true, Bool.and_eq_true, decide_eq_true_eq, decide_eq_true_eq] at kept
    exact kept.1
  rw [(expireDevice_spec state.now earlier).1]
  exact law id earlier stored wasListed

theorem wait_law_iff (law : ServesEntitled state) (span : Nat) :
    ServesEntitled (entitlementStep billing settings state (.wait span)) ↔
      keepsEntitlement state (.wait span) = true := by
  have condition : keepsEntitlement state (.wait span) = true ↔
      ∀ subscriptionId ∈ servedSubscriptions (state.now + span) state.db,
        runsPast (state.now + span) state.db subscriptionId = true := by
    change List.all _ _ = true ↔ _
    rw [List.all_eq_true]
  rw [condition, servesEntitled_iff]
  constructor
  · intro later subscriptionId member
    obtain ⟨id, device, found, listed, rfl⟩ := mem_servedSubscriptions.mp member
    obtain ⟨sub, stored, _, running⟩ := later id device found listed
    change state.db.billing.subscriptions.get? device.subscriptionId = some sub at stored
    change state.now + span < sub.validUntil at running
    rw [runsPast, stored]
    exact decide_eq_true running
  · intro allowed id device found listed
    have running := allowed device.subscriptionId
      (mem_servedSubscriptions.mpr ⟨id, device, found, listed, rfl⟩)
    have listedBefore : served state.now device = true := by
      change served (state.now + span) device = true at listed
      unfold served at listed ⊢
      cases expiry : device.expiresAt with
      | none =>
          rw [expiry] at listed
          exact listed
      | some expiresAt =>
          rw [expiry] at listed
          simp only [Bool.and_eq_true, decide_eq_true_eq] at listed ⊢
          exact ⟨listed.1, by omega⟩
    obtain ⟨sub, stored, unpaused, _⟩ :=
      (servesEntitled_iff state).mp law id device found listedBefore
    rw [runsPast, stored] at running
    exact ⟨sub, stored, unpaused, of_decide_eq_true running⟩

/-- A new device is served, and entitled exactly when its subscription is not paused. -/
theorem issue_law_iff {request : IssueRequest} {after : FleetDb} (law : ServesEntitled state)
    (issued : issueDevice settings (request.atInstant state.now) state.db = .ok after) :
    ServesEntitled { state with db := after } ↔
      state.db.pausedAt.get? request.subscriptionId = none := by
  obtain ⟨device, row, owned, valid⟩ := issueDevice_ok issued
  obtain ⟨sub, chosen⟩ := Option.isSome_iff_exists.mp valid
  obtain ⟨stored, holds⟩ := Option.filter_eq_some_iff.mp chosen
  have running : state.now < sub.validUntil := (of_decide_eq_true holds).2.2
  change device.subscriptionId = request.subscriptionId at owned
  rw [servesEntitled_iff] at law ⊢
  have listedNew : served state.now device = true := by
    rw [served, row.live, row.unsuspended, row.unlimited]
    rfl
  have written := row.written
  subst written
  constructor
  · intro later
    obtain ⟨_, _, unpaused, _⟩ := later request.inputs.deviceId device
      ((Dict.get?_set _ _ _ _).trans (if_pos rfl)) listedNew
    rw [← owned]
    exact unpaused
  · intro unpaused id other found listed
    change (state.db.devices.set request.inputs.deviceId device).get? id = some other at found
    rw [Dict.get?_set] at found
    split at found
    · obtain rfl := Option.some.inj found
      rw [owned]
      exact ⟨sub, stored, unpaused, running⟩
    · exact law id other found listed

theorem issue_cases (request : IssueRequest) :
    entitlementStep billing settings state (.issue request) = state ∨
      ∃ after, issueDevice settings (request.atInstant state.now) state.db = .ok after ∧
        entitlementStep billing settings state (.issue request) = { state with db := after } := by
  unfold entitlementStep
  dsimp only
  split
  · rename_i after issued
    exact Or.inr ⟨after, issued, rfl⟩
  · exact Or.inl rfl

/-- A permitted step keeps the law. -/
theorem entitlementStep_law (terms : GenerousTerms billing state.db.billing)
    (law : ServesEntitled state) (step : EntitlementStep)
    (allowed : keepsEntitlement state step = true) :
    ServesEntitled (entitlementStep billing settings state step) := by
  cases step with
  | pause subscriptionId userId => exact (pause_law_iff law subscriptionId userId).mpr allowed
  | resume subscriptionId userId => exact resume_law law subscriptionId userId
  | payment event => exact payment_law terms law event
  | issue request =>
      rcases @issue_cases billing settings state request with same | ⟨after, issued, written⟩
      · rw [same]
        exact law
      · rw [written]
        exact (issue_law_iff law issued).mpr (of_decide_eq_true allowed)
  | expiryCheck => exact expiryCheck_law law
  | wait span => exact (wait_law_iff law span).mpr allowed

/-- A step that is not permitted breaks the law, unless it is an issue that is refused. -/
theorem entitlementStep_breaks (law : ServesEntitled state) (step : EntitlementStep)
    (forbidden : keepsEntitlement state step = false) :
    ¬ ServesEntitled (entitlementStep billing settings state step) ∨
      entitlementStep billing settings state step = state := by
  have refused : keepsEntitlement state step ≠ true := by
    rw [forbidden]
    exact Bool.false_ne_true
  cases step with
  | pause subscriptionId userId =>
      exact Or.inl (fun later => refused ((pause_law_iff law subscriptionId userId).mp later))
  | resume subscriptionId userId => cases forbidden
  | payment event => cases forbidden
  | issue request =>
      rcases @issue_cases billing settings state request with same | ⟨after, issued, written⟩
      · exact Or.inr same
      · left
        rw [written]
        intro later
        exact refused (decide_eq_true ((issue_law_iff law issued).mp later))
  | expiryCheck => cases forbidden
  | wait span => exact Or.inl (fun later => refused ((wait_law_iff law span).mp later))

/-- Only issuing creates devices, and a permitted issue is for an unpaused subscription. -/
theorem entitlementStep_issues (step : EntitlementStep)
    (allowed : keepsEntitlement state step = true) :
    IssuesUnpaused billing settings state step := by
  intro id device absent created
  have unchanged : ∀ other : Moment, other.db.devices = state.db.devices →
      other.db.devices.get? id ≠ some device := by
    intro other same
    rw [same, absent]
    simp
  cases step with
  | pause subscriptionId userId =>
      refine absurd created (unchanged _ ?_)
      change (pauseSubscription state.now subscriptionId userId state.db).1.devices = _
      rw [pauseSubscription_eq]
      split <;> rfl
  | resume subscriptionId userId =>
      refine absurd created (unchanged _ ?_)
      change (resumeSubscription subscriptionId userId state.db).1.devices = _
      unfold resumeSubscription
      split
      · rfl
      · split <;> rfl
  | payment event => exact absurd created (unchanged _ rfl)
  | issue request =>
      rcases @issue_cases billing settings state request with same | ⟨after, issued, written⟩
      · rw [same] at created
        exact absurd created (unchanged state rfl)
      · obtain ⟨row, facts, owned, _⟩ := issueDevice_ok issued
        rw [written, facts.written] at created
        change (state.db.devices.set request.inputs.deviceId row).get? id = some device at created
        rw [Dict.get?_set] at created
        split at created
        · obtain rfl := Option.some.inj created
          rw [owned]
          exact of_decide_eq_true allowed
        · exact absurd created (unchanged state rfl)
  | expiryCheck =>
      change (state.db.devices.mapValues (expireDevice state.now)).get? id = some device at created
      rw [Dict.get?_mapValues, absent] at created
      cases created
  | wait span => exact absurd created (unchanged _ rfl)

theorem entitlementStep_terms (terms : GenerousTerms billing state.db.billing)
    (step : EntitlementStep) :
    GenerousTerms billing (entitlementStep billing settings state step).db.billing := by
  cases step with
  | pause subscriptionId userId =>
      change GenerousTerms billing
        (pauseSubscription state.now subscriptionId userId state.db).1.billing
      rw [pauseSubscription_eq]
      split <;> exact terms
  | resume subscriptionId userId =>
      change GenerousTerms billing (resumeSubscription subscriptionId userId state.db).1.billing
      unfold resumeSubscription
      split
      · exact terms
      · split <;> exact terms
  | payment event => exact Billing.complete_generous terms _
  | issue request =>
      rcases @issue_cases billing settings state request with same | ⟨after, issued, written⟩
      · rw [same]
        exact terms
      · obtain ⟨_, facts, _, _⟩ := issueDevice_ok issued
        rw [written, facts.written]
        exact terms
  | expiryCheck => exact terms
  | wait span => exact terms

end Steps

/-! ### Runs -/

/-- Under terms that only add time, a run of permitted steps serves entitled devices only
and issues none to a paused subscription; a step that is not permitted breaks that at
once, unless it is an issue that is refused. -/
theorem served_devices_stay_entitled (billing : BillingSettings) (settings : FleetSettings)
    (state : Moment) (steps : List EntitlementStep)
    (terms : GenerousTerms billing state.db.billing) (initial : ServesEntitled state) :
    (EveryStep (entitlementStep billing settings) state steps
        (fun before step => keepsEntitlement before step = true) →
      EveryState (entitlementStep billing settings) state steps ServesEntitled ∧
        EveryStep (entitlementStep billing settings) state steps
          (IssuesUnpaused billing settings)) ∧
    EveryStep (entitlementStep billing settings) state steps (fun before step =>
      ServesEntitled before → keepsEntitlement before step = false →
        ¬ ServesEntitled (entitlementStep billing settings before step) ∨
          entitlementStep billing settings before step = before) := by
  refine ⟨?_, ?_⟩
  · intro permitted
    have both : EveryState (entitlementStep billing settings) state steps (fun reached =>
        GenerousTerms billing reached.db.billing ∧ ServesEntitled reached) :=
      permitted.keeps (fun before step held allowed =>
        ⟨entitlementStep_terms held.1 step, entitlementStep_law held.1 held.2 step allowed⟩)
        ⟨terms, initial⟩
    refine ⟨both.imp And.right, ?_⟩
    intro earlier step later split
    exact entitlementStep_issues step (permitted earlier step later split)
  · intro earlier step later split law forbidden
    exact entitlementStep_breaks law step forbidden

def quietMoment : Moment := ⟨smallFleet, 10⟩

def issueFirst : EntitlementStep :=
  .issue
    { userId := 1
      subscriptionId := "sub"
      serverId := some "node-1"
      inputs := ⟨none, "a", "key-a", none, 0, true, true, true⟩ }

def firstDevice : Device :=
  ⟨1, "sub", "node-1", none, "key-a", some "10.8.1.2/32", none, none, none, none, .applied⟩

theorem quietMoment_terms : GenerousTerms ⟨7⟩ quietMoment.db.billing := by
  refine ⟨?_, ?_, ?_⟩
  · intro id plan found
    have stored : [("month", (⟨30⟩ : Billing.Plan))].reverse.lookup id = some plan := by
      rw [← Dict.get?_ofList]
      exact found
    rw [List.reverse_singleton, Dict.lookup_cons_eq] at stored
    split at stored
    · obtain rfl := Option.some.inj stored
      decide
    · cases stored
  · intro id referral found
    cases found
  · intro promo member
    cases member

theorem quietMoment_law : ServesEntitled quietMoment := by
  rw [servesEntitled_iff]
  intro id device found
  cases found

/-- A paused subscription keeps its device and gets a new one, and a device outlives its
subscription. -/
theorem unentitled_devices_served :
    ¬ EveryState (entitlementStep ⟨7⟩ dockerSettings) quietMoment [issueFirst, .pause "sub" 1]
        ServesEntitled ∧
      ¬ EveryStep (entitlementStep ⟨7⟩ dockerSettings) quietMoment [.pause "sub" 1, issueFirst]
        (IssuesUnpaused ⟨7⟩ dockerSettings) ∧
      ¬ EveryState (entitlementStep ⟨7⟩ dockerSettings) quietMoment [issueFirst, .wait 100]
        ServesEntitled := by
  refine ⟨?_, ?_, ?_⟩
  · intro law
    have final := (servesEntitled_iff _).mp (law [issueFirst, .pause "sub" 1] [] rfl)
    obtain ⟨_, _, unpaused, _⟩ := final "a" firstDevice (by decide +kernel) (by decide +kernel)
    revert unpaused
    decide +kernel
  · intro law
    have unpaused := law [.pause "sub" 1] issueFirst [] rfl "a" firstDevice (by decide +kernel)
      (by decide +kernel)
    revert unpaused
    decide +kernel
  · intro law
    have final := (servesEntitled_iff _).mp (law [issueFirst, .wait 100] [] rfl)
    obtain ⟨sub, stored, _, running⟩ :=
      final "a" firstDevice (by decide +kernel) (by decide +kernel)
    obtain rfl : (⟨1, "month", 0, 100, "active"⟩ : Billing.Subscription) = sub :=
      Option.some.inj stored
    revert running
    decide +kernel

theorem first_device_entitled :
    EveryState (entitlementStep ⟨7⟩ dockerSettings) quietMoment
      [issueFirst, .wait 50, .expiryCheck] ServesEntitled := by
  refine ((served_devices_stay_entitled ⟨7⟩ dockerSettings quietMoment _ quietMoment_terms
    quietMoment_law).1 ?_).1
  exact everyStep_iff_stepsAll.mpr (by decide +kernel)

end VpnSuite.Fleet
