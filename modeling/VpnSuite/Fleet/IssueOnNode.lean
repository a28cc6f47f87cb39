/-
Issuing a device on a node (`services/issue_service.py`).

`issue_device` adds the peer before the configurations are built.  A call to the node that
raises stops the issue unless the fallback is on; a configuration that is refused stops it in
any case.  Nothing takes the peer from the node again.

`session.delete(device)` in the handler is never awaited, so the row stays in the session.
-/

import VpnSuite.Fleet.FleetInvariants
import VpnSuite.Fleet.NodeCalls

set_option autoImplicit false

namespace VpnSuite.Fleet

open Foundations
open Foundations.PythonText
open VpnSuite.Config
open VpnSuite.ControlPlane (LiveSources NodeEntry issueServerKey)
open VpnSuite.Runtime (PeerConfigLike)

/-- The arguments of `issue_device`, the id of the new row and the reading of the clock. -/
structure IssueCall where
  userId : Int
  subscriptionId : String
  serverId : Option String
  deviceName : Option String
  deviceId : String
  now : Int
  deriving DecidableEq, Repr

section Issue

variable (settings : IssueSettings) (sources : LiveSources) (answers : RuntimeAnswers)
  (server : IssueServer) (redactForLog : String → String) (failures : NodeFailures)
  (request : IssueCall) (keys : GeneratedKeys)

def issuedPresharedKey : String := clientPresharedKey server keys.presharedKey

/-- The request of an issue that nothing stops. -/
def IssueCall.completed : IssueRequest :=
  { userId := request.userId
    subscriptionId := request.subscriptionId
    serverId := request.serverId
    inputs :=
      { deviceName := request.deviceName
        deviceId := request.deviceId
        publicKey := keys.publicKey
        presharedKey := some (issuedPresharedKey server keys)
        now := request.now
        keyVerified := true
        peerApplied := true
        configValid := true } }

structure IssueStart where
  serverId : String
  serverKey : String
  obf : Obfuscation
  link : LinkSettings
  address : String

/-- Up to the row: the checks, the key of the server, the settings and the address. -/
def issueStart (db : FleetDb) : Except IssuePathError IssueStart := do
  demand (db.billing.users.any (fun user => user.id = request.userId)) (.refused .userNotFound)
  demand (request.userId ∉ db.banned) (.refused .userBanned)
  demand (validSubscription request.now request.userId request.subscriptionId db).isSome
    (.refused .subscriptionInvalid)
  (checkDeviceLimit request.subscriptionId db).mapError .refused
  let serverId ← request.serverId.elim (.error (.refused .serverRequired)) .ok
  let stored ← (findServer serverId db).mapError .refused
  let serverKey ← (fromKey (issueServerKey settings.fleet sources server.row)).mapError .config
  let obf ← (fromProfile (clientObfuscation settings sources answers server)).mapError .config
  let link ← (fromProfile (linkSettings server)).mapError .config
  let address ← (takeAddress stored db).mapError .refused
  demand (request.deviceId ∉ db.devices.keys) (.refused .duplicateId)
  .ok ⟨serverId, serverKey, obf, link, address⟩

/-- The row of the new device, as far as it has come. -/
def issuedRow (start : IssueStart) (status : ApplyStatus) (db : FleetDb) : FleetDb :=
  db.setDevice request.deviceId (newDevice request.userId request.subscriptionId start.serverId
    (request.completed server keys).inputs start.address status)

def issuedPeer (start : IssueStart) : PeerConfigLike :=
  serverPeer keys.publicKey start.address (issuedPresharedKey server keys)

/-- The calls to the node in the `try`. -/
def applyIssued (start : IssueStart) : Raising (OnNode FleetDb) NodeCallError Unit := do
  .write (onRow (issuedRow server request keys start .applying))
  addAndVerify failures "Node peer creation verification failed (peer missing after add)"
    (issuedPeer server keys start)
  ensureDevicePeerOnNode failures keys.publicKey start.address (issuedPresharedKey server keys)
  .write (onRow (issuedRow server request keys start .applied))

/-- With the fallback the device waits for the reconciler, without it the issue ends. -/
def issueFailed (start : IssueStart) (error : NodeCallError) :
    Raising (OnNode FleetDb) IssuePathError Unit :=
  if settings.fleet.issueFallbackOnPeerFailure then
    .write (onRow (issuedRow server request keys start .pendingApply))
  else .raise (.command ⟨"Node peer creation failed", "wg set", redactForLog error.text⟩)

def issuePeer (start : IssueStart) : Raising (OnNode FleetDb) IssuePathError Unit :=
  if settings.fleet.appliesPeers then do
    .check sources.adapter.isSome (.command
      ⟨"Runtime adapter is required for NODE_MODE=real", "issue_device", "missing runtime adapter"⟩)
    .attempt (applyIssued server failures request keys start)
      (issueFailed settings server redactForLog request keys start)
  else pure ()

def issuedConfigs (start : IssueStart) : Except IssuePathError ClientConfigs :=
  (fromProfile (builtConfigs settings sources answers server start.serverKey
    (allowedIpsFullTunnel server) start.link start.obf (keys.client start.address))).mapError .config

/-- `issue_device`. -/
def issueOnNode : Raising (OnNode FleetDb) IssuePathError ClientConfigs := do
  let start ← .query (fun state => issueStart settings sources answers server request state.row)
  .write (onRow (issuedRow server request keys start
    (if settings.fleet.appliesPeers then .created else .pendingApply)))
  issuePeer settings sources server redactForLog failures request keys start
  .query (fun _ => issuedConfigs settings sources answers server keys start)

end Issue

/-! ### How an issue ends -/

/-- What raises after the peer is added, while the calls to the node last. -/
def raisesLate (failures : NodeFailures) : Option String :=
  failures.list <|> failures.ensureList <|> failures.replyRoutes

section Outcomes

variable {settings : IssueSettings} {sources : LiveSources} {answers : RuntimeAnswers}
  {server : IssueServer} {redactForLog : String → String} {failures : NodeFailures}
  {request : IssueCall} {keys : GeneratedKeys} {start : IssueStart} {state : OnNode FleetDb}

theorem applyIssued_refused {text : String} (raised : failures.add = some text)
    (state : OnNode FleetDb) :
    applyIssued server failures request keys start state =
      (.error (.adapter text), onRow (issuedRow server request keys start .applying) state) := by
  unfold applyIssued
  rw [Raising.write_bind_run]
  exact Raising.bind_run_error (addAndVerify_refused raised _ _ _)

/-- The state once the peer is added. -/
def issuedState (server : IssueServer) (request : IssueCall) (keys : GeneratedKeys)
    (start : IssueStart) (state : OnNode FleetDb) : OnNode FleetDb :=
  onPeers (setPeer (issuedPeer server keys start))
    (onRow (issuedRow server request keys start .applying) state)

theorem issued_peer_added (added : failures.add = none) (missing : String)
    (state : OnNode FleetDb) :
    addAndVerify failures missing (issuedPeer server keys start)
        (onRow (issuedRow server request keys start .applying) state) =
      (callEnd failures.list, issuedState server request keys start state) := by
  have bare : strip (issuedPeer server keys start).publicKey =
      (issuedPeer server keys start).publicKey := keys.bare
  exact addAndVerify_added bare added _

theorem issued_peer_ensured (state : OnNode FleetDb) :
    ensureDevicePeerOnNode failures keys.publicKey start.address (issuedPresharedKey server keys)
        (issuedState server request keys start state) =
      (callEnd (failures.ensureList <|> failures.replyRoutes),
        issuedState server request keys start state) :=
  ensureDevicePeerOnNode_added keys.bare _

theorem applyIssued_late (added : failures.add = none) {text : String}
    (raised : raisesLate failures = some text) (state : OnNode FleetDb) :
    applyIssued server failures request keys start state =
      (.error (.adapter text), issuedState server request keys start state) := by
  unfold raisesLate at raised
  unfold applyIssued
  rw [Raising.write_bind_run]
  cases listed : failures.list with
  | some reason =>
      rw [listed] at raised
      obtain rfl := Option.some.inj raised
      exact Raising.bind_run_error ((issued_peer_added added _ state).trans (by rw [listed]; rfl))
  | none =>
      rw [listed] at raised
      have late : (failures.ensureList <|> failures.replyRoutes) = some text := raised
      rw [Raising.bind_run_ok ((issued_peer_added added _ state).trans (by rw [listed]; rfl))]
      exact Raising.bind_run_error ((issued_peer_ensured state).trans (by rw [late]; rfl))

theorem applyIssued_done (added : failures.add = none) (quiet : raisesLate failures = none)
    (state : OnNode FleetDb) :
    applyIssued server failures request keys start state =
      (.ok (), onRow (issuedRow server request keys start .applied)
        (issuedState server request keys start state)) := by
  unfold raisesLate at quiet
  unfold applyIssued
  rw [Raising.write_bind_run]
  cases listed : failures.list with
  | some reason =>
      rw [listed] at quiet
      cases quiet
  | none =>
      rw [listed] at quiet
      have ended : (failures.ensureList <|> failures.replyRoutes) = none := quiet
      rw [Raising.bind_run_ok ((issued_peer_added added _ state).trans (by rw [listed]; rfl))]
      exact Raising.bind_run_ok ((issued_peer_ensured state).trans (by rw [ended]; rfl))

/-! ### The whole issue -/

theorem issue_not_started {error : IssuePathError}
    (stopped : issueStart settings sources answers server request state.row = .error error) :
    issueOnNode settings sources answers server redactForLog failures request keys state =
      (.error error, state) := by
  unfold issueOnNode
  exact Raising.bind_run_error (congrArg (fun result => (result, state)) stopped)

/-- An issue that starts inserts the row, calls the node and builds the configurations. -/
theorem issue_started (applies : settings.fleet.appliesPeers = true)
    (started : issueStart settings sources answers server request state.row = .ok start) :
    issueOnNode settings sources answers server redactForLog failures request keys state =
      (do
        issuePeer settings sources server redactForLog failures request keys start
        .query (fun _ => issuedConfigs settings sources answers server keys start))
      (onRow (issuedRow server request keys start .created) state) := by
  have answered : Raising.query (fun state : OnNode FleetDb => issueStart settings sources answers
      server request state.row) state = (.ok start, state) :=
    congrArg (fun result => (result, state)) started
  unfold issueOnNode
  rw [Raising.bind_run_ok answered, if_pos applies]
  rfl

variable (sources server redactForLog failures request keys start) in
/-- Without the fallback the calls to the node stop the issue, before the peer is added or
after. -/
theorem issuePeer_cases (applies : settings.fleet.appliesPeers = true)
    (noFallback : settings.fleet.issueFallbackOnPeerFailure = false) (state : OnNode FleetDb) :
    ((sources.adapter.isNone = true ∨ failures.add ≠ none) ∧ ∃ error after,
      issuePeer settings sources server redactForLog failures request keys start state =
        (.error error, after) ∧ after.node = state.node) ∨
    (sources.adapter.isNone = false ∧ failures.add = none ∧ raisesLate failures ≠ none ∧
      ∃ error after,
        issuePeer settings sources server redactForLog failures request keys start state =
          (.error error, after) ∧ after.node = setPeer (issuedPeer server keys start) state.node) ∨
    sources.adapter.isNone = false ∧ failures.add = none ∧ raisesLate failures = none ∧
      issuePeer settings sources server redactForLog failures request keys start state =
        (.ok (), onRow (issuedRow server request keys start .applied)
          (issuedState server request keys start state)) := by
  have stops : issueFailed settings server redactForLog request keys start = fun error =>
      .raise (.command ⟨"Node peer creation failed", "wg set", redactForLog error.text⟩) := by
    funext error
    rw [issueFailed, noFallback]
    rfl
  unfold issuePeer
  rw [if_pos applies, stops]
  cases adapter : sources.adapter with
  | none => exact Or.inl ⟨Or.inl rfl, _, state, rfl, rfl⟩
  | some node =>
      rw [Option.isSome_some, Raising.check_true, Raising.pure_bind_eq]
      cases added : failures.add with
      | some text =>
          exact Or.inl ⟨Or.inr (Option.some_ne_none text), _, _,
            Raising.attempt_run_error (applyIssued_refused added state), rfl⟩
      | none =>
          right
          cases late : raisesLate failures with
          | some text =>
              exact Or.inl ⟨rfl, rfl, Option.some_ne_none text, _, _,
                Raising.attempt_run_error (applyIssued_late added late state), rfl⟩
          | none =>
              exact Or.inr ⟨rfl, rfl, rfl,
                Raising.attempt_run_ok (applyIssued_done added late state)⟩

/-! ### An issue that returns -/

/-- A start that succeeds has passed every check. -/
theorem issueStart_ok {db : FleetDb}
    (started : issueStart settings sources answers server request db = .ok start) :
    (db.billing.users.any (fun user => user.id = request.userId)) = true ∧
      decide (request.userId ∉ db.banned) = true ∧
      (validSubscription request.now request.userId request.subscriptionId db).isSome = true ∧
      checkDeviceLimit request.subscriptionId db = .ok () ∧
      request.serverId = some start.serverId ∧
      (∃ stored, findServer start.serverId db = .ok stored ∧ takeAddress stored db = .ok start.address) ∧
      decide (request.deviceId ∉ db.devices.keys) = true ∧
      issueServerKey settings.fleet sources server.row = .ok start.serverKey ∧
      clientObfuscation settings sources answers server = .ok start.obf ∧
      linkSettings server = .ok start.link := by
  obtain ⟨_, known, step⟩ := bind_eq_ok.mp started
  obtain ⟨_, admitted, step⟩ := bind_eq_ok.mp step
  obtain ⟨_, subscribed, step⟩ := bind_eq_ok.mp step
  obtain ⟨_, limited, step⟩ := bind_eq_ok.mp step
  obtain ⟨serverId, named, step⟩ := bind_eq_ok.mp step
  obtain ⟨stored, served, step⟩ := bind_eq_ok.mp step
  obtain ⟨serverKey, keyed, step⟩ := bind_eq_ok.mp step
  obtain ⟨obf, obfuscated, step⟩ := bind_eq_ok.mp step
  obtain ⟨link, linked, step⟩ := bind_eq_ok.mp step
  obtain ⟨address, taken, step⟩ := bind_eq_ok.mp step
  obtain ⟨_, unused, step⟩ := bind_eq_ok.mp step
  obtain rfl := Except.ok.inj step
  exact ⟨demand_ok.mp known, demand_ok.mp admitted, demand_ok.mp subscribed,
    mapError_eq_ok.mp limited, elim_ok.mp named,
    ⟨stored, mapError_eq_ok.mp served, mapError_eq_ok.mp taken⟩, demand_ok.mp unused,
    fromKey_eq_ok.mp (mapError_eq_ok.mp keyed), fromProfile_eq_ok.mp (mapError_eq_ok.mp obfuscated),
    fromProfile_eq_ok.mp (mapError_eq_ok.mp linked)⟩

/-- After such a start, an issue whose peer is applied stores the row `APPLIED`. -/
theorem issueDevice_of_start {db : FleetDb} (applies : settings.fleet.appliesPeers = true)
    (started : issueStart settings sources answers server request db = .ok start) :
    issueDevice settings.fleet (request.completed server keys) db =
      .ok (issuedRow server request keys start .applied db) := by
  obtain ⟨known, admitted, subscribed, limited, named, ⟨stored, served, taken⟩, unused, _⟩ :=
    issueStart_ok started
  have applied : issuedStatus settings.fleet true = .ok .applied := by
    rw [issuedStatus, if_pos applies]
    rfl
  unfold issueDevice
  refine bind_eq_ok.mpr ⟨(), require_ok.mpr known, ?_⟩
  refine bind_eq_ok.mpr ⟨(), require_ok.mpr admitted, ?_⟩
  refine bind_eq_ok.mpr ⟨(), require_ok.mpr subscribed, ?_⟩
  refine bind_eq_ok.mpr ⟨(), limited, ?_⟩
  refine bind_eq_ok.mpr ⟨start.serverId, elim_ok.mpr named, ?_⟩
  refine bind_eq_ok.mpr ⟨stored, served, ?_⟩
  refine bind_eq_ok.mpr ⟨(), require_ok.mpr rfl, ?_⟩
  refine bind_eq_ok.mpr ⟨start.address, taken, ?_⟩
  refine bind_eq_ok.mpr ⟨(), require_ok.mpr unused, ?_⟩
  refine bind_eq_ok.mpr ⟨.applied, applied, ?_⟩
  exact bind_eq_ok.mpr ⟨(), require_ok.mpr rfl, rfl⟩

/-- Every later write of the row replaces the former one. -/
theorem issuedRow_twice (first second : ApplyStatus) (db : FleetDb) :
    issuedRow server request keys start second (issuedRow server request keys start first db) =
      issuedRow server request keys start second db :=
  setDevice_twice db request.deviceId _ _

/-- The rows after an issue that returns are those `issueDevice` leaves, and the texts are those of
`issueConfigs`; the new peer is on the node. -/
theorem issue_refines (applies : settings.fleet.appliesPeers = true)
    (noFallback : settings.fleet.issueFallbackOnPeerFailure = false) {configs : ClientConfigs}
    {after : OnNode FleetDb}
    (returned : issueOnNode settings sources answers server redactForLog failures request keys state =
      (.ok configs, after)) :
    issueDevice settings.fleet (request.completed server keys) state.row = .ok after.row ∧
      (∃ address, issueConfigs settings sources answers server (keys.client address) =
        .ok configs) ∧
      keys.publicKey ∈ after.node.keys := by
  cases started : issueStart settings sources answers server request state.row with
  | error error =>
      rw [issue_not_started started] at returned
      cases returned
  | ok start =>
      rw [issue_started applies started] at returned
      obtain ⟨_, between, applied, built⟩ := Raising.bind_eq_ok.mp returned
      obtain ⟨_, error, after, stopped, _⟩ | ⟨_, _, _, error, after, stopped, _⟩ |
        ⟨_, _, _, done⟩ := issuePeer_cases sources server redactForLog failures request keys start
          applies noFallback (onRow (issuedRow server request keys start .created) state)
      · cases stopped.symm.trans applied
      · cases stopped.symm.trans applied
      · obtain ⟨_, rfl⟩ := Prod.mk.inj (done.symm.trans applied)
        obtain ⟨configured, rfl⟩ := Prod.mk.inj built
        obtain ⟨_, _, _, _, _, _, _, keyed, obfuscated, linked⟩ := issueStart_ok started
        refine ⟨?_, ⟨start.address, ?_⟩, mem_setPeer (issuedPeer server keys start) _⟩
        · rw [issueDevice_of_start applies started]
          refine congrArg Except.ok ?_
          change _ = issuedRow server request keys start .applied
            (issuedRow server request keys start .applying
              (issuedRow server request keys start .created state.row))
          rw [issuedRow_twice, issuedRow_twice]
        · unfold issueConfigs
          refine bind_eq_ok.mpr ⟨start.serverKey, fromKey_eq_ok.mpr keyed, ?_⟩
          refine bind_eq_ok.mpr ⟨start.obf, fromProfile_eq_ok.mpr obfuscated, ?_⟩
          exact bind_eq_ok.mpr ⟨start.link, fromProfile_eq_ok.mpr linked, mapError_eq_ok.mp configured⟩

end Outcomes

/-! ### When a failed issue leaves no peer -/

/-- The condition: the issue stops before the peer is added, nothing raises, or the node held the
generated peer already. -/
def issueUndone (settings : IssueSettings) (sources : LiveSources) (answers : RuntimeAnswers)
    (server : IssueServer) (failures : NodeFailures) (request : IssueCall) (keys : GeneratedKeys)
    (state : OnNode FleetDb) : Bool :=
  match issueStart settings sources answers server request state.row with
  | .error _ => true
  | .ok start =>
      sources.adapter.isNone = true ∨ failures.add ≠ none ∨
        (raisesLate failures = none ∧
          (issuedConfigs settings sources answers server keys start).toBool = true) ∨
        state.node.get? keys.publicKey = some (NodeEntry.ofConfig (issuedPeer server keys start))

/-- In docker mode without the fallback an issue that raises leaves the peers of the node alone
exactly when it is undone. -/
theorem failed_issue_keeps_iff (settings : IssueSettings) (sources : LiveSources)
    (answers : RuntimeAnswers) (server : IssueServer) (redactForLog : String → String)
    (failures : NodeFailures) (request : IssueCall) (keys : GeneratedKeys)
    (state : OnNode FleetDb) (real : settings.fleet.nodeMode = .real)
    (docker : settings.fleet.nodeDiscovery = .docker)
    (noFallback : settings.fleet.issueFallbackOnPeerFailure = false) :
    Raising.KeptOnError (fun after => SamePeers after.node state.node)
        (issueOnNode settings sources answers server redactForLog failures request keys state) ↔
      issueUndone settings sources answers server failures request keys state = true := by
  have applies : settings.fleet.appliesPeers = true := by
    rw [FleetSettings.appliesPeers, real, docker]
    rfl
  unfold issueUndone
  cases started : issueStart settings sources answers server request state.row with
  | error error =>
      rw [issue_not_started started]
      exact iff_of_true (Raising.keptOnError_error_iff.mpr (samePeers_refl state.node)) rfl
  | ok start =>
      have added : SamePeers (setPeer (issuedPeer server keys start) state.node) state.node ↔ _ :=
        samePeers_added_iff
      rw [issue_started applies started]
      dsimp only
      rw [decide_eq_true_iff]
      obtain ⟨before, error, after, stopped, sameNode⟩ |
        ⟨adapter, accepted, late, error, after, stopped, withPeer⟩ |
        ⟨adapter, accepted, quiet, applied⟩ := issuePeer_cases sources server redactForLog failures
          request keys start applies noFallback (onRow (issuedRow server request keys start .created)
            state)
      · rw [Raising.bind_run_error stopped, Raising.keptOnError_error_iff, sameNode]
        refine iff_of_true (samePeers_refl state.node) ?_
        obtain missing | refused := before
        · exact Or.inl missing
        · exact Or.inr (Or.inl refused)
      · rw [Raising.bind_run_error stopped, Raising.keptOnError_error_iff, withPeer]
        refine added.trans ?_
        simp [adapter, accepted, late]
        rfl
      · rw [Raising.bind_run_ok applied]
        cases made : issuedConfigs settings sources answers server keys start with
        | ok configs =>
            exact iff_of_true (Raising.keptOnError_ok _ _ _) (Or.inr (Or.inr (Or.inl ⟨quiet, rfl⟩)))
        | error error =>
            refine Raising.keptOnError_error_iff.trans (added.trans ?_)
            simp [adapter, accepted, Except.toBool]
            rfl

def sampleIssueCall : IssueCall := ⟨1, "sub", some "node-1", none, "dev", 10⟩

def emptyNode : OnNode FleetDb := ⟨Dict.empty, smallFleet⟩

/-- A profile the validation refuses, and a second listing that raises, both leave the new peer on
the node. -/
theorem failed_issue_leaves_peer :
    ¬ Raising.KeptOnError (fun after => SamePeers after.node emptyNode.node)
        (issueOnNode sampleIssueSettings sampleLiveSources sampleAnswers
          (sampleIssueServer [("amnezia_jc", .int 200)] false) id noNodeFailures sampleIssueCall
          sampleGeneratedKeys emptyNode) ∧
      ¬ Raising.KeptOnError (fun after => SamePeers after.node emptyNode.node)
        (issueOnNode sampleIssueSettings sampleLiveSources sampleAnswers
          (sampleIssueServer [] false) id { noNodeFailures with ensureList := some "timeout" }
          sampleIssueCall sampleGeneratedKeys emptyNode) := by
  refine ⟨?_, ?_⟩
  · exact Raising.not_keptOnError (by decide +kernel)
      (not_samePeers "key-2" (by decide +kernel))
  · exact Raising.not_keptOnError (by decide +kernel)
      (not_samePeers "key-2" (by decide +kernel))

/-- An add that raises leaves the node as it was, whatever the profile. -/
theorem refused_add_leaves_node :
    Raising.KeptOnError (fun after => SamePeers after.node emptyNode.node)
      (issueOnNode sampleIssueSettings sampleLiveSources sampleAnswers
        (sampleIssueServer [("amnezia_jc", .int 200)] false) id
        { noNodeFailures with add := some "timeout" } sampleIssueCall sampleGeneratedKeys
        emptyNode) :=
  (failed_issue_keeps_iff sampleIssueSettings sampleLiveSources sampleAnswers
    (sampleIssueServer [("amnezia_jc", .int 200)] false) id
    { noNodeFailures with add := some "timeout" } sampleIssueCall sampleGeneratedKeys emptyNode rfl
    rfl rfl).mpr (by decide +kernel)

end VpnSuite.Fleet
