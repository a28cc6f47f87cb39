/-
Rotating a key on a node (`services/admin_issue_service.py`).

`admin_rotate_peer` removes the old peer before it knows whether the configuration is valid and
the new peer can be added.  A failed remove is logged and passed over; a failed add or check of
the new peer puts the old keys back into the row, and nothing puts a peer back on the node.

The row is the one of the session, as the function leaves it.
-/

import VpnSuite.Fleet.FleetInvariants
import VpnSuite.Fleet.NodeCalls

set_option autoImplicit false

namespace VpnSuite.Fleet

open Foundations
open Foundations.PythonText
open VpnSuite.Config
open VpnSuite.ControlPlane (LiveSources adminServerKey)
open VpnSuite.Runtime (PeerConfigLike WireGuardCommandError)

/-! ### The row and the errors -/

/-- The tables, and the `config_amnezia_hash` of the device that is rotated. -/
structure RotationRow where
  db : FleetDb
  configHash : Option String

/-- The digest in hexadecimal digits, the redaction and the encoding of a configuration as a
key, which may raise. -/
structure TextFunctions where
  sha256 : String → String
  redactForLog : String → String
  encodeVpnKey : String → Except String String

namespace RotationRow

/-- Assignments to columns of a device of the session. -/
def onDevice (id : String) (change : Device → Device) (row : RotationRow) : RotationRow :=
  match row.db.devices.get? id with
  | none => row
  | some device => { row with db := row.db.setDevice id (change device) }

end RotationRow

/-! ### `admin_rotate_peer` -/

section Rotation

variable (settings : IssueSettings) (sources : LiveSources) (answers : RuntimeAnswers)
  (server : IssueServer) (texts : TextFunctions) (failures : NodeFailures)
  (serverId peerId : String) (keys : GeneratedKeys)

def rotatedPresharedKey : String := clientPresharedKey server keys.presharedKey

/-- The request of a rotation that nothing stops. -/
def rotationRequest : RotateRequest :=
  { serverId := serverId
    peerId := peerId
    publicKey := keys.publicKey
    presharedKey := some (rotatedPresharedKey server keys)
    keyVerified := true
    peerApplied := true
    configValid := true }

structure RotationStart where
  device : Device
  stored : Server
  serverKey : String
  link : LinkSettings

/-- Up to the remove: the rows, the key of the server and the settings of the link. -/
def rotationStart (db : FleetDb) : Except IssuePathError RotationStart := do
  let device ← (rotatedDevice (rotationRequest server serverId peerId keys) db).elim
    (.error (.refused .peerNotFound)) .ok
  let stored ← (db.servers.get? serverId).elim (.error (.refused .serverNotAvailable)) .ok
  let serverKey ← (fromKey (adminServerKey settings.fleet sources server.row)).mapError .config
  demand (!stored.isDraining) (.refused .serverDraining)
  demand (!(settings.fleet.appliesPeers && sources.adapter.isNone)) (.command
    ⟨"Runtime adapter required for reissue when NODE_MODE=real; peer would not be applied on node.",
      "reissue", "node_runtime_adapter is None"⟩)
  let link ← (fromProfile (linkSettings server)).mapError .config
  .ok ⟨device, stored, serverKey, link⟩

structure RotationConfigs where
  address : String
  configs : ClientConfigs

/-- Between the remove and the row: the obfuscation, the address and the configurations. -/
def rotationConfigs (start : RotationStart) (db : FleetDb) : Except IssuePathError RotationConfigs := do
  let obf ← (fromProfile (clientObfuscation settings sources answers server)).mapError .config
  let address ← (rotatedAddress start.stored start.device db).mapError .refused
  let configs ← (fromProfile (builtConfigs settings sources answers server start.serverKey
    fullTunnel start.link obf (keys.client address))).mapError .config
  .ok ⟨address, configs⟩

/-- `_config_hash`. -/
def rotatedHash (publicKey privateKey : String) : String :=
  slice 64 (texts.sha256 (publicKey ++ ":" ++ privateKey))

def writeRotated (address : String) (row : RotationRow) : RotationRow :=
  { row.onDevice peerId (fun device =>
      { device with
        publicKey := keys.publicKey
        allowedIps := some address
        presharedKey := some (rotatedPresharedKey server keys) }) with
    configHash := some (rotatedHash texts keys.publicKey keys.publicKey) }

/-- The undo after a failed add: the address stays, and the digest is of the key alone. -/
def undoRotated (old : Device) (row : RotationRow) : RotationRow :=
  { row.onDevice peerId (fun device =>
      { device with publicKey := old.publicKey, presharedKey := old.presharedKey }) with
    configHash := some (slice 64 (texts.sha256 (old.publicKey ++ ":"))) }

def applyRotated (row : RotationRow) : RotationRow :=
  row.onDevice peerId (fun device => { device with applyStatus := .applied })

/-- The steps that take place only where the control plane writes the node and has an adapter. -/
def whenReached (program : Raising (OnNode RotationRow) IssuePathError Unit) :
    Raising (OnNode RotationRow) IssuePathError Unit :=
  if settings.fleet.appliesPeers && sources.adapter.isSome then program else pure ()

def removeRotated (old : Device) : Raising (OnNode RotationRow) IssuePathError Unit :=
  .attempt (removeNodePeer failures.remove old.publicKey) (fun _ => pure ())

/-- The peer a rotation adds. -/
def rotatedPeer (address : String) : PeerConfigLike :=
  serverPeer keys.publicKey address (rotatedPresharedKey server keys)

def addAndVerifyRotated (address : String) : Raising (OnNode RotationRow) NodeCallError Unit :=
  addAndVerify failures
    "Node peer creation verification failed after rotate (peer missing after add)"
    (rotatedPeer server keys address)

def ensureRotated (address : String) : Raising (OnNode RotationRow) IssuePathError Unit :=
  .attempt (ensureDevicePeerOnNode failures keys.publicKey address (rotatedPresharedKey server keys))
    (fun error => .raise (.node error))

def addRotated (old : Device) (address : String) : Raising (OnNode RotationRow) IssuePathError Unit := do
  .attempt (addAndVerifyRotated server failures keys address) (fun error => do
    .write (onRow (undoRotated texts peerId old))
    .raise (.command ⟨"Node peer add failed after rotate", "wg set",
      texts.redactForLog error.text⟩))
  ensureRotated server failures keys address
  .write (onRow (applyRotated peerId))

/-- What follows the remove. -/
def finishRotation (start : RotationStart) :
    Raising (OnNode RotationRow) IssuePathError (ClientConfigs × String) := do
  let built ← .query (fun state => rotationConfigs settings sources answers server keys start
    state.row.db)
  .write (onRow (writeRotated server texts peerId keys built.address))
  whenReached settings sources (addRotated server texts failures peerId keys start.device
    built.address)
  let vpnKey ← .query (fun _ => (texts.encodeVpnKey built.configs.awg).mapError .encoding)
  pure (built.configs, vpnKey)

/-- `admin_rotate_peer`, with the configurations and the key of the first. -/
def adminRotateOnNode : Raising (OnNode RotationRow) IssuePathError (ClientConfigs × String) := do
  let start ← .query (fun state => rotationStart settings sources server serverId peerId keys
    state.row.db)
  whenReached settings sources (removeRotated failures start.device)
  finishRotation settings sources answers server texts failures peerId keys start

end Rotation

/-! ### What a rotation does -/

section Outcomes

variable {settings : IssueSettings} {sources : LiveSources} {answers : RuntimeAnswers}
  {server : IssueServer} {texts : TextFunctions} {failures : NodeFailures}
  {serverId peerId : String} {keys : GeneratedKeys} {start : RotationStart}
  {built : RotationConfigs} {state : OnNode RotationRow}

/-- A start that succeeds where the control plane writes the node has an adapter. -/
theorem rotationStart_ok {db : FleetDb}
    (started : rotationStart settings sources server serverId peerId keys db = .ok start) :
    rotatedDevice (rotationRequest server serverId peerId keys) db = some start.device ∧
      db.servers.get? serverId = some start.stored ∧
      adminServerKey settings.fleet sources server.row = .ok start.serverKey ∧
      start.stored.isDraining = false ∧
      (settings.fleet.appliesPeers = true → sources.adapter.isSome = true) ∧
      linkSettings server = .ok start.link := by
  obtain ⟨device, found, step⟩ := bind_eq_ok.mp started
  obtain ⟨stored, served, step⟩ := bind_eq_ok.mp step
  obtain ⟨serverKey, keyed, step⟩ := bind_eq_ok.mp step
  obtain ⟨_, open_, step⟩ := bind_eq_ok.mp step
  obtain ⟨_, adapted, step⟩ := bind_eq_ok.mp step
  obtain ⟨link, linked, step⟩ := bind_eq_ok.mp step
  obtain rfl := Except.ok.inj step
  refine ⟨elim_ok.mp found, elim_ok.mp served, fromKey_eq_ok.mp (mapError_eq_ok.mp keyed), ?_, ?_,
    fromProfile_eq_ok.mp (mapError_eq_ok.mp linked)⟩
  · simpa using demand_ok.mp open_
  · intro applies
    have present := demand_ok.mp adapted
    rw [applies, Bool.true_and, Bool.not_eq_true', Option.isNone_eq_false_iff] at present
    exact present

theorem whenReached_eq (program : Raising (OnNode RotationRow) IssuePathError Unit)
    (reached : settings.fleet.appliesPeers = true) (adapter : sources.adapter.isSome = true) :
    whenReached settings sources program = program := by
  rw [whenReached, reached, adapter]
  rfl

theorem removeRotated_run (old : Device) (state : OnNode RotationRow) :
    removeRotated failures old state =
      (.ok (), onPeers (afterRemoval failures old.publicKey) state) := by
  unfold removeRotated removeNodePeer afterRemoval
  cases failures.remove with
  | some text => rfl
  | none => rfl

/-- A failed add or check gives the old keys back to the row. -/
theorem addRotated_failed {error : NodeCallError} {old : Device} {address : String}
    {after : OnNode RotationRow}
    (failed : addAndVerifyRotated server failures keys address state = (.error error, after)) :
    addRotated server texts failures peerId keys old address state =
      (.error (.command ⟨"Node peer add failed after rotate", "wg set",
        texts.redactForLog error.text⟩), onRow (undoRotated texts peerId old) after) := by
  unfold addRotated
  exact Raising.bind_run_error (Raising.attempt_run_error failed)

section Added

variable (address : String) (state : OnNode RotationRow)

theorem rotated_peer_added (added : failures.add = none) :
    addAndVerifyRotated server failures keys address state =
      (callEnd failures.list, onPeers (setPeer (rotatedPeer server keys address)) state) := by
  have bare : strip (rotatedPeer server keys address).publicKey =
      (rotatedPeer server keys address).publicKey := keys.bare
  unfold addAndVerifyRotated
  exact addAndVerify_added bare added state

theorem addRotated_unlisted (added : failures.add = none) {text : String}
    (raised : failures.list = some text) (old : Device) :
    addRotated server texts failures peerId keys old address state =
      (.error (.command ⟨"Node peer add failed after rotate", "wg set", texts.redactForLog text⟩),
        onRow (undoRotated texts peerId old)
          (onPeers (setPeer (rotatedPeer server keys address)) state)) := by
  have verified : addAndVerifyRotated server failures keys address state = _ :=
    rotated_peer_added address state added
  rw [raised] at verified
  exact addRotated_failed verified

/-- Once the new peer is there, only `_ensure_device_peer_on_node` can raise. -/
theorem addRotated_late (added : failures.add = none) (listed : failures.list = none) {text : String}
    (raised : (failures.ensureList <|> failures.replyRoutes) = some text) (old : Device) :
    addRotated server texts failures peerId keys old address state =
      (.error (.node (.adapter text)),
        onPeers (setPeer (rotatedPeer server keys address)) state) := by
  have verified : addAndVerifyRotated server failures keys address state = _ :=
    rotated_peer_added address state added
  have ensured : ensureDevicePeerOnNode failures keys.publicKey address
    (rotatedPresharedKey server keys) _ = _ := ensureDevicePeerOnNode_added keys.bare state
  rw [listed] at verified
  rw [raised] at ensured
  unfold addRotated
  rw [Raising.bind_run_ok (Raising.attempt_run_ok verified)]
  exact Raising.bind_run_error (Raising.attempt_run_error ensured)

theorem addRotated_done (added : failures.add = none) (listed : failures.list = none)
    (ended : (failures.ensureList <|> failures.replyRoutes) = none) (old : Device) :
    addRotated server texts failures peerId keys old address state =
      (.ok (), onRow (applyRotated peerId)
        (onPeers (setPeer (rotatedPeer server keys address)) state)) := by
  have verified : addAndVerifyRotated server failures keys address state = _ :=
    rotated_peer_added address state added
  have ensured : ensureDevicePeerOnNode failures keys.publicKey address
    (rotatedPresharedKey server keys) _ = _ := ensureDevicePeerOnNode_added keys.bare state
  rw [listed] at verified
  rw [ended] at ensured
  unfold addRotated
  rw [Raising.bind_run_ok (Raising.attempt_run_ok verified)]
  exact Raising.bind_run_ok (Raising.attempt_run_ok ensured)

end Added

/-! ### The whole rotation -/

variable (settings sources answers server texts failures serverId peerId keys) in
theorem rotation_not_started {error : IssuePathError}
    (stopped : rotationStart settings sources server serverId peerId keys state.row.db =
      .error error) :
    adminRotateOnNode settings sources answers server texts failures serverId peerId keys state =
      (.error error, state) := by
  unfold adminRotateOnNode
  exact Raising.bind_run_error (congrArg (fun result => (result, state)) stopped)

/-- A rotation that starts removes the old peer first. -/
theorem rotation_started (applies : settings.fleet.appliesPeers = true)
    (started : rotationStart settings sources server serverId peerId keys state.row.db =
      .ok start) :
    adminRotateOnNode settings sources answers server texts failures serverId peerId keys state =
      finishRotation settings sources answers server texts failures peerId keys start
        (onPeers (afterRemoval failures start.device.publicKey) state) := by
  obtain ⟨_, _, _, _, adapted, _⟩ := rotationStart_ok started
  have answered : Raising.query (fun state : OnNode RotationRow => rotationStart settings sources
      server serverId peerId keys state.row.db) state = (.ok start, state) :=
    congrArg (fun result => (result, state)) started
  unfold adminRotateOnNode
  rw [Raising.bind_run_ok answered, whenReached_eq _ applies (adapted applies),
    Raising.bind_run_ok (removeRotated_run start.device state)]

theorem finish_refused {error : IssuePathError}
    (stopped : rotationConfigs settings sources answers server keys start state.row.db =
      .error error) :
    finishRotation settings sources answers server texts failures peerId keys start state =
      (.error error, state) := by
  unfold finishRotation
  exact Raising.bind_run_error (congrArg (fun result => (result, state)) stopped)

section Built

variable (applies : settings.fleet.appliesPeers = true) (adapter : sources.adapter.isSome = true)
  (made : rotationConfigs settings sources answers server keys start state.row.db = .ok built)

include applies adapter made

/-- After the row is written, the peer is added and the key is encoded. -/
theorem finish_built :
    finishRotation settings sources answers server texts failures peerId keys start state =
      (do
        addRotated server texts failures peerId keys start.device built.address
        let vpnKey ← .query (fun _ => (texts.encodeVpnKey built.configs.awg).mapError .encoding)
        pure (built.configs, vpnKey))
      (onRow (writeRotated server texts peerId keys built.address) state) := by
  have answered : Raising.query (fun state : OnNode RotationRow => rotationConfigs settings sources
      answers server keys start state.row.db) state = (.ok built, state) :=
    congrArg (fun result => (result, state)) made
  unfold finishRotation
  rw [Raising.bind_run_ok answered, whenReached_eq _ applies adapter]
  rfl

theorem finish_not_added {error : IssuePathError} {after : OnNode RotationRow}
    (failed : addRotated server texts failures peerId keys start.device built.address
      (onRow (writeRotated server texts peerId keys built.address) state) = (.error error, after)) :
    finishRotation settings sources answers server texts failures peerId keys start state =
      (.error error, after) := by
  rw [finish_built applies adapter made]
  exact Raising.bind_run_error failed

theorem finish_added {after : OnNode RotationRow}
    (added : addRotated server texts failures peerId keys start.device built.address
      (onRow (writeRotated server texts peerId keys built.address) state) = (.ok (), after)) :
    finishRotation settings sources answers server texts failures peerId keys start state =
      (((texts.encodeVpnKey built.configs.awg).mapError .encoding).map (fun vpnKey =>
        (built.configs, vpnKey)), after) := by
  rw [finish_built applies adapter made, Raising.bind_run_ok added]
  cases encoded : texts.encodeVpnKey built.configs.awg with
  | error text =>
      exact Raising.bind_run_error (Prod.ext rfl rfl)
  | ok vpnKey =>
      exact Raising.bind_run_ok (Prod.ext rfl rfl)

variable (texts) in
/-- How the rest of a rotation ends: a failed add or check gives the old keys back to the row, a
later failure leaves the new ones. -/
theorem finish_cases :
    let peer := rotatedPeer server keys built.address
    let written := writeRotated server texts peerId keys built.address state.row
    let undone := undoRotated texts peerId start.device written
    let ended := finishRotation settings sources answers server texts failures peerId keys start state
    (failures.add ≠ none ∧ ∃ error, ended = (.error error, ⟨state.node, undone⟩)) ∨
    (failures.add = none ∧ failures.list ≠ none ∧
      ∃ error, ended = (.error error, ⟨setPeer peer state.node, undone⟩)) ∨
    (failures.add = none ∧ failures.list = none ∧
      (failures.ensureList <|> failures.replyRoutes) ≠ none ∧
      ∃ error, ended = (.error error, ⟨setPeer peer state.node, written⟩)) ∨
    failures.add = none ∧ failures.list = none ∧
      (failures.ensureList <|> failures.replyRoutes) = none ∧
      ended = (((texts.encodeVpnKey built.configs.awg).mapError .encoding).map (fun vpnKey =>
        (built.configs, vpnKey)), ⟨setPeer peer state.node, applyRotated peerId written⟩) := by
  intro peer written undone ended
  cases added : failures.add with
  | some text =>
      exact Or.inl ⟨Option.some_ne_none text, _, finish_not_added applies adapter made
        (addRotated_failed (addAndVerify_refused added _ _ _))⟩
  | none =>
      right
      cases listed : failures.list with
      | some text =>
          exact Or.inl ⟨rfl, Option.some_ne_none text, _, finish_not_added applies adapter made
            (addRotated_unlisted _ _ added listed _)⟩
      | none =>
          right
          cases late : failures.ensureList <|> failures.replyRoutes with
          | some text =>
              exact Or.inl ⟨rfl, rfl, Option.some_ne_none text, _,
                finish_not_added applies adapter made (addRotated_late _ _ added listed late _)⟩
          | none =>
              exact Or.inr ⟨rfl, rfl, rfl,
                finish_added applies adapter made (addRotated_done _ _ added listed late _)⟩

end Built

end Outcomes

/-! ### What a rotation keeps -/

def rotatedColumns (device : Device) : String × Option String × Option String :=
  (device.publicKey, device.presharedKey, device.allowedIps)

/-- The peers of the node and the columns of the device are what they were. -/
structure RotationKept (peerId : String) (before after : OnNode RotationRow) : Prop where
  node : SamePeers after.node before.node
  columns : (after.row.db.devices.get? peerId).map rotatedColumns =
    (before.row.db.devices.get? peerId).map rotatedColumns
  configHash : after.row.configHash = before.row.configHash

theorem RotationKept.refl (peerId : String) (state : OnNode RotationRow) :
    RotationKept peerId state state := ⟨samePeers_refl state.node, rfl, rfl⟩

/-- The row holds what the undo writes: the address was there, and the digest is that of the old
key alone. -/
def UndoneAlike (texts : TextFunctions) (old : Device) (address : String) (row : RotationRow) :
    Prop :=
  old.allowedIps = some address ∧
    row.configHash = some (slice 64 (texts.sha256 (old.publicKey ++ ":")))

/-- The row holds what the rotation writes. -/
def WrittenAlike (server : IssueServer) (texts : TextFunctions) (keys : GeneratedKeys)
    (old : Device) (address : String) (row : RotationRow) : Prop :=
  rotatedColumns old = (keys.publicKey, some (rotatedPresharedKey server keys), some address) ∧
    row.configHash = some (rotatedHash texts keys.publicKey keys.publicKey)

section Rows

variable {server : IssueServer} {texts : TextFunctions} {peerId : String} {keys : GeneratedKeys}
  {old : Device} {address : String} {row : RotationRow}

theorem onDevice_get? (change : Device → Device) :
    (row.onDevice peerId change).db.devices.get? peerId =
      (row.db.devices.get? peerId).map change := by
  unfold RotationRow.onDevice
  cases found : row.db.devices.get? peerId with
  | none => exact found
  | some device => exact (Dict.get?_set ..).trans (if_pos rfl)

theorem onDevice_db {device : Device} (found : row.db.devices.get? peerId = some device)
    (change : Device → Device) :
    (row.onDevice peerId change).db = row.db.setDevice peerId (change device) := by
  unfold RotationRow.onDevice
  rw [found]

theorem onDevice_configHash (change : Device → Device) :
    (row.onDevice peerId change).configHash = row.configHash := by
  unfold RotationRow.onDevice
  split <;> rfl

theorem written_columns (found : row.db.devices.get? peerId = some old) :
    ((writeRotated server texts peerId keys address row).db.devices.get? peerId).map
        rotatedColumns =
      some (keys.publicKey, some (rotatedPresharedKey server keys), some address) := by
  change ((row.onDevice peerId _).db.devices.get? peerId).map rotatedColumns = _
  rw [onDevice_get?, found]
  rfl

theorem undone_columns (found : row.db.devices.get? peerId = some old) :
    ((undoRotated texts peerId old (writeRotated server texts peerId keys address row)).db.devices.get?
        peerId).map rotatedColumns = some (old.publicKey, old.presharedKey, some address) := by
  change (((writeRotated server texts peerId keys address row).onDevice peerId _).db.devices.get?
    peerId).map rotatedColumns = _
  rw [onDevice_get?]
  change (((row.onDevice peerId _).db.devices.get? peerId).map _).map rotatedColumns = _
  rw [onDevice_get?, found]
  rfl

theorem applied_columns :
    ((applyRotated peerId row).db.devices.get? peerId).map rotatedColumns =
      (row.db.devices.get? peerId).map rotatedColumns := by
  rw [applyRotated, onDevice_get?, Option.map_map]
  rfl

/-- The tables after the row is written and marked as applied. -/
theorem rotated_db (found : row.db.devices.get? peerId = some old) :
    (applyRotated peerId (writeRotated server texts peerId keys address row)).db =
      row.db.setDevice peerId
        { old with
          publicKey := keys.publicKey
          allowedIps := some address
          presharedKey := some (rotatedPresharedKey server keys)
          applyStatus := .applied } := by
  have written : (writeRotated server texts peerId keys address row).db.devices.get? peerId =
      some { old with
        publicKey := keys.publicKey
        allowedIps := some address
        presharedKey := some (rotatedPresharedKey server keys) } := by
    change (row.onDevice peerId _).db.devices.get? peerId = _
    rw [onDevice_get?, found]
    rfl
  rw [applyRotated, onDevice_db written]
  change ((row.onDevice peerId _).db).setDevice peerId _ = _
  rw [onDevice_db found, setDevice_twice]

/-- Whether a state is kept can be read off the columns and the digest it holds. -/
theorem kept_iff {before after : OnNode RotationRow} {columns : String × Option String × Option String}
    {digest : String} (found : before.row.db.devices.get? peerId = some old)
    (held : (after.row.db.devices.get? peerId).map rotatedColumns = some columns)
    (hashed : after.row.configHash = some digest) :
    RotationKept peerId before after ↔
      SamePeers after.node before.node ∧ rotatedColumns old = columns ∧
        before.row.configHash = some digest := by
  constructor
  · rintro ⟨node, sameColumns, sameHash⟩
    rw [held, found] at sameColumns
    exact ⟨node, (Option.some.inj sameColumns).symm, sameHash.symm.trans hashed⟩
  · rintro ⟨node, sameColumns, sameHash⟩
    refine ⟨node, ?_, hashed.trans sameHash.symm⟩
    rw [held, found, ← sameColumns]
    rfl

theorem undone_kept_iff {before after : OnNode RotationRow}
    (found : before.row.db.devices.get? peerId = some old)
    (undone : after.row =
      undoRotated texts peerId old (writeRotated server texts peerId keys address before.row)) :
    RotationKept peerId before after ↔
      SamePeers after.node before.node ∧ UndoneAlike texts old address before.row := by
  have held : (after.row.db.devices.get? peerId).map rotatedColumns =
      some (old.publicKey, old.presharedKey, some address) := by
    rw [undone]
    exact undone_columns found
  have hashed : after.row.configHash = some (slice 64 (texts.sha256 (old.publicKey ++ ":"))) := by
    rw [undone]
    rfl
  rw [kept_iff found held hashed, UndoneAlike]
  simp [rotatedColumns]

theorem written_kept_iff {before after : OnNode RotationRow}
    (found : before.row.db.devices.get? peerId = some old)
    (written : after.row = writeRotated server texts peerId keys address before.row ∨
      after.row = applyRotated peerId (writeRotated server texts peerId keys address before.row)) :
    RotationKept peerId before after ↔
      SamePeers after.node before.node ∧ WrittenAlike server texts keys old address before.row := by
  have held : (after.row.db.devices.get? peerId).map rotatedColumns =
      some (keys.publicKey, some (rotatedPresharedKey server keys), some address) := by
    obtain isWritten | isApplied := written
    · rw [isWritten]
      exact written_columns found
    · rw [isApplied, applied_columns]
      exact written_columns found
  have hashed : after.row.configHash = some (rotatedHash texts keys.publicKey keys.publicKey) := by
    obtain isWritten | isApplied := written
    · rw [isWritten]
      rfl
    · rw [isApplied]
      exact onDevice_configHash _
  exact kept_iff found held hashed

end Rows

/-! ### When a failed rotation changes nothing -/

section Condition

variable (settings : IssueSettings) (sources : LiveSources) (answers : RuntimeAnswers)
  (server : IssueServer) (texts : TextFunctions) (failures : NodeFailures)
  (serverId peerId : String) (keys : GeneratedKeys) (state : OnNode RotationRow)

instance (old : Device) (address : String) (row : RotationRow) :
    Decidable (UndoneAlike texts old address row) := inferInstanceAs (Decidable (_ ∧ _))

instance (old : Device) (address : String) (row : RotationRow) :
    Decidable (WrittenAlike server texts keys old address row) :=
  inferInstanceAs (Decidable (_ ∧ _))

/-- No call after the check of the new peer raises, and the key can be encoded. -/
def nothingLate (built : RotationConfigs) : Bool :=
  (failures.ensureList <|> failures.replyRoutes).isNone &&
    (texts.encodeVpnKey built.configs.awg).toBool

/-- Once the configurations are built: without an effect of the remove, a failed add is undone if
the row looks like the undo; later failures are harmless only if the new peer and the row they
leave were there before. -/
def addingUndone (old : Device) (built : RotationConfigs) : Bool :=
  if failures.add ≠ none then
    RemovalLeaves failures old.publicKey state.node ∧ UndoneAlike texts old built.address state.row
  else if failures.list ≠ none then
    PeerWasThere failures old.publicKey (rotatedPeer server keys built.address) state.node ∧
      UndoneAlike texts old built.address state.row
  else nothingLate texts failures built = true ∨
    PeerWasThere failures old.publicKey (rotatedPeer server keys built.address) state.node ∧
      WrittenAlike server texts keys old built.address state.row

/-- The condition: the rotation stops before the remove, or the remove has no effect and the
configurations are refused, or the adding is harmless. -/
def rotationUndone : Bool :=
  match rotationStart settings sources server serverId peerId keys state.row.db with
  | .error _ => true
  | .ok start =>
      match rotationConfigs settings sources answers server keys start state.row.db with
      | .error _ => RemovalLeaves failures start.device.publicKey state.node
      | .ok built => addingUndone server texts failures keys state start.device built

end Condition

section Judged

variable {settings : IssueSettings} {sources : LiveSources} {answers : RuntimeAnswers}
  {server : IssueServer} {texts : TextFunctions} {failures : NodeFailures}
  {serverId peerId : String} {keys : GeneratedKeys} {start : RotationStart}
  {built : RotationConfigs} {state : OnNode RotationRow}

theorem adding_keeps_iff (applies : settings.fleet.appliesPeers = true)
    (adapter : sources.adapter.isSome = true)
    (made : rotationConfigs settings sources answers server keys start state.row.db = .ok built)
    (found : state.row.db.devices.get? peerId = some start.device) :
    Raising.KeptOnError (RotationKept peerId state)
        (finishRotation settings sources answers server texts failures peerId keys start
          (onPeers (afterRemoval failures start.device.publicKey) state)) ↔
      addingUndone server texts failures keys state start.device built = true := by
  have replaced : SamePeers (setPeer (rotatedPeer server keys built.address)
      (afterRemoval failures start.device.publicKey state.node)) state.node ↔
        PeerWasThere failures start.device.publicKey (rotatedPeer server keys built.address)
          state.node := samePeers_replaced_iff
  have madeThere : rotationConfigs settings sources answers server keys start
      (onPeers (afterRemoval failures start.device.publicKey) state).row.db = .ok built := made
  unfold addingUndone
  obtain ⟨refused, error, ended⟩ | ⟨added, unlisted, error, ended⟩ |
    ⟨added, listed, late, error, ended⟩ | ⟨added, listed, late, ended⟩ :=
      finish_cases texts applies adapter madeThere
  · rw [ended, Raising.keptOnError_error_iff, undone_kept_iff found rfl, if_pos refused,
      decide_eq_true_iff]
    exact and_congr_left' samePeers_removal_iff
  · rw [ended, Raising.keptOnError_error_iff, undone_kept_iff found rfl,
      if_neg (not_not_intro added), if_pos unlisted, decide_eq_true_iff]
    exact and_congr_left' replaced
  · have raisesLate : nothingLate texts failures built = false := by
      rw [nothingLate, Option.isNone_eq_false_iff.mpr (Option.isSome_iff_ne_none.mpr late),
        Bool.false_and]
    rw [ended, Raising.keptOnError_error_iff, written_kept_iff found (Or.inl rfl),
      if_neg (not_not_intro added), if_neg (not_not_intro listed), decide_eq_true_iff, raisesLate]
    exact (and_congr_left' replaced).trans (or_iff_right Bool.false_ne_true).symm
  · rw [ended, if_neg (not_not_intro added), if_neg (not_not_intro listed), decide_eq_true_iff,
      nothingLate, late]
    cases encoded : texts.encodeVpnKey built.configs.awg with
    | ok vpnKey => exact iff_of_true (Raising.keptOnError_ok _ _ _) (Or.inl rfl)
    | error text =>
        refine Raising.keptOnError_error_iff.trans ?_
        rw [written_kept_iff found (Or.inr rfl)]
        exact (and_congr_left' replaced).trans (or_iff_right Bool.false_ne_true).symm

/-! ### A rotation that returns -/

/-- The steps of a rotation that returns. -/
theorem rotation_ok (applies : settings.fleet.appliesPeers = true) {result : ClientConfigs × String}
    {after : OnNode RotationRow}
    (returned : adminRotateOnNode settings sources answers server texts failures serverId peerId keys
      state = (.ok result, after)) :
    ∃ start built,
      rotationStart settings sources server serverId peerId keys state.row.db = .ok start ∧
      rotationConfigs settings sources answers server keys start state.row.db = .ok built ∧
      result.1 = built.configs ∧
      after =
        { node := setPeer (rotatedPeer server keys built.address)
            (afterRemoval failures start.device.publicKey state.node)
          row := applyRotated peerId (writeRotated server texts peerId keys built.address
            state.row) } := by
  cases started : rotationStart settings sources server serverId peerId keys state.row.db with
  | error error =>
      rw [rotation_not_started settings sources answers server texts failures serverId peerId keys
        started] at returned
      cases returned
  | ok start =>
      obtain ⟨_, _, _, _, adapted, _⟩ := rotationStart_ok started
      rw [rotation_started applies started] at returned
      cases made : rotationConfigs settings sources answers server keys start
          (onPeers (afterRemoval failures start.device.publicKey) state).row.db with
      | error error =>
          rw [finish_refused made] at returned
          cases returned
      | ok built =>
          refine ⟨start, built, rfl, made, ?_⟩
          obtain ⟨_, error, ended⟩ | ⟨_, _, error, ended⟩ | ⟨_, _, _, error, ended⟩ |
            ⟨_, _, _, ended⟩ := finish_cases texts applies (adapted applies) made
          · cases ended.symm.trans returned
          · cases ended.symm.trans returned
          · cases ended.symm.trans returned
          · obtain ⟨answer, rfl⟩ := Prod.mk.inj (ended.symm.trans returned)
            refine ⟨?_, rfl⟩
            cases encoded : texts.encodeVpnKey built.configs.awg with
            | error text =>
                rw [encoded] at answer
                cases answer
            | ok vpnKey =>
                rw [encoded] at answer
                obtain rfl := Except.ok.inj answer
                rfl

/-- The rows after a rotation that returns are those `adminRotatePeer` leaves, and the texts are
those of `rotateConfigs`; the new peer is on the node. -/
theorem rotation_refines (applies : settings.fleet.appliesPeers = true)
    {result : ClientConfigs × String} {after : OnNode RotationRow}
    (returned : adminRotateOnNode settings sources answers server texts failures serverId peerId keys
      state = (.ok result, after)) :
    adminRotatePeer settings.fleet (rotationRequest server serverId peerId keys) state.row.db =
        .ok after.row.db ∧
      (∃ address, rotateConfigs settings sources answers server (keys.client address) =
        .ok result.1) ∧
      keys.publicKey ∈ after.node.keys := by
  obtain ⟨start, built, started, made, sameConfigs, rfl⟩ := rotation_ok applies returned
  obtain ⟨looked, served, keyed, accepting, _, linked⟩ := rotationStart_ok started
  obtain ⟨obf, obfuscated, step⟩ := bind_eq_ok.mp made
  obtain ⟨address, addressed, step⟩ := bind_eq_ok.mp step
  obtain ⟨configs, configured, step⟩ := bind_eq_ok.mp step
  obtain rfl := Except.ok.inj step
  refine ⟨?_, ⟨address, ?_⟩, mem_setPeer _ _⟩
  · have found : state.row.db.devices.get? peerId = some start.device :=
      (Option.filter_eq_some_iff.mp looked).1
    have open_ : (!start.stored.isDraining) = true := by rw [accepting, Bool.not_false]
    unfold adminRotatePeer
    refine bind_eq_ok.mpr ⟨start.device, elim_ok.mpr looked, ?_⟩
    refine bind_eq_ok.mpr ⟨start.stored, elim_ok.mpr served, ?_⟩
    refine bind_eq_ok.mpr ⟨(), require_ok.mpr rfl, ?_⟩
    refine bind_eq_ok.mpr ⟨(), require_ok.mpr open_, ?_⟩
    refine bind_eq_ok.mpr ⟨address, mapError_eq_ok.mp addressed, ?_⟩
    refine bind_eq_ok.mpr ⟨(), require_ok.mpr rfl, ?_⟩
    refine bind_eq_ok.mpr ⟨(), require_ok.mpr (Bool.or_true _), ?_⟩
    rw [if_pos applies]
    exact congrArg Except.ok (rotated_db found).symm
  · rw [sameConfigs]
    unfold rotateConfigs
    refine bind_eq_ok.mpr ⟨start.serverKey, fromKey_eq_ok.mpr keyed, ?_⟩
    refine bind_eq_ok.mpr ⟨start.link, fromProfile_eq_ok.mpr linked, ?_⟩
    exact bind_eq_ok.mpr ⟨obf, mapError_eq_ok.mp obfuscated, mapError_eq_ok.mp configured⟩

end Judged

/-- In docker mode a rotation that raises keeps the node and the columns of the device exactly
when it is undone. -/
theorem failed_rotation_keeps_iff (settings : IssueSettings) (sources : LiveSources)
    (answers : RuntimeAnswers) (server : IssueServer) (texts : TextFunctions)
    (failures : NodeFailures) (serverId peerId : String) (keys : GeneratedKeys)
    (state : OnNode RotationRow) (real : settings.fleet.nodeMode = .real)
    (docker : settings.fleet.nodeDiscovery = .docker) :
    Raising.KeptOnError (RotationKept peerId state)
        (adminRotateOnNode settings sources answers server texts failures serverId peerId keys
          state) ↔
      rotationUndone settings sources answers server texts failures serverId peerId keys state =
        true := by
  have applies : settings.fleet.appliesPeers = true := by
    rw [FleetSettings.appliesPeers, real, docker]
    rfl
  unfold rotationUndone
  cases started : rotationStart settings sources server serverId peerId keys state.row.db with
  | error error =>
      rw [rotation_not_started settings sources answers server texts failures serverId peerId keys
        started]
      exact iff_of_true (Raising.keptOnError_error_iff.mpr (RotationKept.refl peerId state)) rfl
  | ok start =>
      obtain ⟨looked, _, _, _, adapted, _⟩ := rotationStart_ok started
      have found : state.row.db.devices.get? peerId = some start.device :=
        (Option.filter_eq_some_iff.mp looked).1
      rw [rotation_started applies started]
      dsimp only
      cases made : rotationConfigs settings sources answers server keys start state.row.db with
      | error error =>
          have madeThere : rotationConfigs settings sources answers server keys start
              (onPeers (afterRemoval failures start.device.publicKey) state).row.db =
                .error error := made
          rw [finish_refused madeThere, Raising.keptOnError_error_iff]
          dsimp only
          rw [decide_eq_true_iff, ← samePeers_removal_iff]
          constructor
          · rintro ⟨node, _, _⟩
            exact node
          · intro node
            exact ⟨node, rfl, rfl⟩
      | ok built => exact adding_keeps_iff applies (adapted applies) made found

/-- The peer of `dev` stands on the node as the row has it. -/
def sampleOnNode : OnNode RotationRow :=
  { node := Dict.ofList [("key-1", ⟨"10.8.1.2/32", some "psk-1"⟩)]
    row := ⟨smallFleet.setDevice "dev" { movedDevice with serverId := "node-1" }, some "digest"⟩ }

def sampleTexts : TextFunctions := ⟨id, id, fun text => .ok text⟩

/-- A profile the validation refuses, and an add that raises, both cost the device its peer. -/
theorem failed_rotation_loses_peer :
    ¬ Raising.KeptOnError (RotationKept "dev" sampleOnNode)
        (adminRotateOnNode sampleIssueSettings sampleLiveSources sampleAnswers
          (sampleIssueServer [("amnezia_jc", .int 200)] false) sampleTexts noNodeFailures "node-1"
          "dev" sampleGeneratedKeys sampleOnNode) ∧
      ¬ Raising.KeptOnError (RotationKept "dev" sampleOnNode)
        (adminRotateOnNode sampleIssueSettings sampleLiveSources sampleAnswers
          (sampleIssueServer [] false) sampleTexts { noNodeFailures with add := some "timeout" }
          "node-1" "dev" sampleGeneratedKeys sampleOnNode) := by
  refine ⟨?_, ?_⟩
  · exact Raising.not_keptOnError (by decide +kernel) (fun kept =>
      not_samePeers "key-1" (by decide +kernel) kept.node)
  · exact Raising.not_keptOnError (by decide +kernel) (fun kept =>
      not_samePeers "key-1" (by decide +kernel) kept.node)

/-- If the remove raises too, the refused profile leaves everything as it was. -/
theorem refused_rotation_without_remove :
    Raising.KeptOnError (RotationKept "dev" sampleOnNode)
      (adminRotateOnNode sampleIssueSettings sampleLiveSources sampleAnswers
        (sampleIssueServer [("amnezia_jc", .int 200)] false) sampleTexts
        { noNodeFailures with remove := some "timeout" } "node-1" "dev" sampleGeneratedKeys
        sampleOnNode) :=
  (failed_rotation_keeps_iff sampleIssueSettings sampleLiveSources sampleAnswers
    (sampleIssueServer [("amnezia_jc", .int 200)] false) sampleTexts
    { noNodeFailures with remove := some "timeout" } "node-1" "dev" sampleGeneratedKeys sampleOnNode
    rfl rfl).mpr (by decide +kernel)

end VpnSuite.Fleet
