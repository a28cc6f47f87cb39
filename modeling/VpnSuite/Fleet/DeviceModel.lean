/-
Devices and the operations that write them (`services/issue_service.py`,
`services/admin_issue_service.py`, `api/v1/devices.py`, `core/device_expiry_task.py`).

The fleet tables stand beside the billing ones; the subscription columns the billing
model has no use for (`paused_at`, `device_limit`) are tables of their own.  A request
brings the readings of the clock, the id and keys generated for it and the outcome of
its calls outside the database.  An operation that raises leaves the committed tables as
they were, except where the source commits before it raises.
-/

import VpnSuite.Fleet.AddressAllocator

set_option autoImplicit false

namespace VpnSuite.Fleet

open Foundations
open Foundations.PythonText
open VpnSuite.Billing (Subscription)

/-! ### Tables -/

inductive ApplyStatus where
  | created
  | applying
  | applied
  | error
  | pendingApply
  deriving DecidableEq, Repr

structure Device where
  userId : Int
  subscriptionId : String
  serverId : String
  deviceName : Option String
  publicKey : String
  allowedIps : Option String
  presharedKey : Option String
  revokedAt : Option Int
  suspendedAt : Option Int
  expiresAt : Option Int
  applyStatus : ApplyStatus
  deriving DecidableEq, Repr

/-- A server with the subnet parameters of its first profile. -/
structure Server where
  isActive : Bool
  isDraining : Bool
  requestParams : Option SubnetParams
  deriving DecidableEq, Repr

structure FleetDb where
  billing : Billing.Db
  banned : List Int
  pausedAt : Dict String Int
  deviceLimit : String → Int
  operatorPlan : Option String
  servers : Dict String Server
  devices : Dict String Device

inductive NodeMode where
  | mock
  | real
  | agent
  deriving DecidableEq, Repr

inductive NodeDiscovery where
  | docker
  | agent
  deriving DecidableEq, Repr

structure FleetSettings where
  nodeMode : NodeMode
  nodeDiscovery : NodeDiscovery
  issueFallbackOnPeerFailure : Bool
  deriving DecidableEq, Repr

/-- The control plane itself writes the node's peers. -/
def FleetSettings.appliesPeers (settings : FleetSettings) : Bool :=
  settings.nodeMode = .real && settings.nodeDiscovery ≠ .agent

/-- The live devices of a subscription. -/
def liveIds (subscriptionId : String) (devices : Dict String Device) : List String :=
  (devices.entries.filter (fun entry =>
    entry.2.subscriptionId = subscriptionId ∧ entry.2.revokedAt = none)).map Prod.fst

/-- The addresses of live devices, as the allocator's query returns them. -/
def liveIps (devices : Dict String Device) : List String :=
  (devices.entries.filter (fun entry => entry.2.revokedAt = none)).filterMap
    (fun entry => entry.2.allowedIps)

/-! ### Issuing -/

inductive IssueError where
  | userNotFound
  | userBanned
  | subscriptionInvalid
  | deviceLimitExceeded
  | serverRequired
  | serverNotAvailable
  | serverDraining
  | serverNotSynced
  | noFreeAddress (subnetBase : String)
  | duplicateId
  | peerNotCreated
  | configInvalid
  | systemOperatorNotSeeded
  | peerNotFound
  deriving DecidableEq, Repr

/-- The texts of the `ValueError`s. -/
def IssueError.message : IssueError → Option String
  | .userNotFound => some "user_not_found"
  | .userBanned => some "user_banned"
  | .subscriptionInvalid => some "subscription_invalid"
  | .deviceLimitExceeded => some "device_limit_exceeded"
  | .serverRequired => some "server_required"
  | .serverNotAvailable => some "server_not_available"
  | .serverDraining => some "server_draining"
  | .noFreeAddress subnetBase =>
      some ("No free address in " ++ subnetBase ++ ".x (hosts 2-254)")
  | .systemOperatorNotSeeded => some "system_operator_not_seeded"
  | .peerNotFound => some "peer_not_found"
  | _ => none

def require (condition : Bool) (error : IssueError) : Except IssueError Unit :=
  if condition then .ok () else .error error

/-- What is generated for a new device, and how the calls outside the database end. -/
structure IssueInputs where
  deviceName : Option String
  deviceId : String
  publicKey : String
  presharedKey : Option String
  now : Int
  keyVerified : Bool
  peerApplied : Bool
  configValid : Bool
  deriving DecidableEq, Repr

/-- The arguments of `issue_device`; the server is the given one or the balancer's choice. -/
structure IssueRequest where
  userId : Int
  subscriptionId : String
  serverId : Option String
  inputs : IssueInputs
  deriving DecidableEq, Repr

/-- The row the issue paths lock: the user's own subscription, active and not over. -/
def validSubscription (now : Int) (userId : Int) (subscriptionId : String) (db : FleetDb) :
    Option Subscription :=
  (db.billing.subscriptions.get? subscriptionId).filter (fun sub =>
    sub.userId = userId ∧ sub.status = "active" ∧ sub.validUntil > now)

def checkDeviceLimit (subscriptionId : String) (db : FleetDb) : Except IssueError Unit :=
  require ((liveIds subscriptionId db.devices).length < db.deviceLimit subscriptionId)
    .deviceLimitExceeded

def findServer (serverId : String) (db : FleetDb) : Except IssueError Server :=
  match db.servers.get? serverId with
  | none => .error .serverNotAvailable
  | some server => if server.isActive then .ok server else .error .serverNotAvailable

def takeAddress (server : Server) (db : FleetDb) : Except IssueError String :=
  match allocateAddressForDevice server.requestParams (liveIps db.devices) with
  | none => .error (.noFreeAddress (subnetOf server.requestParams).1)
  | some (_, allowedIps) => .ok allowedIps

def newDevice (userId : Int) (subscriptionId serverId : String) (inputs : IssueInputs)
    (allowedIps : String) (applyStatus : ApplyStatus) : Device :=
  { userId := userId
    subscriptionId := subscriptionId
    serverId := serverId
    deviceName := inputs.deviceName
    publicKey := inputs.publicKey
    allowedIps := some allowedIps
    presharedKey := inputs.presharedKey
    revokedAt := none
    suspendedAt := none
    expiresAt := none
    applyStatus := applyStatus }

def FleetDb.setDevice (db : FleetDb) (id : String) (device : Device) : FleetDb :=
  { db with devices := db.devices.set id device }

theorem setDevice_twice (db : FleetDb) (id : String) (first second : Device) :
    (db.setDevice id first).setDevice id second = db.setDevice id second := by
  unfold FleetDb.setDevice
  rw [Dict.set_set]

/-- How `issue_device` leaves its device after the calls to the node. -/
def issuedStatus (settings : FleetSettings) (peerApplied : Bool) :
    Except IssueError ApplyStatus :=
  if settings.appliesPeers then
    if peerApplied then .ok .applied
    else if settings.issueFallbackOnPeerFailure then .ok .pendingApply
    else .error .peerNotCreated
  else .ok .pendingApply

/-- `issue_device`, committed by its caller. -/
def issueDevice (settings : FleetSettings) (request : IssueRequest) (db : FleetDb) :
    Except IssueError FleetDb := do
  require (db.billing.users.any (fun user => user.id = request.userId)) .userNotFound
  require (request.userId ∉ db.banned) .userBanned
  require (validSubscription request.inputs.now request.userId request.subscriptionId db).isSome
    .subscriptionInvalid
  checkDeviceLimit request.subscriptionId db
  let serverId ← request.serverId.elim (.error .serverRequired) .ok
  let server ← findServer serverId db
  require request.inputs.keyVerified .serverNotSynced
  let allowedIps ← takeAddress server db
  require (request.inputs.deviceId ∉ db.devices.keys) .duplicateId
  let applyStatus ← issuedStatus settings request.inputs.peerApplied
  require request.inputs.configValid .configInvalid
  .ok (db.setDevice request.inputs.deviceId (newDevice request.userId request.subscriptionId
    serverId request.inputs allowedIps applyStatus))

/-- The arguments of `admin_issue_peer`; without an owner the system operator is used. -/
structure AdminIssueRequest where
  owner : Option (Int × String)
  serverId : String
  inputs : IssueInputs
  deriving DecidableEq, Repr

def systemTgId : Int := 0

/-- `_resolve_system_user_sub`. -/
def resolveSystemUserSub (now : Int) (db : FleetDb) : Option (Int × String) :=
  match db.billing.users.find? (fun user => user.tgId = systemTgId), db.operatorPlan with
  | some user, some planId =>
      (db.billing.subscriptions.entries.find? (fun entry =>
        entry.2.userId = user.id ∧ entry.2.planId = planId ∧ entry.2.status = "active" ∧
          entry.2.validUntil > now)).map (fun entry => (user.id, entry.1))
  | _, _ => none

/-- The user and the subscription whose row `admin_issue_peer` locks. -/
def adminOwner (request : AdminIssueRequest) (db : FleetDb) : Except IssueError (Int × String) :=
  match request.owner with
  | some (userId, subscriptionId) =>
      if (validSubscription request.inputs.now userId subscriptionId db).isSome then
        .ok (userId, subscriptionId)
      else .error .subscriptionInvalid
  | none =>
      match resolveSystemUserSub request.inputs.now db with
      | none => .error .systemOperatorNotSeeded
      | some owner => .ok owner

/-- How `admin_issue_peer` leaves its device, which is committed before the node is called. -/
def adminIssuedStatus (settings : FleetSettings) (peerApplied : Bool) : ApplyStatus :=
  if settings.appliesPeers then if peerApplied then .applied else .error else .pendingApply

/-- `admin_issue_peer`: what it commits, and what it raises after the commit when the peer
cannot be applied. -/
def adminIssuePeer (settings : FleetSettings) (request : AdminIssueRequest) (db : FleetDb) :
    Except IssueError (FleetDb × Option IssueError) := do
  let server ← findServer request.serverId db
  require (!server.isDraining) .serverDraining
  require request.inputs.keyVerified .serverNotSynced
  let owner ← adminOwner request db
  checkDeviceLimit owner.2 db
  let allowedIps ← takeAddress server db
  require request.inputs.configValid .configInvalid
  require (request.inputs.deviceId ∉ db.devices.keys) .duplicateId
  .ok (db.setDevice request.inputs.deviceId (newDevice owner.1 owner.2 request.serverId
      request.inputs allowedIps (adminIssuedStatus settings request.inputs.peerApplied)),
    if settings.appliesPeers && !request.inputs.peerApplied then some .peerNotCreated else none)

/-! ### Rotating -/

structure RotateRequest where
  serverId : String
  peerId : String
  publicKey : String
  presharedKey : Option String
  keyVerified : Bool
  peerApplied : Bool
  configValid : Bool
  deriving DecidableEq, Repr

/-- The device and its server, as `admin_rotate_peer` looks them up. -/
def rotatedDevice (request : RotateRequest) (db : FleetDb) : Option Device :=
  (db.devices.get? request.peerId).filter (fun device =>
    device.serverId = request.serverId ∧ device.revokedAt = none)

/-- A device keeps its address; only one without gets a new one. -/
def rotatedAddress (server : Server) (device : Device) (db : FleetDb) :
    Except IssueError String :=
  match orNone (orDefault device.allowedIps "") with
  | some allowedIps => .ok allowedIps
  | none => takeAddress server db

/-- `admin_rotate_peer`, committed by its caller. -/
def adminRotatePeer (settings : FleetSettings) (request : RotateRequest) (db : FleetDb) :
    Except IssueError FleetDb := do
  let device ← (rotatedDevice request db).elim (.error .peerNotFound) .ok
  let server ← (db.servers.get? request.serverId).elim (.error .serverNotAvailable) .ok
  require request.keyVerified .serverNotSynced
  require (!server.isDraining) .serverDraining
  let allowedIps ← rotatedAddress server device db
  require request.configValid .configInvalid
  require (!settings.appliesPeers || request.peerApplied) .peerNotCreated
  .ok (db.setDevice request.peerId
    { device with
      publicKey := request.publicKey
      allowedIps := some allowedIps
      presharedKey := request.presharedKey
      applyStatus := if settings.appliesPeers then .applied else device.applyStatus })

/-! ### Administrative edits -/

/-- The fields of `DeviceUpdate` the model knows; `none` is a field not set. -/
structure DeviceUpdate where
  deviceName : Option (Option String)
  userId : Option (Option Int)
  serverId : Option (Option String)
  allowedIps : Option (Option String)
  suspendedAt : Option (Option Int)
  expiresAt : Option (Option Int)
  revokedAt : Option (Option Int)
  deriving DecidableEq, Repr

/-- Whether the given user and server exist; clearing either violates a NOT NULL column. -/
def DeviceUpdate.admissible (update : DeviceUpdate) (db : FleetDb) : Bool :=
  (match update.userId with
    | none => true
    | some none => false
    | some (some userId) => db.billing.users.any (fun user => user.id = userId)) &&
  (match update.serverId with
    | none => true
    | some none => false
    | some (some serverId) => serverId ∈ db.servers.keys)

/-- `setattr` for every field that is set. -/
def DeviceUpdate.apply (update : DeviceUpdate) (device : Device) : Device :=
  { device with
    deviceName := update.deviceName.getD device.deviceName
    userId := (update.userId.bind id).getD device.userId
    serverId := (update.serverId.bind id).getD device.serverId
    allowedIps := update.allowedIps.getD device.allowedIps
    suspendedAt := update.suspendedAt.getD device.suspendedAt
    expiresAt := update.expiresAt.getD device.expiresAt
    revokedAt := update.revokedAt.getD device.revokedAt }

/-- `update_device`. -/
def updateDevice (id : String) (update : DeviceUpdate) (db : FleetDb) : FleetDb :=
  match db.devices.get? id with
  | none => db
  | some device =>
      if update.admissible db then db.setDevice id (update.apply device) else db

/-- `revoke_device`, with the clock reading of the request. -/
def revokeDevice (id : String) (confirmed : Bool) (now : Int) (db : FleetDb) : FleetDb :=
  match db.devices.get? id with
  | none => db
  | some device =>
      if confirmed = true ∧ device.revokedAt = none then
        db.setDevice id { device with revokedAt := some now }
      else db

/-- `delete_device`. -/
def deleteDevice (id : String) (confirmed : Bool) (db : FleetDb) : FleetDb :=
  if confirmed then { db with devices := db.devices.erase id } else db

def expireDevice (now : Int) (device : Device) : Device :=
  match device.expiresAt with
  | none => device
  | some expiresAt =>
      if expiresAt ≤ now ∧ device.revokedAt = none then { device with revokedAt := some now }
      else device

/-- `run_device_expiry_check`. -/
def runDeviceExpiryCheck (now : Int) (db : FleetDb) : FleetDb :=
  { db with devices := db.devices.mapValues (expireDevice now) }

/-! ### Readers -/

/-- The rows `agent_desired_state` and `reconcile_node` select. -/
def servedRows (serverIds : List String) (devices : Dict String Device) :
    List (String × Device) :=
  devices.entries.filter (fun entry =>
    entry.2.serverId ∈ serverIds ∧ entry.2.revokedAt = none ∧ entry.2.suspendedAt = none)

end VpnSuite.Fleet
