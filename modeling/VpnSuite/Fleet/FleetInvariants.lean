/-
Sequential runs of the device operations.

Two laws hold of the device table: live devices have distinct addresses, and no
subscription has more live devices than its limit.  Issuing establishes both, most other
operations can only take live devices away.  The exception is `update_device` with
`revoked_at` cleared: it brings a row back whatever happened to its address and its slot.
-/

import VpnSuite.Fleet.DeviceModel
import VpnSuite.Foundations.StepRuns

set_option autoImplicit false

namespace VpnSuite.Fleet

open Foundations
open Foundations.PythonText

/-! ### Live devices of a table -/

def LiveIn (devices : Dict String Device) (id : String) (device : Device) : Prop :=
  devices.get? id = some device ∧ device.revokedAt = none

theorem mem_liveIds {subscriptionId id : String} {devices : Dict String Device} :
    id ∈ liveIds subscriptionId devices ↔
      ∃ device, LiveIn devices id device ∧ device.subscriptionId = subscriptionId := by
  rw [liveIds, Dict.mem_map_filter]
  simp only [decide_eq_true_eq, LiveIn]
  constructor
  · rintro ⟨device, found, owned, live⟩
    exact ⟨device, ⟨found, live⟩, owned⟩
  · rintro ⟨device, ⟨found, live⟩, owned⟩
    exact ⟨device, found, owned, live⟩

theorem liveIds_nodup (subscriptionId : String) (devices : Dict String Device) :
    (liveIds subscriptionId devices).Nodup := devices.map_filter_nodup _

theorem mem_liveIps {allowedIps : String} {devices : Dict String Device} :
    allowedIps ∈ liveIps devices ↔
      ∃ id device, LiveIn devices id device ∧ device.allowedIps = some allowedIps := by
  unfold liveIps LiveIn
  simp only [List.mem_filterMap, List.mem_filter, decide_eq_true_eq]
  constructor
  · rintro ⟨⟨id, device⟩, ⟨member, live⟩, addressed⟩
    exact ⟨id, device, ⟨(devices.mem_entries_iff id device).mp member, live⟩, addressed⟩
  · rintro ⟨id, device, ⟨found, live⟩, addressed⟩
    exact ⟨(id, device), ⟨(devices.mem_entries_iff id device).mpr found, live⟩, addressed⟩

/-- Live devices have distinct addresses. -/
def DistinctAddresses (devices : Dict String Device) : Prop :=
  ∀ ⦃left right first second⦄, LiveIn devices left first → LiveIn devices right second →
    left ≠ right → first.allowedIps ≠ second.allowedIps

/-- No subscription has more live devices than its limit. -/
def WithinLimits (deviceLimit : String → Int) (devices : Dict String Device) : Prop :=
  ∀ subscriptionId, (liveIds subscriptionId devices).length ≤ deviceLimit subscriptionId

/-- Every live device was live before, under the same subscription and address. -/
def Shrinks (before after : Dict String Device) : Prop :=
  ∀ id device, LiveIn after id device →
    ∃ earlier, LiveIn before id earlier ∧ earlier.subscriptionId = device.subscriptionId ∧
      earlier.allowedIps = device.allowedIps

theorem Shrinks.refl (devices : Dict String Device) : Shrinks devices devices :=
  fun _ device live => ⟨device, live, rfl, rfl⟩

theorem Shrinks.distinct {before after : Dict String Device} (shrinks : Shrinks before after)
    (distinct : DistinctAddresses before) : DistinctAddresses after := by
  intro left right first second leftLive rightLive different
  obtain ⟨earlierLeft, liveLeft, _, sameLeft⟩ := shrinks left first leftLive
  obtain ⟨earlierRight, liveRight, _, sameRight⟩ := shrinks right second rightLive
  rw [← sameLeft, ← sameRight]
  exact distinct liveLeft liveRight different

theorem Shrinks.length_le {before after : Dict String Device} (shrinks : Shrinks before after)
    (subscriptionId : String) :
    (liveIds subscriptionId after).length ≤ (liveIds subscriptionId before).length := by
  apply List.Subperm.length_le
  apply List.subperm_of_subset (liveIds_nodup subscriptionId after)
  intro id member
  obtain ⟨device, live, owned⟩ := mem_liveIds.mp member
  obtain ⟨earlier, wasLive, sameOwner, _⟩ := shrinks id device live
  exact mem_liveIds.mpr ⟨earlier, wasLive, sameOwner.trans owned⟩

theorem Shrinks.limits {before after : Dict String Device} {deviceLimit : String → Int}
    (shrinks : Shrinks before after) (limits : WithinLimits deviceLimit before) :
    WithinLimits deviceLimit after := by
  intro subscriptionId
  have fewer := shrinks.length_le subscriptionId
  have bounded := limits subscriptionId
  omega

/-- Rewriting one row shrinks the table unless it brings the row back to life. -/
theorem shrinks_set {devices : Dict String Device} {id : String} {before after : Device}
    (found : devices.get? id = some before)
    (sameOwner : before.subscriptionId = after.subscriptionId)
    (sameAddress : before.allowedIps = after.allowedIps)
    (notRevived : after.revokedAt = none → before.revokedAt = none) :
    Shrinks devices (devices.set id after) := by
  rintro key device ⟨stored, live⟩
  rw [Dict.get?_set] at stored
  split at stored
  · rename_i here
    obtain rfl := Option.some.inj stored
    exact ⟨before, ⟨here ▸ found, notRevived live⟩, sameOwner, sameAddress⟩
  · exact ⟨device, ⟨stored, live⟩, rfl, rfl⟩

/-! ### One more live device -/

section Add

variable {devices : Dict String Device} {id : String} {device : Device}
  (notLive : ∀ other, ¬ LiveIn devices id other) (live : device.revokedAt = none)

include live in
theorem liveIn_set {key : String} {other : Device} :
    LiveIn (devices.set id device) key other ↔
      (key = id ∧ other = device) ∨ (key ≠ id ∧ LiveIn devices key other) := by
  unfold LiveIn
  rw [Dict.get?_set]
  by_cases here : key = id
  · simp only [here, if_true, Option.some.injEq, true_and, ne_eq, not_true, false_and, or_false]
    constructor
    · rintro ⟨rfl, _⟩
      rfl
    · rintro rfl
      exact ⟨rfl, live⟩
  · simp [here]

include notLive live in
theorem distinct_set_iff (distinct : DistinctAddresses devices) :
    DistinctAddresses (devices.set id device) ↔
      ∀ other stored, LiveIn devices other stored → stored.allowedIps ≠ device.allowedIps := by
  constructor
  · intro after other stored storedLive
    have different : other ≠ id := by
      rintro rfl
      exact notLive stored storedLive
    exact after ((liveIn_set live).mpr (Or.inr ⟨different, storedLive⟩))
      ((liveIn_set live).mpr (Or.inl ⟨rfl, rfl⟩)) different
  · intro fresh left right first second leftLive rightLive different
    rcases (liveIn_set live).mp leftLive with ⟨rfl, rfl⟩ | ⟨_, wasLeft⟩
    · rcases (liveIn_set live).mp rightLive with ⟨rfl, _⟩ | ⟨_, wasRight⟩
      · exact absurd rfl different
      · exact (fresh right second wasRight).symm
    · rcases (liveIn_set live).mp rightLive with ⟨rfl, rfl⟩ | ⟨_, wasRight⟩
      · exact fresh left first wasLeft
      · exact distinct wasLeft wasRight different

include notLive live in
theorem length_liveIds_set (subscriptionId : String) :
    (liveIds subscriptionId (devices.set id device)).length =
      (liveIds subscriptionId devices).length +
        if device.subscriptionId = subscriptionId then 1 else 0 := by
  have newcomer : id ∉ liveIds subscriptionId devices := by
    intro member
    obtain ⟨other, otherLive, _⟩ := mem_liveIds.mp member
    exact notLive other otherLive
  have members : ∀ key, key ∈ liveIds subscriptionId (devices.set id device) ↔
      (key = id ∧ device.subscriptionId = subscriptionId) ∨
        key ∈ liveIds subscriptionId devices := by
    intro key
    simp only [mem_liveIds, liveIn_set live]
    constructor
    · rintro ⟨other, ⟨rfl, rfl⟩ | ⟨_, wasLive⟩, owned⟩
      · exact Or.inl ⟨rfl, owned⟩
      · exact Or.inr ⟨other, wasLive, owned⟩
    · rintro (⟨rfl, owned⟩ | ⟨other, wasLive, owned⟩)
      · exact ⟨device, Or.inl ⟨rfl, rfl⟩, owned⟩
      · have different : key ≠ id := by
          rintro rfl
          exact notLive other wasLive
        exact ⟨other, Or.inr ⟨different, wasLive⟩, owned⟩
  have before := liveIds_nodup subscriptionId devices
  have after := liveIds_nodup subscriptionId (devices.set id device)
  by_cases owned : device.subscriptionId = subscriptionId
  · rw [if_pos owned]
    have same : (liveIds subscriptionId (devices.set id device)).Perm
        (id :: liveIds subscriptionId devices) := by
      apply (List.perm_ext_iff_of_nodup after (List.nodup_cons.mpr ⟨newcomer, before⟩)).mpr
      intro key
      rw [members, List.mem_cons]
      simp [owned]
    exact same.length_eq
  · rw [if_neg owned]
    have same : (liveIds subscriptionId (devices.set id device)).Perm
        (liveIds subscriptionId devices) := by
      apply (List.perm_ext_iff_of_nodup after before).mpr
      intro key
      rw [members]
      simp [owned]
    exact same.length_eq

include notLive live in
theorem limits_set_iff {deviceLimit : String → Int} (limits : WithinLimits deviceLimit devices) :
    WithinLimits deviceLimit (devices.set id device) ↔
      (liveIds device.subscriptionId devices).length < deviceLimit device.subscriptionId := by
  constructor
  · intro after
    have bounded := after device.subscriptionId
    rw [length_liveIds_set notLive live, if_pos rfl] at bounded
    omega
  · intro room subscriptionId
    have bounded := limits subscriptionId
    rw [length_liveIds_set notLive live]
    split
    · rename_i owned
      subst owned
      omega
    · omega

end Add

/-! ### What issuing does -/

theorem require_ok {condition : Bool} {error : IssueError} {done : Unit} :
    require condition error = .ok done ↔ condition = true := by
  unfold require
  cases condition with
  | true => simp
  | false => simp

theorem elim_ok {ε α : Type} {value : Option α} {error : ε} {found : α} :
    value.elim (.error error) .ok = (.ok found : Except ε α) ↔ value = some found := by
  cases value with
  | none => simp
  | some stored => simp

theorem findServer_ok {serverId : String} {db : FleetDb} {server : Server}
    (found : findServer serverId db = .ok server) : db.servers.get? serverId = some server := by
  unfold findServer at found
  split at found
  · cases found
  · rename_i stored present
    split at found
    · rw [present, Except.ok.inj found]
    · cases found

theorem takeAddress_ok {server : Server} {db : FleetDb} {allowedIps : String}
    (taken : takeAddress server db = .ok allowedIps) :
    ∃ address, allocateAddressForDevice server.requestParams (liveIps db.devices) =
      some (address, allowedIps) := by
  unfold takeAddress at taken
  split at taken
  · cases taken
  · rename_i address stored given
    exact ⟨address, by rw [given, Except.ok.inj taken]⟩

/-- What both issue paths do to the tables: a new live row with a free address, under a
subscription that has room for it. -/
structure Issued (db after : FleetDb) (id : String) (device : Device) : Prop where
  written : after = db.setDevice id device
  fresh : id ∉ db.devices.keys
  live : device.revokedAt = none
  unsuspended : device.suspendedAt = none
  unlimited : device.expiresAt = none
  room : (liveIds device.subscriptionId db.devices).length < db.deviceLimit device.subscriptionId
  addressed : ∃ serverId server address allowedIps, db.servers.get? serverId = some server ∧
    allocateAddressForDevice server.requestParams (liveIps db.devices) =
      some (address, allowedIps) ∧ device.allowedIps = some allowedIps

/-- `issue_device` creates a device of the subscription it was asked for, which is valid. -/
theorem issueDevice_ok {settings : FleetSettings} {request : IssueRequest} {db after : FleetDb}
    (issued : issueDevice settings request db = .ok after) :
    ∃ device, Issued db after request.inputs.deviceId device ∧
      device.subscriptionId = request.subscriptionId ∧
      (validSubscription request.inputs.now request.userId request.subscriptionId db).isSome =
        true := by
  unfold issueDevice at issued
  obtain ⟨_, _, issued⟩ := bind_eq_ok.mp issued
  obtain ⟨_, _, issued⟩ := bind_eq_ok.mp issued
  obtain ⟨_, valid, issued⟩ := bind_eq_ok.mp issued
  obtain ⟨_, limited, issued⟩ := bind_eq_ok.mp issued
  obtain ⟨serverId, _, issued⟩ := bind_eq_ok.mp issued
  obtain ⟨server, served, issued⟩ := bind_eq_ok.mp issued
  obtain ⟨_, _, issued⟩ := bind_eq_ok.mp issued
  obtain ⟨allowedIps, taken, issued⟩ := bind_eq_ok.mp issued
  obtain ⟨_, unused, issued⟩ := bind_eq_ok.mp issued
  obtain ⟨applyStatus, _, issued⟩ := bind_eq_ok.mp issued
  obtain ⟨_, _, written⟩ := bind_eq_ok.mp issued
  obtain ⟨address, given⟩ := takeAddress_ok taken
  refine ⟨_, ⟨(Except.ok.inj written).symm, of_decide_eq_true (require_ok.mp unused), rfl, rfl,
    rfl, of_decide_eq_true (require_ok.mp limited), ?_⟩, rfl, require_ok.mp valid⟩
  exact ⟨serverId, server, address, allowedIps, findServer_ok served, given, rfl⟩

theorem adminIssuePeer_ok {settings : FleetSettings} {request : AdminIssueRequest}
    {db after : FleetDb} {raised : Option IssueError}
    (issued : adminIssuePeer settings request db = .ok (after, raised)) :
    ∃ device, Issued db after request.inputs.deviceId device := by
  unfold adminIssuePeer at issued
  obtain ⟨server, served, issued⟩ := bind_eq_ok.mp issued
  obtain ⟨_, _, issued⟩ := bind_eq_ok.mp issued
  obtain ⟨_, _, issued⟩ := bind_eq_ok.mp issued
  obtain ⟨owner, _, issued⟩ := bind_eq_ok.mp issued
  obtain ⟨_, limited, issued⟩ := bind_eq_ok.mp issued
  obtain ⟨allowedIps, taken, issued⟩ := bind_eq_ok.mp issued
  obtain ⟨_, _, issued⟩ := bind_eq_ok.mp issued
  obtain ⟨_, unused, written⟩ := bind_eq_ok.mp issued
  obtain ⟨address, given⟩ := takeAddress_ok taken
  refine ⟨_, ⟨(Prod.mk.inj (Except.ok.inj written)).1.symm,
    of_decide_eq_true (require_ok.mp unused), rfl, rfl, rfl,
    of_decide_eq_true (require_ok.mp limited), ?_⟩⟩
  exact ⟨request.serverId, server, address, allowedIps, findServer_ok served, given, rfl⟩

theorem Issued.notLive {db after : FleetDb} {id : String} {device : Device}
    (issued : Issued db after id device) (other : Device) : ¬ LiveIn db.devices id other := by
  intro live
  exact issued.fresh (Dict.mem_keys_of_get? live.1)

/-- The subnets of all servers have numeric bases. -/
def NumericSubnets (db : FleetDb) : Prop :=
  ∀ id server, db.servers.get? id = some server →
    numericBase (subnetOf server.requestParams).1 = true

theorem Issued.keeps_distinct {db after : FleetDb} {id : String} {device : Device}
    (issued : Issued db after id device) (numeric : NumericSubnets db)
    (distinct : DistinctAddresses db.devices) : DistinctAddresses after.devices := by
  rw [issued.written]
  apply (distinct_set_iff issued.notLive issued.live distinct).mpr
  intro other stored live same
  obtain ⟨serverId, server, address, allowedIps, served, given, addressed⟩ := issued.addressed
  apply allocateAddressForDevice_fresh (numeric serverId server served) given
  exact mem_liveIps.mpr ⟨other, stored, live, same.trans addressed⟩

theorem Issued.keeps_limits {db after : FleetDb} {id : String} {device : Device}
    (issued : Issued db after id device) (limits : WithinLimits db.deviceLimit db.devices) :
    WithinLimits after.deviceLimit after.devices := by
  rw [issued.written]
  exact (limits_set_iff issued.notLive issued.live limits).mpr issued.room

/-! ### Steps -/

/-- An `update_device` body with only these fields set. -/
structure AdminEdit where
  deviceName : Option (Option String)
  suspendedAt : Option (Option Int)
  expiresAt : Option (Option Int)
  revokedAt : Option (Option Int)
  deriving DecidableEq, Repr

def AdminEdit.toUpdate (edit : AdminEdit) : DeviceUpdate :=
  { deviceName := edit.deviceName
    userId := none
    serverId := none
    allowedIps := none
    suspendedAt := edit.suspendedAt
    expiresAt := edit.expiresAt
    revokedAt := edit.revokedAt }

inductive FleetStep where
  | issue (request : IssueRequest)
  | adminIssue (request : AdminIssueRequest)
  | adminRotate (request : RotateRequest)
  | revoke (id : String) (confirmed : Bool) (now : Int)
  | expiryCheck (now : Int)
  | delete (id : String) (confirmed : Bool)
  | update (id : String) (edit : AdminEdit)
  deriving DecidableEq, Repr

/-- One request: commit what it did, or roll it back. -/
def fleetStep (settings : FleetSettings) (db : FleetDb) : FleetStep → FleetDb
  | .issue request =>
      match issueDevice settings request db with
      | .ok after => after
      | .error _ => db
  | .adminIssue request =>
      match adminIssuePeer settings request db with
      | .ok (after, _) => after
      | .error _ => db
  | .adminRotate request =>
      match adminRotatePeer settings request db with
      | .ok after => after
      | .error _ => db
  | .revoke id confirmed now => revokeDevice id confirmed now db
  | .expiryCheck now => runDeviceExpiryCheck now db
  | .delete id confirmed => deleteDevice id confirmed db
  | .update id edit => updateDevice id edit.toUpdate db

theorem fleetStep_issue (settings : FleetSettings) (db : FleetDb) (request : IssueRequest) :
    fleetStep settings db (.issue request) =
      match issueDevice settings request db with
      | .ok after => after
      | .error _ => db := rfl

theorem fleetStep_adminIssue (settings : FleetSettings) (db : FleetDb)
    (request : AdminIssueRequest) :
    fleetStep settings db (.adminIssue request) =
      match adminIssuePeer settings request db with
      | .ok (after, _) => after
      | .error _ => db := rfl

/-- The revoked device a step brings back. -/
def revivedDevice (db : FleetDb) : FleetStep → Option Device
  | .update id edit =>
      if edit.revokedAt = some none then
        (db.devices.get? id).filter (fun device => device.revokedAt ≠ none)
      else none
  | _ => none

theorem revivedDevice_update (db : FleetDb) (id : String) (edit : AdminEdit) :
    revivedDevice db (.update id edit) =
      if edit.revokedAt = some none then
        (db.devices.get? id).filter (fun device => device.revokedAt ≠ none)
      else none := rfl

/-- A device may come back when no live device has its address and its subscription has
room for one more. -/
def reviveAllowed (db : FleetDb) (step : FleetStep) : Bool :=
  match revivedDevice db step with
  | none => true
  | some device =>
      db.devices.entries.all (fun entry =>
        entry.2.revokedAt ≠ none ∨ entry.2.allowedIps ≠ device.allowedIps) &&
      (liveIds device.subscriptionId db.devices).length < db.deviceLimit device.subscriptionId

/-- The two laws of the device table. -/
structure FleetLaws (db : FleetDb) : Prop where
  distinct : DistinctAddresses db.devices
  limits : WithinLimits db.deviceLimit db.devices

/-- What no step changes: usable subnets, and an address on every row. -/
structure Grounded (db : FleetDb) : Prop where
  numeric : NumericSubnets db
  addressed : ∀ id device, db.devices.get? id = some device →
    ∃ allowedIps, device.allowedIps = some allowedIps ∧ allowedIps ≠ ""

/-- Every row was there before, with the same address. -/
def KeepsAddresses (before after : Dict String Device) : Prop :=
  ∀ id device, after.get? id = some device →
    ∃ earlier, before.get? id = some earlier ∧ earlier.allowedIps = device.allowedIps

theorem KeepsAddresses.refl (devices : Dict String Device) : KeepsAddresses devices devices :=
  fun _ device found => ⟨device, found, rfl⟩

theorem keepsAddresses_set {devices : Dict String Device} {id : String} {before after : Device}
    (found : devices.get? id = some before) (same : before.allowedIps = after.allowedIps) :
    KeepsAddresses devices (devices.set id after) := by
  intro key device stored
  rw [Dict.get?_set] at stored
  split at stored
  · rename_i here
    obtain rfl := Option.some.inj stored
    exact ⟨before, here ▸ found, same⟩
  · exact ⟨device, stored, rfl⟩

/-- Everything a step can do to the tables. -/
inductive StepEffect (db after : FleetDb) (step : FleetStep) : Prop where
  | issued (id : String) (device : Device) (unrevived : revivedDevice db step = none)
      (row : Issued db after id device)
  | shrunk (unrevived : revivedDevice db step = none) (devices : Dict String Device)
      (written : after = { db with devices := devices }) (shrinks : Shrinks db.devices devices)
      (addresses : KeepsAddresses db.devices devices)
  | revived (id : String) (before device : Device) (back : revivedDevice db step = some before)
      (found : db.devices.get? id = some before) (revoked : before.revokedAt ≠ none)
      (written : after = db.setDevice id device) (live : device.revokedAt = none)
      (sameOwner : device.subscriptionId = before.subscriptionId)
      (sameAddress : device.allowedIps = before.allowedIps)

/-- A change of the device table that takes live devices away at most. -/
def OnlyShrinks (db after : FleetDb) : Prop :=
  ∃ devices, after = { db with devices := devices } ∧ Shrinks db.devices devices ∧
    KeepsAddresses db.devices devices

theorem OnlyShrinks.refl (db : FleetDb) : OnlyShrinks db db :=
  ⟨db.devices, rfl, .refl _, .refl _⟩

theorem OnlyShrinks.rewritten {db : FleetDb} {id : String} {before device : Device}
    (found : db.devices.get? id = some before)
    (sameOwner : before.subscriptionId = device.subscriptionId)
    (sameAddress : before.allowedIps = device.allowedIps)
    (notRevived : device.revokedAt = none → before.revokedAt = none) :
    OnlyShrinks db (db.setDevice id device) :=
  ⟨_, rfl, shrinks_set found sameOwner sameAddress notRevived,
    keepsAddresses_set found sameAddress⟩

theorem OnlyShrinks.effect {db after : FleetDb} {step : FleetStep}
    (shrinks : OnlyShrinks db after) (unrevived : revivedDevice db step = none) :
    StepEffect db after step := by
  obtain ⟨devices, written, fewer, addresses⟩ := shrinks
  exact .shrunk unrevived devices written fewer addresses

theorem adminRotatePeer_effect {settings : FleetSettings} {request : RotateRequest}
    {db after : FleetDb} (grounded : Grounded db)
    (rotated : adminRotatePeer settings request db = .ok after) :
    StepEffect db after (.adminRotate request) := by
  unfold adminRotatePeer at rotated
  obtain ⟨device, chosen, rotated⟩ := bind_eq_ok.mp rotated
  obtain ⟨server, _, rotated⟩ := bind_eq_ok.mp rotated
  obtain ⟨_, _, rotated⟩ := bind_eq_ok.mp rotated
  obtain ⟨_, _, rotated⟩ := bind_eq_ok.mp rotated
  obtain ⟨allowedIps, kept, rotated⟩ := bind_eq_ok.mp rotated
  obtain ⟨_, _, rotated⟩ := bind_eq_ok.mp rotated
  obtain ⟨_, _, written⟩ := bind_eq_ok.mp rotated
  obtain ⟨found, live⟩ := Option.filter_eq_some_iff.mp (elim_ok.mp chosen)
  obtain ⟨stored, addressed, nonempty⟩ := grounded.addressed _ _ found
  have same : some allowedIps = device.allowedIps := by
    rw [rotatedAddress, addressed, orDefault_empty, orNone, if_neg nonempty] at kept
    rw [addressed, Except.ok.inj kept]
  rw [← Except.ok.inj written]
  apply OnlyShrinks.effect
  · exact .rewritten found rfl same.symm (fun _ => (of_decide_eq_true live).2)
  · rfl

theorem shrinks_erase (devices : Dict String Device) (id : String) :
    Shrinks devices (devices.erase id) := by
  rintro key device ⟨found, live⟩
  rw [Dict.get?_erase] at found
  split at found
  · cases found
  · exact ⟨device, ⟨found, live⟩, rfl, rfl⟩

theorem expireDevice_spec (now : Int) (device : Device) :
    (expireDevice now device).subscriptionId = device.subscriptionId ∧
      (expireDevice now device).allowedIps = device.allowedIps ∧
      ((expireDevice now device).revokedAt = none → device.revokedAt = none) := by
  unfold expireDevice
  split
  · exact ⟨rfl, rfl, id⟩
  · split
    · exact ⟨rfl, rfl, fun cleared => absurd cleared (by simp)⟩
    · exact ⟨rfl, rfl, id⟩

theorem expiryCheck_shrinks (now : Int) (db : FleetDb) :
    OnlyShrinks db (runDeviceExpiryCheck now db) := by
  have origin : ∀ id device, (db.devices.mapValues (expireDevice now)).get? id = some device →
      ∃ earlier, db.devices.get? id = some earlier ∧ expireDevice now earlier = device := by
    intro id device found
    rw [Dict.get?_mapValues] at found
    exact Option.map_eq_some_iff.mp found
  refine ⟨_, rfl, ?_, ?_⟩
  · rintro id device ⟨found, live⟩
    obtain ⟨earlier, stored, rfl⟩ := origin id device found
    obtain ⟨sameOwner, sameAddress, notRevived⟩ := expireDevice_spec now earlier
    exact ⟨earlier, ⟨stored, notRevived live⟩, sameOwner.symm, sameAddress.symm⟩
  · intro id device found
    obtain ⟨earlier, stored, rfl⟩ := origin id device found
    exact ⟨earlier, stored, (expireDevice_spec now earlier).2.1.symm⟩

theorem revokeDevice_shrinks (id : String) (confirmed : Bool) (now : Int) (db : FleetDb) :
    OnlyShrinks db (revokeDevice id confirmed now db) := by
  unfold revokeDevice
  split
  · exact .refl db
  · rename_i device found
    split
    · rename_i live
      exact .rewritten found rfl rfl (fun _ => live.2)
    · exact .refl db

theorem deleteDevice_shrinks (id : String) (confirmed : Bool) (db : FleetDb) :
    OnlyShrinks db (deleteDevice id confirmed db) := by
  unfold deleteDevice
  split
  · refine ⟨_, rfl, shrinks_erase db.devices id, ?_⟩
    intro key device found
    rw [Dict.get?_erase] at found
    split at found
    · cases found
    · exact ⟨device, found, rfl⟩
  · exact .refl db

theorem updateDevice_effect (id : String) (edit : AdminEdit) (db : FleetDb) :
    StepEffect db (updateDevice id edit.toUpdate db) (.update id edit) := by
  unfold updateDevice
  split
  · rename_i missing
    apply (OnlyShrinks.refl db).effect
    rw [revivedDevice_update, missing]
    split <;> rfl
  · rename_i device found
    have admissible : edit.toUpdate.admissible db = true := rfl
    rw [if_pos admissible]
    by_cases clears : edit.revokedAt = some none
    · have live : (edit.toUpdate.apply device).revokedAt = none := by
        change edit.revokedAt.getD device.revokedAt = none
        rw [clears]
        rfl
      by_cases revoked : device.revokedAt = none
      · apply OnlyShrinks.effect
        · exact .rewritten found rfl rfl (fun _ => revoked)
        · rw [revivedDevice_update, if_pos clears, found, Option.filter_some,
            if_neg (by simp [revoked])]
      · refine StepEffect.revived id device _ ?_ found revoked rfl live rfl rfl
        rw [revivedDevice_update, if_pos clears, found, Option.filter_some,
          if_pos (by simp [revoked])]
    · apply OnlyShrinks.effect
      · refine .rewritten found rfl rfl ?_
        intro cleared
        change edit.revokedAt.getD device.revokedAt = none at cleared
        cases given : edit.revokedAt with
        | none =>
            rw [given] at cleared
            exact cleared
        | some value =>
            rw [given] at cleared clears
            exact absurd (congrArg some cleared) clears
      · rw [revivedDevice_update, if_neg clears]

theorem fleetStep_effect (settings : FleetSettings) {db : FleetDb} (grounded : Grounded db)
    (step : FleetStep) : StepEffect db (fleetStep settings db step) step := by
  cases step with
  | issue request =>
      unfold fleetStep
      dsimp only
      split
      · rename_i after issued
        obtain ⟨device, row, _, _⟩ := issueDevice_ok issued
        exact .issued _ device rfl row
      · exact (OnlyShrinks.refl db).effect rfl
  | adminIssue request =>
      unfold fleetStep
      dsimp only
      split
      · rename_i after raised issued
        obtain ⟨device, row⟩ := adminIssuePeer_ok issued
        exact .issued _ device rfl row
      · exact (OnlyShrinks.refl db).effect rfl
  | adminRotate request =>
      unfold fleetStep
      dsimp only
      split
      · rename_i after rotated
        exact adminRotatePeer_effect grounded rotated
      · exact (OnlyShrinks.refl db).effect rfl
  | revoke id confirmed now => exact (revokeDevice_shrinks id confirmed now db).effect rfl
  | expiryCheck now => exact (expiryCheck_shrinks now db).effect rfl
  | delete id confirmed => exact (deleteDevice_shrinks id confirmed db).effect rfl
  | update id edit => exact updateDevice_effect id edit db

theorem StepEffect.grounded {db after : FleetDb} {step : FleetStep} (grounded : Grounded db)
    (effect : StepEffect db after step) : Grounded after := by
  have setRow : ∀ (id : String) (row : Device),
      (∃ allowedIps, row.allowedIps = some allowedIps ∧ allowedIps ≠ "") →
      Grounded (db.setDevice id row) := by
    intro id row addressed
    refine ⟨grounded.numeric, ?_⟩
    intro key device found
    change (db.devices.set id row).get? key = some device at found
    rw [Dict.get?_set] at found
    split at found
    · obtain rfl := Option.some.inj found
      exact addressed
    · exact grounded.addressed key device found
  cases effect with
  | issued id device unrevived row =>
      obtain ⟨_, _, _, allowedIps, _, given, addressed⟩ := row.addressed
      rw [row.written]
      exact setRow id device ⟨allowedIps, addressed, allocateAddressForDevice_nonempty given⟩
  | shrunk unrevived devices written shrinks addresses =>
      subst written
      refine ⟨grounded.numeric, ?_⟩
      intro id device found
      obtain ⟨earlier, stored, same⟩ := addresses id device found
      rw [← same]
      exact grounded.addressed id earlier stored
  | revived id before device back found revoked written live sameOwner sameAddress =>
      rw [written]
      apply setRow
      rw [sameAddress]
      exact grounded.addressed id before found

/-- A step keeps the two laws exactly when it may bring back what it brings back. -/
theorem StepEffect.laws_iff {db after : FleetDb} {step : FleetStep} (grounded : Grounded db)
    (laws : FleetLaws db) (effect : StepEffect db after step) :
    FleetLaws after ↔ reviveAllowed db step = true := by
  cases effect with
  | issued id device unrevived row =>
      have allowed : reviveAllowed db step = true := by rw [reviveAllowed, unrevived]
      exact iff_of_true ⟨row.keeps_distinct grounded.numeric laws.distinct,
        row.keeps_limits laws.limits⟩ allowed
  | shrunk unrevived devices written shrinks addresses =>
      have allowed : reviveAllowed db step = true := by rw [reviveAllowed, unrevived]
      subst written
      exact iff_of_true ⟨shrinks.distinct laws.distinct, shrinks.limits laws.limits⟩ allowed
  | revived id before device back found revoked written live sameOwner sameAddress =>
      have notLive : ∀ other, ¬ LiveIn db.devices id other := by
        rintro other ⟨stored, alive⟩
        obtain rfl := Option.some.inj (found.symm.trans stored)
        exact revoked alive
      have free : db.devices.entries.all (fun entry =>
          entry.2.revokedAt ≠ none ∨ entry.2.allowedIps ≠ before.allowedIps) = true ↔
          ∀ other stored, LiveIn db.devices other stored →
            stored.allowedIps ≠ device.allowedIps := by
        rw [List.all_eq_true, sameAddress]
        constructor
        · intro every other stored alive
          have judged := every (other, stored) ((Dict.mem_entries_iff _ _ _).mpr alive.1)
          rw [decide_eq_true_eq] at judged
          exact judged.resolve_left (not_not.mpr alive.2)
        · rintro every ⟨other, stored⟩ member
          rw [decide_eq_true_eq]
          by_cases alive : stored.revokedAt = none
          · exact Or.inr (every other stored ⟨(Dict.mem_entries_iff _ _ _).mp member, alive⟩)
          · exact Or.inl alive
      have allowed : reviveAllowed db step = true ↔
          (∀ other stored, LiveIn db.devices other stored →
            stored.allowedIps ≠ device.allowedIps) ∧
          (liveIds device.subscriptionId db.devices).length <
            db.deviceLimit device.subscriptionId := by
        rw [reviveAllowed, back]
        dsimp only
        rw [Bool.and_eq_true, free, decide_eq_true_eq, sameOwner]
      rw [allowed]
      subst written
      constructor
      · intro after
        exact ⟨(distinct_set_iff notLive live laws.distinct).mp after.distinct,
          (limits_set_iff notLive live laws.limits).mp after.limits⟩
      · rintro ⟨fresh, room⟩
        exact ⟨(distinct_set_iff notLive live laws.distinct).mpr fresh,
          (limits_set_iff notLive live laws.limits).mpr room⟩

/-! ### Runs -/

/-- From an empty device table, every state of a run obeys the two laws if and only if no
limit is negative and every un-revoke finds its address and its slot free. -/
theorem fleet_laws_iff_revives_allowed (settings : FleetSettings) (db : FleetDb)
    (steps : List FleetStep) (unissued : db.devices = Dict.empty) (numeric : NumericSubnets db) :
    EveryState (fleetStep settings) db steps FleetLaws ↔
      (∀ subscriptionId, 0 ≤ db.deviceLimit subscriptionId) ∧
        EveryStep (fleetStep settings) db steps (fun state step =>
          reviveAllowed state step = true) := by
  have nobody : ∀ subscriptionId, (liveIds subscriptionId db.devices).length = 0 := by
    intro subscriptionId
    rw [unissued]
    rfl
  have grounded : Grounded db := by
    refine ⟨numeric, ?_⟩
    intro id device found
    rw [unissued, Dict.get?_empty] at found
    cases found
  have runs : FleetLaws db → (EveryState (fleetStep settings) db steps FleetLaws ↔
      EveryStep (fleetStep settings) db steps (fun state step =>
        reviveAllowed state step = true)) :=
    everyState_iff_everyStep
      (fun state step held => (fleetStep_effect settings held step).grounded held)
      (fun state step held laws => (fleetStep_effect settings held step).laws_iff held laws)
      grounded
  constructor
  · intro every
    have laws := every.start_holds
    refine ⟨?_, (runs laws).mp every⟩
    intro subscriptionId
    have bounded := laws.limits subscriptionId
    rw [nobody] at bounded
    exact bounded
  · rintro ⟨nonnegative, allowed⟩
    refine (runs ⟨?_, ?_⟩).mpr allowed
    · intro left right first second live
      rw [LiveIn, unissued, Dict.get?_empty] at live
      cases live.1
    · intro subscriptionId
      rw [nobody]
      exact nonnegative subscriptionId

/-- One subscriber with two slots and one server on the default subnet. -/
def smallFleet : FleetDb :=
  { billing :=
      { users := [⟨1, 101⟩]
        plans := Dict.ofList [("month", ⟨30⟩)]
        subscriptions := Dict.ofList [("sub", ⟨1, "month", 0, 100, "active"⟩)]
        payments := []
        paymentEvents := []
        referrals := Dict.ofList []
        promoCodes := []
        promoRedemptions := []
        funnelEvents := []
        effectsApplied := [] }
    banned := []
    pausedAt := Dict.ofList []
    deviceLimit := fun _ => 2
    operatorPlan := none
    servers := Dict.ofList [("node-1", ⟨true, false, none⟩)]
    devices := Dict.empty }

def dockerSettings : FleetSettings := ⟨.real, .docker, true⟩

def issueAs (deviceId publicKey : String) : FleetStep :=
  .issue
    { userId := 1
      subscriptionId := "sub"
      serverId := some "node-1"
      inputs := ⟨none, deviceId, publicKey, none, 10, true, true, true⟩ }

def unrevoke (deviceId : String) : FleetStep := .update deviceId ⟨none, none, none, some none⟩

theorem smallFleet_numeric : NumericSubnets smallFleet := by
  intro id server found
  have stored : [("node-1", (⟨true, false, none⟩ : Server))].reverse.lookup id = some server := by
    rw [← Dict.get?_ofList]
    exact found
  rw [List.reverse_singleton, Dict.lookup_cons_eq] at stored
  split at stored
  · obtain rfl := Option.some.inj stored
    decide +kernel
  · cases stored

/-- The address of a revoked device is given away, and the device brought back to it. -/
theorem unrevoke_takes_used_address :
    ¬ EveryState (fleetStep dockerSettings) smallFleet
      [issueAs "a" "key-a", .revoke "a" true 20, issueAs "b" "key-b", unrevoke "a"]
      FleetLaws := by
  intro laws
  have final := laws _ [] (List.append_nil _).symm
  let devices := ([issueAs "a" "key-a", .revoke "a" true 20, issueAs "b" "key-b",
    unrevoke "a"].foldl (fleetStep dockerSettings) smallFleet).devices
  let device (key : String) : Device :=
    ⟨1, "sub", "node-1", none, key, some "10.8.1.2/32", none, none, none, none, .applied⟩
  have first : LiveIn devices "a" (device "key-a") := ⟨by decide +kernel, rfl⟩
  have second : LiveIn devices "b" (device "key-b") := ⟨by decide +kernel, rfl⟩
  exact final.distinct first second (by decide) rfl

/-- Bringing a device back while its address is free keeps the laws. -/
theorem unrevoke_of_free_address :
    EveryState (fleetStep dockerSettings) smallFleet
      [issueAs "a" "key-a", .revoke "a" true 20, unrevoke "a"] FleetLaws := by
  apply (fleet_laws_iff_revives_allowed dockerSettings smallFleet _ rfl smallFleet_numeric).mpr
  refine ⟨fun _ => (by decide : (0 : Int) ≤ 2), ?_⟩
  exact everyStep_iff_stepsAll.mpr (by decide +kernel)

end VpnSuite.Fleet
