/-
The handshake quality gate (`core/handshake_quality_gate_task.py`), and what writes the columns
it reads: the agent heartbeat (`api/v1/agent.py`), a reissue (`admin_rotate_peer`) and the
telemetry cache (`services/device_telemetry_cache.py`).

The gate selects applied devices that carry no `unstable_reason`, and sets one when it marks a
device.  Nothing but a handshake clears it.  A device that is applied again after it was marked
is therefore never selected again.  The bulk read of the cache, in turn, gives up all entries
when one of them holds a time no `datetime` can express.

Redis answers.  Times are in microseconds, those of a handshake in seconds.  The other
columns and the other fields of the cache are left out, and so are metrics and log lines.
-/

import VpnSuite.Foundations.KeyedPass
import VpnSuite.Foundations.OrderedDict
import VpnSuite.Foundations.PythonText
import VpnSuite.Foundations.StepRuns

set_option autoImplicit false

namespace VpnSuite.Fleet

open Foundations
open Foundations.PythonText

structure DeviceStatus where
  serverId : String
  publicKey : String
  revokedAt : Option Int
  applyStatus : Option String
  lastAppliedAt : Option Int
  lastError : Option String
  unstableReason : Option String
  deriving DecidableEq, Repr

/-- An entry of the cache, as far as the gate looks at it. -/
structure DeviceTelemetry where
  handshakeTs : Option Int
  handshakeAgeSec : Option Int
  deriving DecidableEq, Repr

structure GateState where
  devices : Dict String DeviceStatus
  telemetry : Dict String DeviceTelemetry
  deriving DecidableEq

/-! ### The telemetry cache -/

structure DeviceTelemetryOut where
  handshakeLatestAt : Option Int
  handshakeAgeSec : Option Int
  deriving DecidableEq, Repr

/-- The last second of the year 9999. -/
def maxTimestamp : Int := 253402300799

/-- `if handshake_ts and handshake_ts > 0`. -/
def DeviceTelemetry.seenAt (entry : DeviceTelemetry) : Option Int :=
  entry.handshakeTs.filter (fun instant => 0 < instant)

/-- `datetime.fromtimestamp` takes the time of the entry. -/
def DeviceTelemetry.readable (entry : DeviceTelemetry) : Bool :=
  entry.seenAt.all (fun instant => instant ≤ maxTimestamp)

def DeviceTelemetry.out (entry : DeviceTelemetry) : DeviceTelemetryOut :=
  ⟨entry.seenAt, entry.handshakeAgeSec⟩

def DeviceTelemetryOut.hasHandshake (data : DeviceTelemetryOut) : Bool :=
  data.handshakeLatestAt.isSome || data.handshakeAgeSec.any (fun age => 0 ≤ age)

def DeviceTelemetry.hasHandshake (entry : DeviceTelemetry) : Bool := entry.out.hasHandshake

def storedTelemetry (ids : List String) (cache : Dict String DeviceTelemetry) :
    List (String × DeviceTelemetry) :=
  ids.filterMap (fun id => (cache.get? id).map (fun entry => (id, entry)))

/-- The entries of the given devices; none at all if one of them cannot be read. -/
def getDeviceTelemetryBulk (ids : List String) (cache : Dict String DeviceTelemetry) :
    Dict String DeviceTelemetryOut :=
  if (storedTelemetry ids cache).all (fun item => item.2.readable) then
    Dict.ofList ((storedTelemetry ids cache).map (fun item => (item.1, item.2.out)))
  else Dict.empty

def writeDeviceTelemetry (id : String) (handshakeTs : Option Int) (now : Int)
    (cache : Dict String DeviceTelemetry) : Dict String DeviceTelemetry :=
  cache.set id ⟨handshakeTs,
    (handshakeTs.filter (fun instant => 0 < instant)).map (fun instant => now / 1000000 - instant)⟩

/-! ### The heartbeat -/

/-- A peer of the payload.  `lastHandshakeAgeSec` is truncated, and missing when it is no number;
a peer is `wellFormed` when its other values convert. -/
structure HeartbeatPeer where
  publicKey : String
  lastHandshakeAgeSec : Option Int
  wellFormed : Bool
  deriving DecidableEq, Repr

def normPublicKey (key : String) : String :=
  String.ofList ((strip key).toList.filter (fun char => char ≠ '\n' ∧ char ≠ '\r'))

/-- The devices of the server that are not revoked, by their normalised keys. -/
def deviceIdsByKey (serverId : String) (devices : Dict String DeviceStatus) :
    Dict String String :=
  Dict.ofList ((devices.entries.filter (fun entry =>
      entry.2.serverId = serverId ∧ entry.2.revokedAt = none ∧ entry.1 ≠ "" ∧
        normPublicKey entry.2.publicKey ≠ "")).map
    (fun entry => (normPublicKey entry.2.publicKey, entry.1)))

/-- The cache after the peers, and whether none of them stopped the pass. -/
def writeDeviceTelemetryFromHeartbeatPeers (deviceIds : Dict String String) (now : Int) :
    List HeartbeatPeer → Dict String DeviceTelemetry → Dict String DeviceTelemetry × Bool
  | [], cache => (cache, true)
  | peer :: rest, cache =>
      match deviceIds.get? (normPublicKey peer.publicKey) with
      | none => writeDeviceTelemetryFromHeartbeatPeers deviceIds now rest cache
      | some id =>
          if peer.wellFormed then
            let seen := (peer.lastHandshakeAgeSec.map (fun age => now / 1000000 - age)).filter
              (fun instant => 0 < instant)
            writeDeviceTelemetryFromHeartbeatPeers deviceIds now rest
              (writeDeviceTelemetry id seen now cache)
          else (cache, false)

/-- The update of one listed device: it becomes `APPLIED` unless it is that or `VERIFIED`. -/
def DeviceStatus.applied (now : Int) (device : DeviceStatus) : DeviceStatus :=
  if device.applyStatus = some "APPLIED" ∨ device.applyStatus = some "VERIFIED" then device
  else { device with applyStatus := some "APPLIED", lastAppliedAt := some now }

/-- An update of the row with the given id. -/
def updateRow (change : DeviceStatus → DeviceStatus) (devices : Dict String DeviceStatus)
    (id : String) : Dict String DeviceStatus :=
  match devices.get? id with
  | none => devices
  | some device => devices.set id (change device)

def agentHeartbeat (serverId : String) (peers : List HeartbeatPeer) (now : Int)
    (state : GateState) : GateState :=
  let deviceIds := deviceIdsByKey serverId state.devices
  let written := writeDeviceTelemetryFromHeartbeatPeers deviceIds now peers state.telemetry
  let listed := peers.filterMap (fun peer => deviceIds.get? (normPublicKey peer.publicKey))
  { devices :=
      if written.2 then listed.foldl (updateRow (DeviceStatus.applied now)) state.devices
      else state.devices
    telemetry := written.1 }

/-! ### The gate -/

def noHandshakeReason : String := "no_handshake_within_gate"

/-- `gate_minutes = settings.handshake_quality_gate_minutes or 5`. -/
def gateCutoff (gateMinutes now : Int) : Int :=
  now - (if gateMinutes = 0 then 5 else gateMinutes) * 60 * 1000000

/-- The rows of the first pass. -/
def DeviceStatus.selected (cutoff : Int) (device : DeviceStatus) : Bool :=
  device.applyStatus = some "APPLIED" && device.lastAppliedAt.any (fun applied => applied < cutoff) &&
    device.revokedAt = none && device.unstableReason = none

/-- The rows of the second pass. -/
def DeviceStatus.eligible (device : DeviceStatus) : Bool :=
  device.applyStatus.any (fun status => status ∈ ["APPLIED", "NO_HANDSHAKE", "ERROR"]) &&
    device.revokedAt = none

def DeviceStatus.markedError (device : DeviceStatus) : DeviceStatus :=
  { device with
    applyStatus := some "ERROR"
    lastError := some noHandshakeReason
    unstableReason := some noHandshakeReason }

def DeviceStatus.verified (device : DeviceStatus) : DeviceStatus :=
  { device with applyStatus := some "VERIFIED", lastError := none, unstableReason := none }

/-- The rows of a pass whose telemetry is at hand and passes the test. -/
def passHits (selects : DeviceStatus → Bool) (test : DeviceTelemetryOut → Bool)
    (cache : Dict String DeviceTelemetry) (devices : Dict String DeviceStatus) : List String :=
  let rows := (devices.entries.filter (fun entry => selects entry.2)).map Prod.fst
  let telemetry := getDeviceTelemetryBulk rows cache
  rows.filter (fun id => (telemetry.get? id).any test)

/-- One pass of the gate, and how many rows it has changed. -/
def gatePass (selects : DeviceStatus → Bool) (test : DeviceTelemetryOut → Bool)
    (change : DeviceStatus → DeviceStatus) (cache : Dict String DeviceTelemetry)
    (devices : Dict String DeviceStatus) : Dict String DeviceStatus × Nat :=
  let hits := passHits selects test cache devices
  (hits.foldl (updateRow change) devices, hits.length)

/-- The state after a run, and how many devices it has marked. -/
def runHandshakeQualityGateOnce (gateMinutes now : Int) (state : GateState) : GateState × Nat :=
  let first := gatePass (DeviceStatus.selected (gateCutoff gateMinutes now))
    (fun data => !data.hasHandshake) DeviceStatus.markedError state.telemetry state.devices
  let second := gatePass DeviceStatus.eligible DeviceTelemetryOut.hasHandshake
    DeviceStatus.verified state.telemetry first.1
  ({ state with devices := second.1 }, first.2)

/-! ### Everything that happens -/

/-- A reissue that ends well, as far as it concerns these columns: a new key and, when the peer
was set on the node, the time of that. -/
def reissuedRow (publicKey : String) (appliedAt : Option Int) (device : DeviceStatus) :
    DeviceStatus :=
  if device.revokedAt.isSome then device
  else
    match appliedAt with
    | none => { device with publicKey := publicKey }
    | some now =>
        { device with
          publicKey := publicKey
          applyStatus := some "APPLIED"
          lastAppliedAt := some now
          lastError := none }

inductive GateEvent where
  | heartbeat (serverId : String) (peers : List HeartbeatPeer) (now : Int)
  | reissue (id publicKey : String) (appliedAt : Option Int)
  | telemetry (id : String) (handshakeTs : Option Int) (now : Int)
  | expire (id : String)
  | gate (now : Int)
  deriving DecidableEq, Repr

def gateStep (gateMinutes : Int) (state : GateState) : GateEvent → GateState
  | .heartbeat serverId peers now => agentHeartbeat serverId peers now state
  | .reissue id publicKey appliedAt =>
      { state with devices := updateRow (reissuedRow publicKey appliedAt) state.devices id }
  | .telemetry id handshakeTs now =>
      { state with telemetry := writeDeviceTelemetry id handshakeTs now state.telemetry }
  | .expire id => { state with telemetry := state.telemetry.erase id }
  | .gate now => (runHandshakeQualityGateOnce gateMinutes now state).1

/-- A live device that was applied before the cutoff and has shown no handshake. -/
structure SilentDevice (cutoff : Int) (state : GateState) (id : String) (device : DeviceStatus) :
    Prop where
  found : state.devices.get? id = some device
  live : device.revokedAt = none
  applied : device.applyStatus = some "APPLIED"
  overdue : device.lastAppliedAt.any (fun applied => applied < cutoff) = true
  silent : ∃ entry, state.telemetry.get? id = some entry ∧ entry.hasHandshake = false

/-- Right after a run of the gate no device is silent. -/
def CatchesSilent (gateMinutes : Int) (state : GateState) : GateEvent → Prop
  | .gate now => ∀ id device, ¬ SilentDevice (gateCutoff gateMinutes now)
      (gateStep gateMinutes state (.gate now)) id device
  | _ => True

/-- A device that becomes `VERIFIED` has shown a handshake. -/
def VerifiesSeen (gateMinutes : Int) (state : GateState) (event : GateEvent) : Prop :=
  ∀ id before after, state.devices.get? id = some before →
    (gateStep gateMinutes state event).devices.get? id = some after →
    before.applyStatus ≠ some "VERIFIED" → after.applyStatus = some "VERIFIED" →
    ∃ entry, state.telemetry.get? id = some entry ∧ entry.hasHandshake = true

/-- The condition: no silent device carries a reason from an earlier mark, and if there is one,
the telemetry of every device the first pass selects can be read. -/
def Unhindered (gateMinutes : Int) (state : GateState) : GateEvent → Prop
  | .gate now => ∀ id device, SilentDevice (gateCutoff gateMinutes now) state id device →
      device.unstableReason = none ∧ ∀ other row entry,
        state.devices.get? other = some row →
        row.selected (gateCutoff gateMinutes now) = true →
        state.telemetry.get? other = some entry → entry.readable = true
  | _ => True

/-! ### What a pass does to one device -/

section Passes

variable {cache : Dict String DeviceTelemetry} {devices : Dict String DeviceStatus}

theorem get?_updateRow (change : DeviceStatus → DeviceStatus) (id other : String) :
    (updateRow change devices id).get? other =
      if other = id then (devices.get? id).map change else devices.get? other := by
  unfold updateRow
  by_cases same : other = id
  · subst same
    cases found : devices.get? other with
    | none => rw [found, if_pos rfl, Option.map_none]
    | some device => rw [Dict.get?_set, if_pos rfl, if_pos rfl, Option.map_some]
  · cases found : devices.get? id with
    | none => rw [if_neg same]
    | some device => rw [Dict.get?_set, if_neg same, if_neg same]

theorem updateRow_keyed (change : DeviceStatus → DeviceStatus) :
    KeyedStep (fun (table : Dict String DeviceStatus) id => table.get? id) id
      (fun _ => Option.map change) (updateRow change) where
  own table id := by
    rw [get?_updateRow]
    exact if_pos rfl
  frame table id other different := by
    rw [get?_updateRow]
    exact if_neg different

/-- Updates of distinct rows. -/
theorem get?_updateRows (change : DeviceStatus → DeviceStatus) {ids : List String}
    (distinct : ids.Nodup) (id : String) :
    (ids.foldl (updateRow change) devices).get? id =
      if id ∈ ids then (devices.get? id).map change else devices.get? id := by
  have keyed := updateRow_keyed change
  split
  · rename_i member
    exact keyed.foldl_own ids (by rwa [List.map_id]) devices member
  · rename_i absent
    exact keyed.foldl_frame ids devices id (by rwa [List.map_id])

theorem storedTelemetry_keys (ids : List String) :
    (storedTelemetry ids cache).map Prod.fst = ids.filter (fun id => (cache.get? id).isSome) := by
  induction ids with
  | nil => rfl
  | cons id rest ih =>
      rw [storedTelemetry] at ih
      rw [storedTelemetry]
      cases found : cache.get? id with
      | none => simp [found, ih]
      | some entry => simp [found, ih]

theorem mem_storedTelemetry {ids : List String} {id : String} {entry : DeviceTelemetry} :
    (id, entry) ∈ storedTelemetry ids cache ↔ id ∈ ids ∧ cache.get? id = some entry := by
  unfold storedTelemetry
  rw [List.mem_filterMap]
  constructor
  · rintro ⟨other, member, pair⟩
    obtain ⟨stored, found, same⟩ := Option.map_eq_some_iff.mp pair
    obtain ⟨rfl, rfl⟩ := Prod.mk.inj same
    exact ⟨member, found⟩
  · rintro ⟨member, found⟩
    exact ⟨id, member, by rw [found, Option.map_some]⟩

/-- Every stored entry of the devices can be read. -/
def BulkReadable (ids : List String) (cache : Dict String DeviceTelemetry) : Prop :=
  ∀ id entry, id ∈ ids → cache.get? id = some entry → entry.readable = true

theorem getDeviceTelemetryBulk_get? {ids : List String} (distinct : ids.Nodup) {id : String}
    {data : DeviceTelemetryOut} :
    (getDeviceTelemetryBulk ids cache).get? id = some data ↔
      BulkReadable ids cache ∧ id ∈ ids ∧ ∃ entry, cache.get? id = some entry ∧ entry.out = data := by
  have all_iff : (storedTelemetry ids cache).all (fun item => item.2.readable) = true ↔
      BulkReadable ids cache := by
    rw [List.all_eq_true]
    constructor
    · intro all other entry member found
      exact all (other, entry) (mem_storedTelemetry.mpr ⟨member, found⟩)
    · intro readable item member
      obtain ⟨listed, found⟩ := mem_storedTelemetry.mp member
      exact readable item.1 item.2 listed found
  unfold getDeviceTelemetryBulk
  by_cases readable : (storedTelemetry ids cache).all (fun item => item.2.readable) = true
  · have keys : (((storedTelemetry ids cache).map (fun item => (item.1, item.2.out))).map
        Prod.fst).Nodup := by
      rw [List.map_map]
      change ((storedTelemetry ids cache).map Prod.fst).Nodup
      rw [storedTelemetry_keys]
      exact distinct.filter _
    rw [if_pos readable, Dict.get?_ofList_iff keys, List.mem_map]
    constructor
    · rintro ⟨⟨other, entry⟩, member, pair⟩
      obtain ⟨rfl, rfl⟩ := Prod.mk.inj pair
      obtain ⟨listed, found⟩ := mem_storedTelemetry.mp member
      exact ⟨all_iff.mp readable, listed, entry, found, rfl⟩
    · rintro ⟨-, listed, entry, found, rfl⟩
      exact ⟨(id, entry), mem_storedTelemetry.mpr ⟨listed, found⟩, rfl⟩
  · rw [if_neg readable]
    apply iff_of_false
    · intro impossible
      cases impossible
    · rintro ⟨all, -⟩
      exact readable (all_iff.mpr all)

variable {selects : DeviceStatus → Bool} {test : DeviceTelemetryOut → Bool}

/-- What it takes for a pass to change a device. -/
structure PassHits (selects : DeviceStatus → Bool) (test : DeviceTelemetryOut → Bool)
    (cache : Dict String DeviceTelemetry) (devices : Dict String DeviceStatus) (id : String)
    (device : DeviceStatus) : Prop where
  found : devices.get? id = some device
  selected : selects device = true
  readable : ∀ other row entry, devices.get? other = some row → selects row = true →
    cache.get? other = some entry → entry.readable = true
  tested : ∃ entry, cache.get? id = some entry ∧ test entry.out = true

theorem mem_passHits {id : String} :
    id ∈ passHits selects test cache devices ↔
      ∃ device, PassHits selects test cache devices id device := by
  have distinct := devices.map_filter_nodup (fun entry => selects entry.2)
  have rows : ∀ other, other ∈ (devices.entries.filter (fun entry => selects entry.2)).map Prod.fst ↔
      ∃ row, devices.get? other = some row ∧ selects row = true :=
    fun other => devices.mem_map_filter (fun entry => selects entry.2) other
  unfold passHits
  rw [List.mem_filter]
  constructor
  · rintro ⟨listed, hit⟩
    obtain ⟨data, read, passes⟩ := (Option.any_eq_true _ _).mp hit
    obtain ⟨readable, -, entry, stored, rfl⟩ := (getDeviceTelemetryBulk_get? distinct).mp read
    obtain ⟨device, found, selected⟩ := (rows id).mp listed
    refine ⟨device, found, selected, ?_, entry, stored, passes⟩
    intro other row there present chosen known
    exact readable other there ((rows other).mpr ⟨row, present, chosen⟩) known
  · rintro ⟨device, found, selected, readable, entry, stored, passes⟩
    have listed := (rows id).mpr ⟨device, found, selected⟩
    refine ⟨listed, (Option.any_eq_true _ _).mpr ⟨entry.out, ?_, passes⟩⟩
    apply (getDeviceTelemetryBulk_get? distinct).mpr
    refine ⟨?_, listed, entry, stored, rfl⟩
    intro other there member known
    obtain ⟨row, present, chosen⟩ := (rows other).mp member
    exact readable other row there present chosen known

theorem passHits_nodup : (passHits selects test cache devices).Nodup :=
  (devices.map_filter_nodup (fun entry => selects entry.2)).filter _

/-- A device after a pass: changed if the pass hits it, and as it was otherwise. -/
theorem gatePass_get? {change : DeviceStatus → DeviceStatus} {id : String} {after : DeviceStatus} :
    (gatePass selects test change cache devices).1.get? id = some after ↔
      ∃ device, devices.get? id = some device ∧
        (PassHits selects test cache devices id device ∧ after = change device ∨
          ¬ PassHits selects test cache devices id device ∧ after = device) := by
  rw [gatePass, get?_updateRows change passHits_nodup]
  cases found : devices.get? id with
  | none => simp
  | some device =>
      by_cases hit : PassHits selects test cache devices id device
      · rw [if_pos (mem_passHits.mpr ⟨device, hit⟩), Option.map_some, Option.some.injEq]
        constructor
        · intro same
          exact ⟨device, rfl, Or.inl ⟨hit, same.symm⟩⟩
        · rintro ⟨other, same, ⟨-, changed⟩ | ⟨missed, -⟩⟩
          · rw [changed, Option.some.inj same]
          · exact absurd (Option.some.inj same ▸ hit) missed
      · have unlisted : id ∉ passHits selects test cache devices := by
          intro member
          obtain ⟨other, hits⟩ := mem_passHits.mp member
          exact hit (Option.some.inj (found.symm.trans hits.found) ▸ hits)
        rw [if_neg unlisted, Option.some.injEq]
        constructor
        · intro same
          exact ⟨device, rfl, Or.inr ⟨hit, same.symm⟩⟩
        · rintro ⟨other, same, ⟨hits, -⟩ | ⟨-, kept⟩⟩
          · exact absurd (Option.some.inj same ▸ hits) hit
          · rw [kept, Option.some.inj same]

/-- An update that makes no device `VERIFIED`, of any rows in any order. -/
theorem verified_before_updateRows {change : DeviceStatus → DeviceStatus}
    (modest : ∀ device, (change device).applyStatus = some "VERIFIED" →
      device.applyStatus = some "VERIFIED")
    (ids : List String) {id : String} {after : DeviceStatus}
    (shown : (ids.foldl (updateRow change) devices).get? id = some after)
    (verified : after.applyStatus = some "VERIFIED") :
    ∃ before, devices.get? id = some before ∧ before.applyStatus = some "VERIFIED" := by
  induction ids generalizing devices with
  | nil => exact ⟨after, shown, verified⟩
  | cons first rest ih =>
      rw [List.foldl_cons] at shown
      obtain ⟨later, there, status⟩ := ih shown
      rw [get?_updateRow] at there
      split at there
      · rename_i same
        obtain ⟨before, found, rfl⟩ := Option.map_eq_some_iff.mp there
        exact ⟨before, same ▸ found, modest before status⟩
      · exact ⟨later, there, status⟩

end Passes

/-! ### A run of the gate -/

section Gate

variable {gateMinutes now : Int} {state : GateState} {id : String} {device : DeviceStatus}

def MarkedBy (gateMinutes now : Int) (state : GateState) (id : String) (device : DeviceStatus) :
    Prop :=
  PassHits (DeviceStatus.selected (gateCutoff gateMinutes now)) (fun data => !data.hasHandshake)
    state.telemetry state.devices id device

/-- What is silent after a run was silent before and has not been marked. -/
theorem silent_after_gate_iff :
    SilentDevice (gateCutoff gateMinutes now) (gateStep gateMinutes state (.gate now)) id device ↔
      SilentDevice (gateCutoff gateMinutes now) state id device ∧
        ¬ MarkedBy gateMinutes now state id device := by
  constructor
  · rintro ⟨found, live, applied, overdue, silent⟩
    -- a row that a pass has changed is no longer `APPLIED`
    obtain ⟨between, stored, ⟨-, promoted⟩ | ⟨-, rfl⟩⟩ := gatePass_get?.mp found
    · rw [promoted] at applied
      exact absurd (Option.some.inj applied) (by decide : "VERIFIED" ≠ "APPLIED")
    · obtain ⟨before, original, ⟨-, marked⟩ | ⟨missed, rfl⟩⟩ := gatePass_get?.mp stored
      · rw [marked] at applied
        exact absurd (Option.some.inj applied) (by decide : "ERROR" ≠ "APPLIED")
      · exact ⟨⟨original, live, applied, overdue, silent⟩, missed⟩
  · rintro ⟨⟨found, live, applied, overdue, silent⟩, missed⟩
    refine ⟨?_, live, applied, overdue, silent⟩
    apply gatePass_get?.mpr
    refine ⟨device, gatePass_get?.mpr ⟨device, found, Or.inr ⟨missed, rfl⟩⟩, Or.inr ⟨?_, rfl⟩⟩
    rintro ⟨-, -, -, entry, stored, seen⟩
    obtain ⟨other, there, unseen⟩ := silent
    obtain rfl := Option.some.inj (stored.symm.trans there)
    rw [DeviceTelemetry.hasHandshake, seen] at unseen
    cases unseen

/-- A silent device is marked unless it carries a reason or an entry cannot be read. -/
theorem SilentDevice.marked_iff
    (silent : SilentDevice (gateCutoff gateMinutes now) state id device) :
    MarkedBy gateMinutes now state id device ↔
      device.unstableReason = none ∧ ∀ other row entry,
        state.devices.get? other = some row →
        row.selected (gateCutoff gateMinutes now) = true →
        state.telemetry.get? other = some entry → entry.readable = true := by
  have selected_iff : device.selected (gateCutoff gateMinutes now) = true ↔
      device.unstableReason = none := by
    simp [DeviceStatus.selected, silent.applied, silent.live, silent.overdue]
  constructor
  · intro marked
    exact ⟨selected_iff.mp marked.selected, marked.readable⟩
  · rintro ⟨unmarked, readable⟩
    obtain ⟨entry, stored, unseen⟩ := silent.silent
    refine ⟨silent.found, selected_iff.mpr unmarked, readable, entry, stored, ?_⟩
    rw [DeviceTelemetry.hasHandshake] at unseen
    rw [unseen]
    rfl

theorem catches_iff_unhindered (event : GateEvent) :
    CatchesSilent gateMinutes state event ↔ Unhindered gateMinutes state event := by
  cases event with
  | gate now =>
      constructor
      · intro caught id device silent
        by_cases marked : MarkedBy gateMinutes now state id device
        · exact silent.marked_iff.mp marked
        · exact absurd (silent_after_gate_iff.mpr ⟨silent, marked⟩) (caught id device)
      · intro unhindered id device silent
        obtain ⟨before, missed⟩ := silent_after_gate_iff.mp silent
        exact missed (before.marked_iff.mpr (unhindered id device before))
  | _ => exact iff_of_true trivial trivial

theorem applied_modest (now : Int) (device : DeviceStatus)
    (verified : (device.applied now).applyStatus = some "VERIFIED") :
    device.applyStatus = some "VERIFIED" := by
  unfold DeviceStatus.applied at verified
  split at verified
  · exact verified
  · exact absurd (Option.some.inj verified) (by decide : "APPLIED" ≠ "VERIFIED")

theorem reissuedRow_modest (publicKey : String) (appliedAt : Option Int) (device : DeviceStatus)
    (verified : (reissuedRow publicKey appliedAt device).applyStatus = some "VERIFIED") :
    device.applyStatus = some "VERIFIED" := by
  unfold reissuedRow at verified
  split at verified
  · exact verified
  · cases appliedAt with
    | none => exact verified
    | some now => exact absurd (Option.some.inj verified) (by decide : "APPLIED" ≠ "VERIFIED")

theorem verifies_seen (event : GateEvent) : VerifiesSeen gateMinutes state event := by
  intro id before after found shown unverified verified
  -- any other step leaves the `VERIFIED` devices as they are
  have impossible : ∀ (change : DeviceStatus → DeviceStatus) (ids : List String),
      (∀ device, (change device).applyStatus = some "VERIFIED" → device.applyStatus = some "VERIFIED") →
      (ids.foldl (updateRow change) state.devices).get? id = some after → False := by
    intro change ids modest updated
    obtain ⟨earlier, there, status⟩ := verified_before_updateRows modest ids updated verified
    exact unverified (Option.some.inj (there.symm.trans found) ▸ status)
  cases event with
  | heartbeat serverId peers now =>
      simp only [gateStep, agentHeartbeat] at shown
      split at shown
      · exact (impossible _ _ (applied_modest now) shown).elim
      · exact absurd (Option.some.inj (shown.symm.trans found) ▸ verified) unverified
  | reissue id publicKey appliedAt =>
      exact (impossible _ [id] (reissuedRow_modest publicKey appliedAt) shown).elim
  | telemetry other handshakeTs now =>
      exact absurd (Option.some.inj (shown.symm.trans found) ▸ verified) unverified
  | expire other => exact absurd (Option.some.inj (shown.symm.trans found) ▸ verified) unverified
  | gate now =>
      obtain ⟨between, stored, ⟨hit, -⟩ | ⟨-, rfl⟩⟩ := gatePass_get?.mp shown
      · exact hit.tested
      · obtain ⟨original, there, ⟨-, rfl⟩ | ⟨-, rfl⟩⟩ := gatePass_get?.mp stored
        · exact absurd (Option.some.inj verified) (by decide : "ERROR" ≠ "VERIFIED")
        · exact absurd (Option.some.inj (there.symm.trans found) ▸ verified) unverified

end Gate

/-! ### Every run -/

/-- In every run, devices become `VERIFIED` on a handshake only; and the gate catches all silent
devices throughout exactly when each of its runs is unhindered. -/
theorem gate_catches_silent_iff (gateMinutes : Int) (state : GateState)
    (events : List GateEvent) :
    EveryStep (gateStep gateMinutes) state events (VerifiesSeen gateMinutes) ∧
      (EveryStep (gateStep gateMinutes) state events (CatchesSilent gateMinutes) ↔
        EveryStep (gateStep gateMinutes) state events (Unhindered gateMinutes)) := by
  refine ⟨fun _ event _ _ => verifies_seen event, ?_⟩
  constructor
  · intro every earlier event later split
    exact (catches_iff_unhindered event).mp (every earlier event later split)
  · intro every earlier event later split
    exact (catches_iff_unhindered event).mpr (every earlier event later split)

/-- A device whose peer the node lists without a handshake. -/
def silentPeer : HeartbeatPeer := ⟨"key-1", none, true⟩

/-- A peer with a handshake far in the future. -/
def skewedPeer : HeartbeatPeer := ⟨"key-2", some (-1000000000000000), true⟩

def minute : Int := 60 * 1000000

def appliedOnce : GateState :=
  ⟨Dict.ofList [("d1", ⟨"s1", "key-1", none, some "PENDING_APPLY", none, none, none⟩)], Dict.empty⟩

def appliedBeside : GateState :=
  ⟨Dict.ofList [("d1", ⟨"s1", "key-1", none, some "PENDING_APPLY", none, none, none⟩),
    ("d2", ⟨"s1", "key-2", none, some "PENDING_APPLY", none, none, none⟩)], Dict.empty⟩

/-- A device marked by one run of the gate and applied again by a heartbeat.  The entries of the
cache live for two minutes: those that a run of the gate reads are a minute old. -/
def appliedAgain : List GateEvent :=
  [.heartbeat "s1" [silentPeer] 0, .expire "d1", .heartbeat "s1" [silentPeer] (5 * minute),
    .gate (6 * minute), .heartbeat "s1" [silentPeer] (7 * minute), .expire "d1",
    .heartbeat "s1" [silentPeer] (12 * minute)]

def besideSkewed : List GateEvent :=
  [.heartbeat "s1" [silentPeer, skewedPeer] 0, .expire "d1", .expire "d2",
    .heartbeat "s1" [silentPeer, skewedPeer] (5 * minute)]

/-- A device that was marked, is applied again by a heartbeat and stays silent is not caught
again.  Neither is a silent device next to one whose handshake time cannot be read. -/
theorem silent_devices_missed :
    ¬ EveryStep (gateStep 5) appliedOnce (appliedAgain ++ [.gate (13 * minute)])
        (CatchesSilent 5) ∧
      ¬ EveryStep (gateStep 5) appliedBeside (besideSkewed ++ [.gate (6 * minute)])
        (CatchesSilent 5) := by
  constructor
  · intro every
    refine every appliedAgain (.gate (13 * minute)) [] rfl "d1"
      ⟨"s1", "key-1", none, some "APPLIED", some (7 * minute), some noHandshakeReason,
        some noHandshakeReason⟩ ⟨?_, rfl, rfl, ?_, ⟨none, none⟩, ?_, rfl⟩
    all_goals decide +kernel
  · intro every
    refine every besideSkewed (.gate (6 * minute)) [] rfl "d1"
      ⟨"s1", "key-1", none, some "APPLIED", some 0, none, none⟩
      ⟨?_, rfl, rfl, ?_, ⟨none, none⟩, ?_, rfl⟩
    all_goals decide +kernel

end VpnSuite.Fleet
