/-
Blocking a device, and the reconciler that may undo it (`block_device` in
`api/v1/devices.py`, `services/limits_check_service.py`, `reconcile_node` in
`services/reconciliation_engine.py`).

Both ways of blocking remove the peer from the node and leave the device row as it is.
The reconciler rebuilds the node from the rows.  A block therefore lasts exactly when the
row was already one the reconciler does not put on the node.
-/

import VpnSuite.Fleet.DeviceModel
import VpnSuite.ControlPlane.ReconciliationResults
import Mathlib.Logic.Relation

set_option autoImplicit false

namespace VpnSuite.Fleet

open Foundations
open Foundations.PythonText
open VpnSuite.ControlPlane

/-! ### The node and the device table -/

/-- The device table and the peers of one node, which stands for the given servers. -/
structure NodeState where
  devices : Dict String Device
  node : Dict String NodeEntry
  deriving DecidableEq

inductive BlockError where
  | confirmationRequired
  | deviceNotFound
  | nodeRefused
  deriving DecidableEq, Repr

/-- Status and detail of a refused block. -/
def BlockError.response : BlockError → Nat × String
  | .confirmationRequired => (400, "Block requires confirm_token in body")
  | .deviceNotFound => (404, "Device not found")
  | .nodeRefused => (502, "Node did not accept block")

/-- `adapter.remove_peer(server_id, key)`, as far as it concerns this node. -/
def removePeerOn (serverIds : List String) (serverId key : String)
    (node : Dict String NodeEntry) : Dict String NodeEntry :=
  if serverId ∈ serverIds then node.erase key else node

/-- `block_device`: in agent mode the row is revoked, in real mode only the peer is
removed. -/
def blockDevice (settings : FleetSettings) (raises : Failures) (serverIds : List String)
    (now : Int) (confirmed : Bool) (id : String) (state : NodeState) :
    Except BlockError NodeState :=
  if confirmed then
    match state.devices.get? id with
    | none => .error .deviceNotFound
    | some device =>
        match settings.nodeMode with
        | .agent =>
            .ok { state with devices := state.devices.set id { device with revokedAt := some now } }
        | .mock => .error .nodeRefused
        | .real =>
            match raises (.removePeer device.publicKey) with
            | some _ => .error .nodeRefused
            | none =>
                .ok { state with
                  node := removePeerOn serverIds device.serverId device.publicKey state.node }
  else .error .confirmationRequired

/-- A live device of the server whose listed peer is over the limit. -/
def overLimit (serverId : String) (limitBytes : Nat) (traffic : String → Nat)
    (state : NodeState) (device : Device) : Bool :=
  device.serverId = serverId && device.revokedAt = none && device.publicKey ∈ state.node.keys &&
    traffic device.publicKey > limitBytes

/-- The part of `run_limits_check` for one server: remove what is over the limit. -/
def runLimitsCheck (raises : Failures) (serverIds : List String) (serverId : String)
    (limitBytes : Nat) (traffic : String → Nat) (state : NodeState) : NodeState :=
  { state with
    node := (state.devices.entries.filter (fun entry =>
        overLimit serverId limitBytes traffic state entry.2)).foldl
      (fun node entry =>
        match raises (.removePeer entry.2.publicKey) with
        | some _ => node
        | none => removePeerOn serverIds serverId entry.2.publicKey node) state.node }

/-! ### `reconcile_node` -/

def reconcileRow (device : Device) : DbPeer :=
  { publicKey := device.publicKey
    allowedIps := some (strip (orDefault device.allowedIps ""))
    presharedKey := orNone (strip (orDefault device.presharedKey "")) }

/-- The rows with a public key; a blank one is skipped. -/
def keyedRows (serverIds : List String) (devices : Dict String Device) :
    List (String × Device) :=
  (servedRows serverIds devices).filter (fun entry => entry.2.publicKey ≠ "")

def reconcileRows (serverIds : List String) (devices : Dict String Device) : List DbPeer :=
  (keyedRows serverIds devices).map (fun entry => reconcileRow entry.2)

/-- `pubkey_to_device_id`. -/
def deviceIdFor (serverIds : List String) (devices : Dict String Device) : Dict String String :=
  Dict.ofList ((keyedRows serverIds devices).map (fun entry => (entry.2.publicKey, entry.1)))

def markApplied (ids : List String) (devices : Dict String Device) : Dict String Device :=
  ids.foldl (fun table id =>
    match table.get? id with
    | none => table
    | some device => table.set id { device with applyStatus := .applied }) devices

/-- `reconcile_node`: the cycle on the node, and `APPLIED` for the devices it added. -/
def reconcileNode (settings : ReconciliationSettings) (raises : Failures)
    (serverIds : List String) (state : NodeState) : NodeState :=
  let applied := reconcileCycle settings raises (reconcileRows serverIds state.devices) state.node
  { devices := markApplied
      (applied.result.peersAddedPubkeys.filterMap (deviceIdFor serverIds state.devices).get?)
      state.devices
    node := applied.node }

/-- The reconciler puts the device on the node. -/
def reconcilable (serverIds : List String) (device : Device) : Bool :=
  device.serverId ∈ serverIds && device.revokedAt = none && device.suspendedAt = none &&
    device.publicKey ≠ "" && isValidServerAllowedIps device.allowedIps

theorem markApplied_get? (ids : List String) (devices : Dict String Device) (id : String) :
    (markApplied ids devices).get? id = (devices.get? id).map (fun device =>
      if id ∈ ids then { device with applyStatus := .applied } else device) := by
  unfold markApplied
  induction ids generalizing devices with
  | nil => simp
  | cons first rest ih =>
      rw [List.foldl_cons, ih]
      cases stored : devices.get? first with
      | none =>
          dsimp only
          by_cases here : id = first
          · rw [here, stored]
            rfl
          · simp [here]
      | some device =>
          dsimp only
          rw [Dict.get?_set]
          by_cases here : id = first
          · rw [if_pos here, here, stored]
            simp
          · rw [if_neg here]
            simp [here]

/-! ### The row that speaks for a key -/

/-- No other device has the key. -/
def OwnKey (devices : Dict String Device) (id key : String) : Prop :=
  ∀ other device, devices.get? other = some device → device.publicKey = key → other = id

theorem mem_keyedRows {serverIds : List String} {devices : Dict String Device} {id : String}
    {device : Device} :
    (id, device) ∈ keyedRows serverIds devices ↔
      devices.get? id = some device ∧ device.serverId ∈ serverIds ∧ device.revokedAt = none ∧
        device.suspendedAt = none ∧ device.publicKey ≠ "" := by
  unfold keyedRows servedRows
  simp only [List.mem_filter, decide_eq_true_eq, Dict.mem_entries_iff]
  constructor
  · rintro ⟨⟨found, onServer, live, active⟩, named⟩
    exact ⟨found, onServer, live, active, named⟩
  · rintro ⟨found, onServer, live, active, named⟩
    exact ⟨⟨found, onServer, live, active⟩, named⟩

section Own

variable {serverIds : List String} {devices : Dict String Device} {id : String} {device : Device}
  (found : devices.get? id = some device) (own : OwnKey devices id device.publicKey)

include found own

theorem desiredRow_eq_row {row : DbPeer}
    (desired : desiredRow (reconcileRows serverIds devices) device.publicKey = some row) :
    row = reconcileRow device ∧ (id, device) ∈ keyedRows serverIds devices := by
  unfold desiredRow at desired
  split at desired
  · cases desired
  · have member := List.mem_reverse.mp (List.mem_of_find?_eq_some desired)
    have keyed := List.find?_some desired
    obtain ⟨⟨other, stored⟩, listed, rfl⟩ := List.mem_map.mp member
    have there := (mem_keyedRows.mp listed).1
    obtain rfl := own other stored there (of_decide_eq_true keyed)
    obtain rfl := Option.some.inj (found.symm.trans there)
    exact ⟨rfl, listed⟩

theorem desiredRow_of_listed (listed : (id, device) ∈ keyedRows serverIds devices) :
    desiredRow (reconcileRows serverIds devices) device.publicKey =
      some (reconcileRow device) := by
  have named := (mem_keyedRows.mp listed).2.2.2.2
  have present : ((reconcileRows serverIds devices).reverse.find?
      (fun row => row.publicKey = device.publicKey)).isSome = true := by
    rw [List.find?_isSome]
    exact ⟨reconcileRow device, List.mem_reverse.mpr (List.mem_map.mpr ⟨(id, device), listed, rfl⟩),
      decide_eq_true rfl⟩
  obtain ⟨row, chosen⟩ := Option.isSome_iff_exists.mp present
  have desired : desiredRow (reconcileRows serverIds devices) device.publicKey = some row := by
    rw [desiredRow, if_neg named]
    exact chosen
  rw [desired, (desiredRow_eq_row found own desired).1]

omit found own in
theorem reconcilable_iff :
    reconcilable serverIds device = true ↔
      (device.serverId ∈ serverIds ∧ device.revokedAt = none ∧ device.suspendedAt = none ∧
        device.publicKey ≠ "") ∧
      isValidServerAllowedIps (reconcileRow device).allowedIps = true := by
  have same : isValidServerAllowedIps (reconcileRow device).allowedIps =
      isValidServerAllowedIps device.allowedIps := by
    simp only [reconcileRow, isValidServerAllowedIps, orDefault_empty, strip_strip]
  rw [same]
  simp only [reconcilable, Bool.and_eq_true, decide_eq_true_eq, and_assoc]

variable {settings : ReconciliationSettings} (writable : settings.readOnly = false)
  {node : Dict String NodeEntry} (absent : node.get? device.publicKey = none)

include writable absent

/-- A cycle keeps a removed peer away when its row is not reconcilable. -/
theorem reconcileCycle_stays_absent (raises : Failures)
    (unserved : reconcilable serverIds device = false) :
    (reconcileCycle settings raises (reconcileRows serverIds devices) node).node.get?
      device.publicKey = none := by
  cases desired : desiredRow (reconcileRows serverIds devices) device.publicKey with
  | none =>
      by_cases spared : device.publicKey = "" ∨ settings.removeOrphans = false
      · rw [reconcileCycle_kept writable raises desired spared]
        exact absent
      · rw [not_or, Bool.not_eq_false] at spared
        rw [reconcileCycle_orphan writable raises desired spared.1 spared.2, absent, orphanCell]
        split <;> rfl
  | some row =>
      obtain ⟨rfl, listed⟩ := desiredRow_eq_row found own desired
      have invalid : isValidServerAllowedIps (reconcileRow device).allowedIps = false := by
        rw [← Bool.not_eq_true]
        intro valid
        rw [reconcilable_iff.mpr ⟨(mem_keyedRows.mp listed).2, valid⟩] at unserved
        cases unserved
      rw [reconcileCycle_invalid writable raises desired invalid]
      exact absent

/-- A cycle in which no call fails puts a reconcilable device on the node. -/
theorem reconcileCycle_brings_back (served : reconcilable serverIds device = true) :
    (reconcileCycle settings noFailures (reconcileRows serverIds devices) node).node.get?
      device.publicKey ≠ none := by
  obtain ⟨row, valid⟩ := reconcilable_iff.mp served
  have desired := desiredRow_of_listed found own (mem_keyedRows.mpr ⟨found, row⟩)
  rw [reconcileCycle_missing writable noFailures desired valid absent]
  simp [addedCell, noFailures]

end Own

/-! ### Runs after a block -/

section Runs

variable (fleet : FleetSettings) (settings : ReconciliationSettings) (serverIds : List String)

/-- One step of the system that does not re-enable the device `id` with public key `key`:
a block, a limits check, a reconciliation, or anything that concerns other devices. -/
inductive NodeStep (id key : String) : NodeState → NodeState → Prop where
  | block {before after : NodeState} (raises : Failures) (now : Int) (confirmed : Bool)
      (target : String)
      (accepted : blockDevice fleet raises serverIds now confirmed target before = .ok after) :
      NodeStep id key before after
  | limitsCheck (before : NodeState) (raises : Failures) (serverId : String) (limitBytes : Nat)
      (traffic : String → Nat) :
      NodeStep id key before (runLimitsCheck raises serverIds serverId limitBytes traffic before)
  | reconcile (before : NodeState) (raises : Failures) :
      NodeStep id key before (reconcileNode settings raises serverIds before)
  | other {before after : NodeState} (row : after.devices.get? id = before.devices.get? id)
      (peer : after.node.get? key = before.node.get? key) (own : OwnKey after.devices id key) :
      NodeStep id key before after

/-- The device is blocked on one of the two paths and its peer is gone. -/
inductive Blocks (id key : String) (before after : NodeState) : Prop where
  | block (raises : Failures) (now : Int) (confirmed : Bool)
      (accepted : blockDevice fleet raises serverIds now confirmed id before = .ok after)
      (removed : after.node.get? key = none)
  | limitsCheck (raises : Failures) (serverId : String) (limitBytes : Nat)
      (traffic : String → Nat)
      (checked : after = runLimitsCheck raises serverIds serverId limitBytes traffic before)
      (present : before.node.get? key ≠ none) (removed : after.node.get? key = none)

/-- The blocked device: its row, its key, and no peer. -/
structure BlockedRow (id key : String) (state : NodeState) : Prop where
  row : ∃ device, state.devices.get? id = some device ∧ device.publicKey = key ∧
    reconcilable serverIds device = false
  own : OwnKey state.devices id key
  removed : state.node.get? key = none

variable {fleet settings serverIds}

theorem blockDevice_real (real : fleet.nodeMode = .real) {raises : Failures} {now : Int}
    {confirmed : Bool} {target : String} {before after : NodeState}
    (accepted : blockDevice fleet raises serverIds now confirmed target before = .ok after) :
    after.devices = before.devices ∧
      ∀ key, before.node.get? key = none → after.node.get? key = none := by
  unfold blockDevice at accepted
  split at accepted
  · split at accepted
    · cases accepted
    · rw [real] at accepted
      dsimp only at accepted
      split at accepted
      · cases accepted
      · obtain rfl := Except.ok.inj accepted
        refine ⟨rfl, ?_⟩
        intro key absent
        dsimp only
        unfold removePeerOn
        split
        · rw [Dict.get?_erase]
          split
          · rfl
          · exact absent
        · exact absent
  · cases accepted

theorem runLimitsCheck_absent (raises : Failures) (serverId : String) (limitBytes : Nat)
    (traffic : String → Nat) {state : NodeState} {key : String}
    (absent : state.node.get? key = none) :
    (runLimitsCheck raises serverIds serverId limitBytes traffic state).node.get? key = none := by
  unfold runLimitsCheck
  dsimp only
  generalize state.devices.entries.filter _ = entries
  have folded : ∀ node : Dict String NodeEntry, node.get? key = none →
      (entries.foldl (fun node entry =>
        match raises (.removePeer entry.2.publicKey) with
        | some _ => node
        | none => removePeerOn serverIds serverId entry.2.publicKey node) node).get? key =
          none := by
    induction entries with
    | nil => exact fun _ gone => gone
    | cons entry rest ih =>
        intro node gone
        rw [List.foldl_cons]
        apply ih
        split
        · exact gone
        · unfold removePeerOn
          split
          · rw [Dict.get?_erase]
            split
            · rfl
            · exact gone
          · exact gone
  exact folded state.node absent

theorem NodeStep.keeps_blocked (real : fleet.nodeMode = .real)
    (writable : settings.readOnly = false) {id key : String} {before after : NodeState}
    (step : NodeStep fleet settings serverIds id key before after)
    (blocked : BlockedRow serverIds id key before) : BlockedRow serverIds id key after := by
  obtain ⟨device, found, keyed, unserved⟩ := blocked.row
  cases step with
  | block raises now confirmed target accepted =>
      obtain ⟨same, gone⟩ := blockDevice_real real accepted
      exact ⟨⟨device, same ▸ found, keyed, unserved⟩, same ▸ blocked.own,
        gone key blocked.removed⟩
  | limitsCheck raises serverId limitBytes traffic =>
      exact ⟨⟨device, found, keyed, unserved⟩, blocked.own,
        runLimitsCheck_absent raises serverId limitBytes traffic blocked.removed⟩
  | reconcile raises =>
      have own := blocked.own
      have removed := blocked.removed
      subst keyed
      refine ⟨?_, ?_, reconcileCycle_stays_absent found own writable removed raises unserved⟩
      · refine ⟨_, (markApplied_get? _ _ id).trans (by rw [found]; rfl), ?_, ?_⟩
        · split <;> rfl
        · split
          · exact unserved
          · exact unserved
      · intro other row stored same
        change (markApplied _ _).get? other = some row at stored
        rw [markApplied_get?] at stored
        obtain ⟨earlier, there, rfl⟩ := Option.map_eq_some_iff.mp stored
        apply own other earlier there
        revert same
        split <;> exact fun equal => equal
  | other row peer own =>
      exact ⟨⟨device, row.trans found, keyed, unserved⟩, own, peer.trans blocked.removed⟩

theorem Blocks.after_block (real : fleet.nodeMode = .real) {id key : String}
    {before after : NodeState} (blocks : Blocks fleet serverIds id key before after) :
    after.devices = before.devices ∧ after.node.get? key = none := by
  cases blocks with
  | block raises now confirmed accepted removed =>
      exact ⟨(blockDevice_real real accepted).1, removed⟩
  | limitsCheck raises serverId limitBytes traffic checked present removed =>
      exact ⟨by rw [checked]; rfl, removed⟩

/-- In real mode a block lasts through every run that does not re-enable the device if
and only if the reconciler would not have put the device on the node anyway. -/
theorem block_outlives_reconciliation_iff (real : fleet.nodeMode = .real)
    (writable : settings.readOnly = false) {id : String} {device : Device}
    {before after : NodeState} (found : before.devices.get? id = some device)
    (own : OwnKey before.devices id device.publicKey)
    (blocks : Blocks fleet serverIds id device.publicKey before after) :
    (∀ later, Relation.ReflTransGen (NodeStep fleet settings serverIds id device.publicKey)
        after later → later.node.get? device.publicKey = none) ↔
      reconcilable serverIds device = false := by
  obtain ⟨same, removed⟩ := blocks.after_block real
  rw [← same] at found own
  constructor
  · intro lasts
    rw [← Bool.not_eq_true]
    intro served
    have back := lasts _ (.single (.reconcile after noFailures))
    exact reconcileCycle_brings_back found own writable removed served back
  · intro unserved later run
    have blocked : BlockedRow serverIds id device.publicKey later := by
      induction run with
      | refl => exact ⟨⟨device, found, rfl, unserved⟩, own, removed⟩
      | tail _ step ih => exact step.keeps_blocked real writable ih
    exact blocked.removed

end Runs

/-- One device, applied on the node. -/
def appliedDevice (suspendedAt : Option Int) : Device :=
  ⟨1, "sub", "node-1", none, "key-a", some "10.8.1.2/32", none, none, suspendedAt, none, .applied⟩

def oneDevice (suspendedAt : Option Int) (node : Dict String NodeEntry) : NodeState :=
  ⟨⟨[("a", appliedDevice suspendedAt)], by simp⟩, node⟩

def onePeer : Dict String NodeEntry := ⟨[("key-a", ⟨"10.8.1.2/32", none⟩)], by simp⟩

def realDocker : FleetSettings := ⟨.real, .docker, true⟩

/-- After either block one reconciliation puts the peer back. -/
theorem reconcile_undoes_block :
    (∃ after, Blocks realDocker ["node-1"] "a" "key-a" (oneDevice none onePeer) after ∧
        ∃ later, Relation.ReflTransGen (NodeStep realDocker pruning ["node-1"] "a" "key-a")
          after later ∧ later.node.get? "key-a" ≠ none) ∧
      ∃ after, after = runLimitsCheck noFailures ["node-1"] "node-1" 100 (fun _ => 200)
          (oneDevice none onePeer) ∧ after.node.get? "key-a" = none ∧
        ∃ later, Relation.ReflTransGen (NodeStep realDocker pruning ["node-1"] "a" "key-a")
          after later ∧ later.node.get? "key-a" ≠ none := by
  refine ⟨⟨oneDevice none Dict.empty, .block noFailures 0 true rfl rfl, ?_⟩,
    ⟨oneDevice none Dict.empty, by decide +kernel, rfl, ?_⟩⟩
  · exact ⟨_, .single (.reconcile _ noFailures), by decide +kernel⟩
  · exact ⟨_, .single (.reconcile _ noFailures), by decide +kernel⟩

theorem oneDevice_own (suspendedAt : Option Int) (node : Dict String NodeEntry) :
    OwnKey (oneDevice suspendedAt node).devices "a" "key-a" := by
  intro other device found _
  have member := (Dict.mem_entries_iff _ _ _).mpr found
  exact congrArg Prod.fst (List.mem_singleton.mp member)

/-- The block of a suspended device lasts. -/
theorem block_of_suspended_lasts :
    Blocks realDocker ["node-1"] "a" "key-a" (oneDevice (some 5) onePeer)
        (oneDevice (some 5) Dict.empty) ∧
      ∀ later, Relation.ReflTransGen (NodeStep realDocker pruning ["node-1"] "a" "key-a")
        (oneDevice (some 5) Dict.empty) later → later.node.get? "key-a" = none := by
  have blocks : Blocks realDocker ["node-1"] "a" "key-a" (oneDevice (some 5) onePeer)
      (oneDevice (some 5) Dict.empty) := .block noFailures 0 true rfl rfl
  have found : (oneDevice (some 5) onePeer).devices.get? "a" = some (appliedDevice (some 5)) := rfl
  refine ⟨blocks, ?_⟩
  exact (@block_outlives_reconciliation_iff realDocker pruning ["node-1"] rfl rfl "a"
    (appliedDevice (some 5)) _ _ found (oneDevice_own (some 5) onePeer) blocks).mpr
    (by decide +kernel)

end VpnSuite.Fleet
