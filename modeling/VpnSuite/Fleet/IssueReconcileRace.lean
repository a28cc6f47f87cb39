/-
Issuing next to one `reconcile_node` run.

The reconciler reads the committed rows, lists the node's peers and applies the
difference peer by peer.  An issue transaction changes the row and the node in the other
order: `issue_device` adds the peer before its row is committed, `admin_issue_peer` after
its first commit, which the reconciler may have missed.  Either way the reconciler can
take the new peer for an orphan.  Both paths look at the node once more before they write
`APPLIED`; a removal that comes after that look goes unnoticed.

Every call to the node may raise.  The paths are those with node calls
(`NODE_MODE=real`, `NODE_DISCOVERY` not `agent`).  The reconciler left alone is the
sequential `reconcile_node`.
-/

import VpnSuite.Fleet.BlockReconcile
import VpnSuite.Fleet.ConcurrentIssue

set_option autoImplicit false

namespace VpnSuite.Fleet

open Foundations
open Foundations.PythonText
open VpnSuite.ControlPlane
open VpnSuite.Runtime (PeerConfigLike)

/-! ### Issue transactions from the insert on -/

/-- A transaction that has its owner and its address. -/
structure IssueOrder where
  task : IssueTask
  owner : Int × String
  allowedIps : String
  deriving DecidableEq, Repr

namespace IssueOrder

def id (order : IssueOrder) : String := order.task.inputs.deviceId

def key (order : IssueOrder) : String := order.task.inputs.publicKey

def isAdmin (order : IssueOrder) : Bool :=
  match order.task with
  | .issue _ => false
  | .admin _ => true

def row (order : IssueOrder) (applyStatus : ApplyStatus) : Device :=
  taskDevice order.task order.owner order.allowedIps applyStatus

end IssueOrder

/-- The statement a transaction comes to next. -/
inductive PeerPhase where
  | waiting
  | inserted
  | verifying
  | created
  | ensuring
  | readding
  | routing
  | confirming
  | checked
  | failed
  | finished (issued : Bool)
  deriving DecidableEq, Repr

/-- The row of the transaction is committed. -/
def PeerPhase.hasRow (isAdmin : Bool) : PeerPhase → Bool
  | .waiting => false
  | .finished issued => issued
  | _ => isAdmin

/-- The transaction has looked at the node for the last time and found the peer there. -/
def PeerPhase.pastCheck (isAdmin : Bool) : PeerPhase → Bool
  | .routing => !isAdmin
  | .checked => true
  | _ => false

/-- How the code looks for a key among the listed peers. -/
def peerListed (key : String) (node : Dict String NodeEntry) : Bool :=
  node.keys.any (fun listed => strip listed = key)

/-- `update(Device).where(id).values(apply_status=...)`. -/
def setStatus (id : String) (applyStatus : ApplyStatus) (devices : Dict String Device) :
    Dict String Device :=
  match devices.get? id with
  | none => devices
  | some device => devices.set id { device with applyStatus := applyStatus }

/-! ### The reconciler, call by call -/

inductive NodeOp where
  | remove (key : String)
  | add (peer : PeerConfigLike)
  | reapply (peer : PeerConfigLike)
  | readd (peer : PeerConfigLike)
  deriving DecidableEq, Repr

/-- The key an operation calls `remove_peer` with. -/
def NodeOp.removedKey : NodeOp → Option String
  | .remove key => some key
  | .reapply peer => some peer.publicKey
  | _ => none

/-- The calls `apply_diff` makes. -/
def opsOf (settings : ReconciliationSettings) (diff : ReconciliationDiff) : List NodeOp :=
  if settings.readOnly = true ∧
      (diff.peersToAdd ≠ [] ∨ diff.peersToRemove ≠ [] ∨ diff.peersToUpdate ≠ []) then []
  else
    (if settings.removeOrphans then diff.peersToRemove.map .remove else []) ++
      (diff.peersToAdd.map .add ++ diff.peersToUpdate.map .reapply)

inductive ReconcilePhase where
  | idle
  | rowsRead (rows : List DbPeer) (ids : Dict String String)
  | applying (ops : List NodeOp) (added : List String) (ids : Dict String String)
  | finished
  deriving DecidableEq

/-! ### Interleavings -/

structure RaceState (n : Nat) where
  devices : Dict String Device
  node : Dict String NodeEntry
  phases : Fin n → PeerPhase
  reconciler : ReconcilePhase

namespace RaceState

variable {n : Nat}

def start (devices : Dict String Device) (node : Dict String NodeEntry) : RaceState n :=
  ⟨devices, node, fun _ => .waiting, .idle⟩

def setPhase (state : RaceState n) (i : Fin n) (phase : PeerPhase) : RaceState n :=
  { state with phases := Function.update state.phases i phase }

theorem setPhase_self (state : RaceState n) (i : Fin n) (phase : PeerPhase) :
    (state.setPhase i phase).phases i = phase := by
  simp only [setPhase, Function.update_self]

theorem setPhase_of_ne (state : RaceState n) {i j : Fin n} (phase : PeerPhase)
    (different : j ≠ i) : (state.setPhase i phase).phases j = state.phases j := by
  simp only [setPhase, Function.update_of_ne different]

end RaceState

inductive RaceAction (n : Nat) where
  | issue (i : Fin n) (raises : Bool)
  | reconcile (raises : Bool)
  deriving DecidableEq, Repr

section System

variable {n : Nat} (fleet : FleetSettings) (settings : ReconciliationSettings)
  (serverIds : List String) (orders : Fin n → IssueOrder)

/-- The insert and commit of a row under a new id. -/
def commitRow (order : IssueOrder) (applyStatus : ApplyStatus) (next : PeerPhase)
    (state : RaceState n) (i : Fin n) : RaceState n :=
  if order.id ∈ state.devices.keys then state.setPhase i (.finished false)
  else
    RaceState.setPhase { state with
      devices := state.devices.set order.id (order.row applyStatus) } i next

/-- The next statement of a transaction. -/
def issueTurn (raises : Bool) (state : RaceState n) (i : Fin n) : RaceState n :=
  let order := orders i
  match state.phases i with
  | .waiting =>
      if order.isAdmin then commitRow order .created .created state i
      else state.setPhase i .inserted
  | .inserted =>
      if raises then state.setPhase i .failed
      else
        RaceState.setPhase { state with
          node := state.node.set order.key ⟨order.allowedIps, order.task.inputs.presharedKey⟩ }
          i .verifying
  | .verifying =>
      if !raises && peerListed order.key state.node then state.setPhase i .ensuring
      else state.setPhase i .failed
  | .created =>
      if raises then state.setPhase i .failed
      else
        RaceState.setPhase { state with
          devices := setStatus order.id .applying state.devices } i .ensuring
  | .ensuring =>
      if raises then state.setPhase i .failed
      else if peerListed (strip order.key) state.node then state.setPhase i .routing
      else state.setPhase i .readding
  | .readding =>
      if raises then state.setPhase i .failed
      else
        RaceState.setPhase { state with
          node := state.node.set (strip order.key)
            ⟨strip order.allowedIps, order.task.inputs.presharedKey⟩ } i .routing
  | .routing =>
      if raises then state.setPhase i .failed
      else if order.isAdmin then state.setPhase i .confirming
      else state.setPhase i .checked
  | .confirming =>
      if !raises && peerListed order.key state.node then state.setPhase i .checked
      else state.setPhase i .failed
  | .checked =>
      if order.isAdmin then
        if raises then state.setPhase i .failed
        else
          RaceState.setPhase { state with
            devices := setStatus order.id .applied state.devices } i (.finished true)
      -- what may still raise is the config, and the caller rolls back
      else if raises then state.setPhase i (.finished false)
      else commitRow order .applied (.finished true) state i
  | .failed =>
      if order.isAdmin then
        if raises then state.setPhase i (.finished true)
        else
          RaceState.setPhase { state with
            devices := setStatus order.id .error state.devices } i (.finished true)
      else if fleet.issueFallbackOnPeerFailure && !raises then
        commitRow order .pendingApply (.finished true) state i
      else state.setPhase i (.finished false)
  | .finished _ => state

/-- The next statement of `reconcile_node`. -/
def reconcileTurn (raises : Bool) (state : RaceState n) : RaceState n :=
  match state.reconciler with
  | .idle =>
      { state with
        reconciler :=
          .rowsRead (reconcileRows serverIds state.devices) (deviceIdFor serverIds state.devices) }
  | .rowsRead rows ids =>
      if raises then { state with reconciler := .finished }
      else
        { state with
          reconciler :=
            .applying (opsOf settings (computeDiff rows (listPeers state.node))) [] ids }
  | .applying [] added ids =>
      if raises then { state with reconciler := .finished }
      else
        { state with
          devices := markApplied (added.filterMap ids.get?) state.devices
          reconciler := .finished }
  | .applying (.remove key :: ops) added ids =>
      { state with
        node := if raises then state.node else state.node.erase key
        reconciler := .applying ops added ids }
  | .applying (.add peer :: ops) added ids =>
      if raises then { state with reconciler := .applying ops added ids }
      else
        { state with
          node := state.node.set peer.publicKey (.ofConfig peer)
          reconciler := .applying ops (added ++ [peer.publicKey]) ids }
  | .applying (.reapply peer :: ops) added ids =>
      if raises then { state with reconciler := .applying ops added ids }
      else
        { state with
          node := state.node.erase peer.publicKey
          reconciler := .applying (.readd peer :: ops) added ids }
  | .applying (.readd peer :: ops) added ids =>
      { state with
        node := if raises then state.node else state.node.set peer.publicKey (.ofConfig peer)
        reconciler := .applying ops added ids }
  | .finished => state

def raceStep (state : RaceState n) : RaceAction n → RaceState n
  | .issue i raises => issueTurn fleet orders raises state i
  | .reconcile raises => reconcileTurn settings serverIds raises state

/-! ### What is claimed, and when it holds -/

/-- Every committed live device of the run that is `APPLIED` is on the node. -/
def AppliedPresent (state : RaceState n) : Prop :=
  ∀ i, (state.phases i).hasRow (orders i).isAdmin = true →
    ∀ device, state.devices.get? (orders i).id = some device → device.revokedAt = none →
      device.applyStatus = .applied → peerListed (strip device.publicKey) state.node = true

/-- The transaction relies on its peer: it is past its last look at the node, or its
committed row says `APPLIED`. -/
def reliesOnPeer (state : RaceState n) (i : Fin n) : Bool :=
  (state.phases i).pastCheck (orders i).isAdmin ||
    ((state.phases i).hasRow (orders i).isAdmin &&
      (state.devices.get? (orders i).id).any (fun device => device.applyStatus = .applied))

/-- The condition on an action: a `remove_peer` of the reconciler comes before the last
look of the transaction whose peer it is. -/
def removesInTime (state : RaceState n) : RaceAction n → Bool
  | .issue _ _ => true
  | .reconcile _ =>
      match state.reconciler with
      | .applying (op :: _) _ _ =>
          op.removedKey.all (fun key =>
            decide (∀ i, strip (orders i).key = strip key → reliesOnPeer orders state i = false))
      | _ => true

end System

/-! ### Rows and peers that stay -/

/-- Rows stay, and so do their keys. -/
def RowsStay (before after : Dict String Device) : Prop :=
  ∀ id device, before.get? id = some device →
    ∃ later, after.get? id = some later ∧ later.publicKey = device.publicKey

theorem RowsStay.refl (devices : Dict String Device) : RowsStay devices devices :=
  fun _ device found => ⟨device, found, rfl⟩

theorem rowsStay_set_new {devices : Dict String Device} {id : String} {device : Device}
    (fresh : id ∉ devices.keys) : RowsStay devices (devices.set id device) := by
  intro other stored found
  have different : other ≠ id := by
    rintro rfl
    exact fresh (Dict.mem_keys_of_get? found)
  exact ⟨stored, by rw [Dict.get?_set, if_neg different, found], rfl⟩

theorem setStatus_get? (id other : String) (applyStatus : ApplyStatus)
    (devices : Dict String Device) :
    (setStatus id applyStatus devices).get? other = (devices.get? other).map (fun device =>
      if other = id then { device with applyStatus := applyStatus } else device) := by
  unfold setStatus
  cases found : devices.get? id with
  | none =>
      by_cases here : other = id
      · rw [here, found]
        rfl
      · simp [here]
  | some device =>
      dsimp only
      rw [Dict.get?_set]
      by_cases here : other = id
      · rw [if_pos here, here, found]
        simp
      · simp [here]

theorem rowsStay_setStatus (id : String) (applyStatus : ApplyStatus)
    (devices : Dict String Device) : RowsStay devices (setStatus id applyStatus devices) := by
  intro other stored found
  refine ⟨_, by rw [setStatus_get?, found, Option.map_some], ?_⟩
  split <;> rfl

theorem rowsStay_markApplied (ids : List String) (devices : Dict String Device) :
    RowsStay devices (markApplied ids devices) := by
  intro other stored found
  refine ⟨_, by rw [markApplied_get?, found, Option.map_some], ?_⟩
  split <;> rfl

theorem peerListed_iff {key : String} {node : Dict String NodeEntry} :
    peerListed key node = true ↔ ∃ listed ∈ node.keys, strip listed = key := by
  unfold peerListed
  simp only [List.any_eq_true, decide_eq_true_eq]

theorem peerListed_of_subset {key : String} {before after : Dict String NodeEntry}
    (stay : ∀ listed ∈ before.keys, listed ∈ after.keys) (listed : peerListed key before = true) :
    peerListed key after = true := by
  obtain ⟨found, member, same⟩ := peerListed_iff.mp listed
  exact peerListed_iff.mpr ⟨found, stay found member, same⟩

theorem peerListed_strip {key : String} {node : Dict String NodeEntry}
    (listed : peerListed key node = true) : peerListed (strip key) node = true := by
  obtain ⟨found, member, rfl⟩ := peerListed_iff.mp listed
  exact peerListed_iff.mpr ⟨found, member, (strip_strip found).symm⟩

theorem peerListed_set_strip (key : String) (entry : NodeEntry) (node : Dict String NodeEntry) :
    peerListed (strip key) (node.set (strip key) entry) = true :=
  peerListed_iff.mpr ⟨strip key, (Dict.mem_keys_set ..).mpr (Or.inl rfl), strip_strip key⟩

/-- Removing one key leaves the peers of other keys. -/
theorem peerListed_erase {key removed : String} {node : Dict String NodeEntry}
    (different : strip removed ≠ key) (listed : peerListed key node = true) :
    peerListed key (node.erase removed) = true := by
  obtain ⟨found, member, rfl⟩ := peerListed_iff.mp listed
  refine peerListed_iff.mpr ⟨found, (Dict.mem_keys_erase ..).mpr ?_, rfl⟩
  exact ⟨fun same => different (congrArg strip same.symm), member⟩

/-! ### The invariant -/

/-- No key is removed after it was added. -/
def addsStay : List NodeOp → Prop
  | [] => True
  | .add peer :: ops => peer.publicKey ∉ ops.filterMap NodeOp.removedKey ∧ addsStay ops
  | _ :: ops => addsStay ops

/-- The rows behind `pubkey_to_device_id` are still there. -/
def IdsKnown (ids : Dict String String) (devices : Dict String Device) : Prop :=
  ∀ key id, ids.get? key = some id → ∃ device, devices.get? id = some device ∧
    device.publicKey = key

/-- What the reconciler has added is on the node and stays there. -/
def ReconcilerSound (devices : Dict String Device) (node : Dict String NodeEntry) :
    ReconcilePhase → Prop
  | .rowsRead _ ids => IdsKnown ids devices
  | .applying ops added ids =>
      IdsKnown ids devices ∧ addsStay ops ∧
        ∀ key ∈ added, key ∈ node.keys ∧ key ∉ ops.filterMap NodeOp.removedKey
  | _ => True

section Proofs

variable {n : Nat} {fleet : FleetSettings} {settings : ReconciliationSettings}
  {serverIds : List String} {orders : Fin n → IssueOrder} {state : RaceState n}

structure RaceSound (orders : Fin n → IssueOrder) (state : RaceState n) : Prop where
  rows : ∀ i, (state.phases i).hasRow (orders i).isAdmin = true →
    ∃ device, state.devices.get? (orders i).id = some device ∧
      device.publicKey = (orders i).key
  relied : ∀ i, reliesOnPeer orders state i = true →
    peerListed (strip (orders i).key) state.node = true
  reconciler : ReconcilerSound state.devices state.node state.reconciler

theorem reliesOnPeer_iff {i : Fin n} :
    reliesOnPeer orders state i = true ↔
      (state.phases i).pastCheck (orders i).isAdmin = true ∨
        (state.phases i).hasRow (orders i).isAdmin = true ∧
          ∃ device, state.devices.get? (orders i).id = some device ∧
            device.applyStatus = .applied := by
  unfold reliesOnPeer
  rw [Bool.or_eq_true, Bool.and_eq_true, Option.any_eq_true]
  simp only [decide_eq_true_eq]

theorem RaceSound.present (sound : RaceSound orders state) : AppliedPresent orders state := by
  intro i hasRow device found _ applied
  obtain ⟨stored, there, keyed⟩ := sound.rows i hasRow
  obtain rfl := Option.some.inj (there.symm.trans found)
  rw [keyed]
  exact sound.relied i (reliesOnPeer_iff.mpr (Or.inr ⟨hasRow, stored, found, applied⟩))

theorem ReconcilerSound.mono {before after : Dict String Device}
    {node grown : Dict String NodeEntry} {phase : ReconcilePhase} (stay : RowsStay before after)
    (grows : ∀ listed ∈ node.keys, listed ∈ grown.keys)
    (sound : ReconcilerSound before node phase) : ReconcilerSound after grown phase := by
  have known : ∀ ids, IdsKnown ids before → IdsKnown ids after := by
    intro ids known key id found
    obtain ⟨device, stored, keyed⟩ := known key id found
    obtain ⟨later, there, same⟩ := stay id device stored
    exact ⟨later, there, same.trans keyed⟩
  cases phase with
  | idle => trivial
  | rowsRead rows ids => exact known ids sound
  | applying ops added ids =>
      refine ⟨known ids sound.1, sound.2.1, ?_⟩
      intro key member
      obtain ⟨there, spared⟩ := sound.2.2 key member
      exact ⟨grows key there, spared⟩
  | finished => trivial

/-! ### A turn of a transaction -/

/-- What a turn of the transaction `i` does. -/
structure IssueEffect (orders : Fin n → IssueOrder) (before after : RaceState n) (i : Fin n) :
    Prop where
  rowsStay : RowsStay before.devices after.devices
  nodeGrows : ∀ listed ∈ before.node.keys, listed ∈ after.node.keys
  reconciler : after.reconciler = before.reconciler
  others : ∀ j, j ≠ i → after.phases j = before.phases j
  row : (after.phases i).hasRow (orders i).isAdmin = true →
    ∃ device, after.devices.get? (orders i).id = some device ∧
      device.publicKey = (orders i).key
  origin : (after.phases i).hasRow (orders i).isAdmin = true →
    (before.phases i).hasRow (orders i).isAdmin = true ∨ (orders i).id ∉ before.devices.keys
  looked : (after.phases i).pastCheck (orders i).isAdmin = true →
    peerListed (strip (orders i).key) after.node = true
  applied : ∀ id device, after.devices.get? id = some device → device.applyStatus = .applied →
    (∃ earlier, before.devices.get? id = some earlier ∧ earlier.applyStatus = .applied) ∨
      (id = (orders i).id ∧ (after.phases i).hasRow (orders i).isAdmin = true ∧
        peerListed (strip (orders i).key) after.node = true)

theorem IssueEffect.sound {after : RaceState n} {i : Fin n}
    (effect : IssueEffect orders state after i) (sound : RaceSound orders state) :
    RaceSound orders after := by
  have rows : ∀ j, (after.phases j).hasRow (orders j).isAdmin = true →
      ∃ device, after.devices.get? (orders j).id = some device ∧
        device.publicKey = (orders j).key := by
    intro j hasRow
    by_cases mine : j = i
    · subst mine
      exact effect.row hasRow
    · rw [effect.others j mine] at hasRow
      obtain ⟨device, found, keyed⟩ := sound.rows j hasRow
      obtain ⟨later, there, same⟩ := effect.rowsStay _ device found
      exact ⟨later, there, same.trans keyed⟩
  refine ⟨rows, ?_, ?_⟩
  · intro j relies
    rcases reliesOnPeer_iff.mp relies with past | ⟨hasRow, device, found, applied⟩
    · by_cases mine : j = i
      · subst mine
        exact effect.looked past
      · rw [effect.others j mine] at past
        exact peerListed_of_subset effect.nodeGrows
          (sound.relied j (reliesOnPeer_iff.mpr (Or.inl past)))
    · obtain ⟨stored, there, keyed⟩ := rows j hasRow
      obtain rfl := Option.some.inj (there.symm.trans found)
      rcases effect.applied _ stored found applied with ⟨earlier, was, wasApplied⟩ | own
      · have hadRow : (state.phases j).hasRow (orders j).isAdmin = true := by
          by_cases mine : j = i
          · subst mine
            exact (effect.origin hasRow).resolve_right
              (not_not_intro (Dict.mem_keys_of_get? was))
          · rw [effect.others j mine] at hasRow
            exact hasRow
        exact peerListed_of_subset effect.nodeGrows (sound.relied j
          (reliesOnPeer_iff.mpr (Or.inr ⟨hadRow, earlier, was, wasApplied⟩)))
      · obtain ⟨sameId, ownRow, listed⟩ := own
        obtain ⟨ownDevice, ownFound, ownKeyed⟩ := rows i ownRow
        rw [← sameId] at ownFound
        obtain rfl := Option.some.inj (ownFound.symm.trans found)
        rw [← keyed, ownKeyed]
        exact listed
  · rw [effect.reconciler]
    exact sound.reconciler.mono effect.rowsStay effect.nodeGrows

/-- A turn that moves on and perhaps adds a peer. -/
theorem effect_moved (sound : RaceSound orders state) {i : Fin n} {phase : PeerPhase}
    {node : Dict String NodeEntry} (grows : ∀ listed ∈ state.node.keys, listed ∈ node.keys)
    (row : phase.hasRow (orders i).isAdmin = true →
      (state.phases i).hasRow (orders i).isAdmin = true)
    (looked : phase.pastCheck (orders i).isAdmin = true →
      peerListed (strip (orders i).key) node = true) :
    IssueEffect orders state (RaceState.setPhase { state with node := node } i phase) i := by
  refine ⟨.refl _, grows, rfl, fun j other => RaceState.setPhase_of_ne _ phase other, ?_, ?_, ?_, ?_⟩
  · rw [RaceState.setPhase_self]
    exact fun hasRow => sound.rows i (row hasRow)
  · rw [RaceState.setPhase_self]
    exact fun hasRow => Or.inl (row hasRow)
  · rw [RaceState.setPhase_self]
    exact looked
  · intro id device found applied
    exact Or.inl ⟨device, found, applied⟩

/-- A turn after which the peer is still to be looked for. -/
theorem effect_unlooked (sound : RaceSound orders state) {i : Fin n} {phase : PeerPhase}
    {node : Dict String NodeEntry} (grows : ∀ listed ∈ state.node.keys, listed ∈ node.keys)
    (row : phase.hasRow (orders i).isAdmin = (state.phases i).hasRow (orders i).isAdmin)
    (unlooked : phase.pastCheck (orders i).isAdmin = false) :
    IssueEffect orders state (RaceState.setPhase { state with node := node } i phase) i := by
  apply effect_moved sound grows
  · rw [row]
    exact fun hasRow => hasRow
  · rw [unlooked]
    exact fun impossible => absurd impossible Bool.false_ne_true

/-- A turn that gives up its row or never had one. -/
theorem effect_closed (sound : RaceSound orders state) (i : Fin n) :
    IssueEffect orders state (state.setPhase i (.finished false)) i := by
  apply effect_moved sound (fun _ member => member)
  · exact fun impossible => absurd impossible Bool.false_ne_true
  · exact fun impossible => absurd impossible Bool.false_ne_true

/-- A turn that writes the status of its committed row. -/
theorem effect_status (sound : RaceSound orders state) {i : Fin n} {phase : PeerPhase}
    {applyStatus : ApplyStatus}
    (row : phase.hasRow (orders i).isAdmin = true →
      (state.phases i).hasRow (orders i).isAdmin = true)
    (unlooked : phase.pastCheck (orders i).isAdmin = false)
    (checked : applyStatus = .applied → phase.hasRow (orders i).isAdmin = true ∧
      peerListed (strip (orders i).key) state.node = true) :
    IssueEffect orders state (RaceState.setPhase { state with
      devices := setStatus (orders i).id applyStatus state.devices } i phase) i := by
  have stay := rowsStay_setStatus (orders i).id applyStatus state.devices
  refine ⟨stay, fun _ member => member, rfl, fun j other => RaceState.setPhase_of_ne _ phase other,
    ?_, ?_, ?_, ?_⟩
  · rw [RaceState.setPhase_self]
    intro hasRow
    obtain ⟨device, found, keyed⟩ := sound.rows i (row hasRow)
    obtain ⟨later, there, same⟩ := stay _ device found
    exact ⟨later, there, same.trans keyed⟩
  · rw [RaceState.setPhase_self]
    exact fun hasRow => Or.inl (row hasRow)
  · rw [RaceState.setPhase_self, unlooked]
    exact fun impossible => absurd impossible Bool.false_ne_true
  · intro id device found applied
    change (setStatus (orders i).id applyStatus state.devices).get? id = some device at found
    rw [setStatus_get?] at found
    obtain ⟨earlier, was, rfl⟩ := Option.map_eq_some_iff.mp found
    by_cases here : id = (orders i).id
    · rw [if_pos here] at applied
      obtain ⟨kept, listed⟩ := checked applied
      refine Or.inr ⟨here, ?_, listed⟩
      rw [RaceState.setPhase_self]
      exact kept
    · rw [if_neg here] at applied
      exact Or.inl ⟨earlier, was, applied⟩

/-- A turn that commits its row. -/
theorem effect_commit (sound : RaceSound orders state) {i : Fin n} {next : PeerPhase}
    {applyStatus : ApplyStatus} (kept : next.hasRow (orders i).isAdmin = true)
    (unlooked : next.pastCheck (orders i).isAdmin = false)
    (checked : applyStatus = .applied → peerListed (strip (orders i).key) state.node = true) :
    IssueEffect orders state (commitRow (orders i) applyStatus next state i) i := by
  unfold commitRow
  split
  · exact effect_closed sound i
  · rename_i fresh
    refine ⟨rowsStay_set_new fresh, fun _ member => member, rfl,
      fun j other => RaceState.setPhase_of_ne _ next other, ?_, ?_, ?_, ?_⟩
    · intro _
      exact ⟨_, (Dict.get?_set ..).trans (if_pos rfl), rfl⟩
    · exact fun _ => Or.inr fresh
    · rw [RaceState.setPhase_self, unlooked]
      exact fun impossible => absurd impossible Bool.false_ne_true
    · intro id device found applied
      change (state.devices.set (orders i).id ((orders i).row applyStatus)).get? id = some device
        at found
      rw [Dict.get?_set] at found
      split at found
      · rename_i here
        obtain rfl := Option.some.inj found
        refine Or.inr ⟨here, ?_, checked applied⟩
        rw [RaceState.setPhase_self]
        exact kept
      · exact Or.inl ⟨device, found, applied⟩

theorem issueTurn_effect (sound : RaceSound orders state) (raises : Bool) (i : Fin n) :
    IssueEffect orders state (issueTurn fleet orders raises state i) i := by
  have same : ∀ listed ∈ state.node.keys, listed ∈ state.node.keys := fun _ member => member
  have grows : ∀ (key : String) (entry : NodeEntry), ∀ listed ∈ state.node.keys,
      listed ∈ (state.node.set key entry).keys :=
    fun key entry listed member => (Dict.mem_keys_set ..).mpr (Or.inr member)
  have relied : (state.phases i).pastCheck (orders i).isAdmin = true →
      peerListed (strip (orders i).key) state.node = true :=
    fun past => sound.relied i (reliesOnPeer_iff.mpr (Or.inl past))
  cases was : state.phases i with
  | waiting =>
      simp only [issueTurn, was]
      cases admin : (orders i).isAdmin with
      | true => exact effect_commit sound admin rfl (fun applied => absurd applied (by decide))
      | false => exact effect_unlooked sound same (by rw [was, admin]; rfl) rfl
  | inserted =>
      simp only [issueTurn, was]
      split
      · exact effect_unlooked sound same (by rw [was]; rfl) rfl
      · exact effect_unlooked sound (grows _ _) (by rw [was]; rfl) rfl
  | verifying =>
      simp only [issueTurn, was]
      split
      · exact effect_unlooked sound same (by rw [was]; rfl) rfl
      · exact effect_unlooked sound same (by rw [was]; rfl) rfl
  | created =>
      simp only [issueTurn, was]
      split
      · exact effect_unlooked sound same (by rw [was]; rfl) rfl
      · exact effect_status sound (by rw [was]; exact fun hasRow => hasRow) rfl
          (fun applied => absurd applied (by decide))
  | ensuring =>
      simp only [issueTurn, was]
      split
      · exact effect_unlooked sound same (by rw [was]; rfl) rfl
      · split
        · rename_i listed
          exact effect_moved sound same (by rw [was]; exact fun hasRow => hasRow) (fun _ => listed)
        · exact effect_unlooked sound same (by rw [was]; rfl) rfl
  | readding =>
      simp only [issueTurn, was]
      split
      · exact effect_unlooked sound same (by rw [was]; rfl) rfl
      · exact effect_moved sound (grows _ _) (by rw [was]; exact fun hasRow => hasRow)
          (fun _ => peerListed_set_strip ..)
  | routing =>
      simp only [issueTurn, was]
      rw [was] at relied
      split
      · exact effect_unlooked sound same (by rw [was]; rfl) rfl
      · cases admin : (orders i).isAdmin with
        | true => exact effect_unlooked sound same (by rw [was]; rfl) rfl
        | false =>
            rw [admin] at relied
            exact effect_moved sound same (by rw [was]; exact fun hasRow => hasRow)
              (fun _ => relied rfl)
  | confirming =>
      simp only [issueTurn, was]
      split
      · rename_i listed
        exact effect_moved sound same (by rw [was]; exact fun hasRow => hasRow)
          (fun _ => peerListed_strip (Bool.and_eq_true _ _ ▸ listed).2)
      · exact effect_unlooked sound same (by rw [was]; rfl) rfl
  | checked =>
      simp only [issueTurn, was]
      rw [was] at relied
      split
      · rename_i admin
        split
        · exact effect_unlooked sound same (by rw [was]; rfl) rfl
        · exact effect_status sound (by rw [was]; exact fun _ => admin) rfl
            (fun _ => ⟨rfl, relied rfl⟩)
      · split
        · exact effect_closed sound i
        · exact effect_commit sound rfl rfl (fun _ => relied rfl)
  | failed =>
      simp only [issueTurn, was]
      split
      · rename_i admin
        split
        · exact effect_unlooked sound same (by rw [was]; exact admin.symm) rfl
        · exact effect_status sound (by rw [was]; exact fun _ => admin) rfl
            (fun applied => absurd applied (by decide))
      · split
        · exact effect_commit sound rfl rfl (fun applied => absurd applied (by decide))
        · exact effect_closed sound i
  | finished issued =>
      simp only [issueTurn, was]
      exact ⟨.refl _, same, rfl, fun _ _ => rfl, sound.rows i, Or.inl, relied,
        fun id device found applied => Or.inl ⟨device, found, applied⟩⟩

/-! ### A turn of the reconciler -/

theorem deviceIdFor_known (serverIds : List String) (devices : Dict String Device) :
    IdsKnown (deviceIdFor serverIds devices) devices := by
  intro key id found
  have member : (key, id) ∈ (keyedRows serverIds devices).map
      (fun entry => (entry.2.publicKey, entry.1)) := by
    rw [deviceIdFor, Dict.get?_ofList] at found
    obtain ⟨front, back, split, _⟩ := List.lookup_eq_some_iff.mp found
    apply List.mem_reverse.mp
    rw [split]
    exact List.mem_append_right front (List.mem_cons_self ..)
  obtain ⟨⟨stored, device⟩, listed, pair⟩ := List.mem_map.mp member
  obtain ⟨sameKey, sameId⟩ := Prod.mk.inj pair
  exact ⟨device, sameId ▸ (mem_keyedRows.mp listed).1, sameKey⟩

theorem addsStay_removes (keys : List String) {ops : List NodeOp} (stay : addsStay ops) :
    addsStay (keys.map .remove ++ ops) := by
  induction keys with
  | nil => exact stay
  | cons key keys ih => exact ih

theorem addsStay_updates (peers : List PeerConfigLike) : addsStay (peers.map .reapply) := by
  induction peers with
  | nil => trivial
  | cons peer peers ih => exact ih

theorem removedKeys_adds (peers : List PeerConfigLike) (ops : List NodeOp) :
    (peers.map NodeOp.add ++ ops).filterMap NodeOp.removedKey =
      ops.filterMap NodeOp.removedKey := by
  induction peers with
  | nil => rfl
  | cons peer peers ih => exact ih

theorem addsStay_adds {peers : List PeerConfigLike} {ops : List NodeOp} (stay : addsStay ops)
    (apart : ∀ peer ∈ peers, peer.publicKey ∉ ops.filterMap NodeOp.removedKey) :
    addsStay (peers.map .add ++ ops) := by
  induction peers with
  | nil => exact stay
  | cons peer peers ih =>
      rw [List.map_cons, List.cons_append]
      refine ⟨?_, ih (fun other member => apart other (List.mem_cons_of_mem peer member))⟩
      rw [removedKeys_adds]
      exact apart peer (List.mem_cons_self ..)

theorem addsStay_opsOf (settings : ReconciliationSettings) (rows : List DbPeer)
    (node : Dict String NodeEntry) :
    addsStay (opsOf settings (computeDiff rows (listPeers node))) := by
  unfold opsOf
  split
  · trivial
  · have tail : addsStay ((computeDiff rows (listPeers node)).peersToAdd.map .add ++
        (computeDiff rows (listPeers node)).peersToUpdate.map .reapply) := by
      apply addsStay_adds (addsStay_updates _)
      intro peer added removed
      obtain ⟨key, row, _, absent, _, rfl⟩ := mem_peersToAdd.mp added
      obtain ⟨op, listed, sameKey⟩ := List.mem_filterMap.mp removed
      obtain ⟨update, updated, rfl⟩ := List.mem_map.mp listed
      obtain ⟨other, _, entry, _, _, present, _, rfl⟩ := mem_peersToUpdate.mp updated
      have same : other = key := Option.some.inj sameKey
      exact absent (same ▸ Dict.mem_keys_of_get? present)
    split
    · exact addsStay_removes _ tail
    · exact tail

/-- A turn that leaves the rows alone. -/
theorem sound_of_node (sound : RaceSound orders state) {node : Dict String NodeEntry}
    {phase : ReconcilePhase}
    (listed : ∀ i, reliesOnPeer orders state i = true →
      peerListed (strip (orders i).key) node = true)
    (reconciler : ReconcilerSound state.devices node phase) :
    RaceSound orders { state with node := node, reconciler := phase } :=
  ⟨sound.rows, listed, reconciler⟩

theorem sound_of_removal (sound : RaceSound orders state) {key : String}
    (inTime : ∀ i, strip (orders i).key = strip key → reliesOnPeer orders state i = false)
    {phase : ReconcilePhase}
    (reconciler : ReconcilerSound state.devices (state.node.erase key) phase) :
    RaceSound orders { state with node := state.node.erase key, reconciler := phase } := by
  apply sound_of_node sound ?_ reconciler
  intro i relies
  apply peerListed_erase ?_ (sound.relied i relies)
  intro same
  rw [inTime i same.symm] at relies
  cases relies

theorem sound_of_added (sound : RaceSound orders state) {key : String} {entry : NodeEntry}
    {phase : ReconcilePhase}
    (reconciler : ReconcilerSound state.devices (state.node.set key entry) phase) :
    RaceSound orders { state with node := state.node.set key entry, reconciler := phase } := by
  apply sound_of_node sound ?_ reconciler
  intro i relies
  exact peerListed_of_subset (fun listed member => (Dict.mem_keys_set ..).mpr (Or.inr member))
    (sound.relied i relies)

theorem sound_of_marks (sound : RaceSound orders state) {added : List String}
    {ids : Dict String String} (known : IdsKnown ids state.devices)
    (present : ∀ key ∈ added, key ∈ state.node.keys) :
    RaceSound orders { state with
      devices := markApplied (added.filterMap ids.get?) state.devices
      reconciler := .finished } := by
  refine ⟨?_, ?_, trivial⟩
  · intro i hasRow
    obtain ⟨device, found, keyed⟩ := sound.rows i hasRow
    obtain ⟨later, there, same⟩ := rowsStay_markApplied (added.filterMap ids.get?) _ _ device found
    exact ⟨later, there, same.trans keyed⟩
  · intro i relies
    rcases reliesOnPeer_iff.mp relies with past | ⟨hasRow, device, found, applied⟩
    · exact sound.relied i (reliesOnPeer_iff.mpr (Or.inl past))
    · change (markApplied _ _).get? _ = some device at found
      rw [markApplied_get?] at found
      obtain ⟨earlier, was, rfl⟩ := Option.map_eq_some_iff.mp found
      by_cases marked : (orders i).id ∈ added.filterMap ids.get?
      · obtain ⟨key, member, stored⟩ := List.mem_filterMap.mp marked
        obtain ⟨device, there, keyed⟩ := known key _ stored
        obtain ⟨row, found, rowKeyed⟩ := sound.rows i hasRow
        obtain rfl := Option.some.inj (there.symm.trans found)
        rw [← rowKeyed, keyed]
        exact peerListed_iff.mpr ⟨key, present key member, rfl⟩
      · rw [if_neg marked] at applied
        exact sound.relied i (reliesOnPeer_iff.mpr (Or.inr ⟨hasRow, earlier, was, applied⟩))

theorem removesInTime_applying {op : NodeOp} {ops : List NodeOp} {added : List String}
    {ids : Dict String String} {key : String} {raises : Bool}
    (was : state.reconciler = .applying (op :: ops) added ids) (removes : op.removedKey = some key)
    (inTime : removesInTime orders state (.reconcile raises) = true) :
    ∀ i, strip (orders i).key = strip key → reliesOnPeer orders state i = false := by
  simp only [removesInTime, was, removes, Option.all_some, decide_eq_true_eq] at inTime
  exact inTime

theorem reconcileTurn_sound (sound : RaceSound orders state) {raises : Bool}
    (inTime : removesInTime orders state (.reconcile raises) = true) :
    RaceSound orders (reconcileTurn settings serverIds raises state) := by
  have relied := sound.relied
  have reconciler := sound.reconciler
  cases was : state.reconciler with
  | idle =>
      simp only [reconcileTurn, was]
      exact sound_of_node sound relied (deviceIdFor_known serverIds state.devices)
  | rowsRead rows ids =>
      rw [was] at reconciler
      simp only [reconcileTurn, was]
      split
      · exact sound_of_node sound relied trivial
      · refine sound_of_node sound relied ⟨reconciler, addsStay_opsOf settings rows state.node, ?_⟩
        intro key member
        cases member
  | finished =>
      simp only [reconcileTurn, was]
      exact sound
  | applying ops added ids =>
      rw [was] at reconciler
      obtain ⟨known, stay, present⟩ := reconciler
      cases ops with
      | nil =>
          simp only [reconcileTurn, was]
          split
          · exact sound_of_node sound relied trivial
          · exact sound_of_marks sound known (fun key member => (present key member).1)
      | cons op ops =>
          -- what is left to remove after this operation spares the keys added so far
          have spared : ∀ key ∈ added, key ∈ state.node.keys ∧
              key ∉ ops.filterMap NodeOp.removedKey := by
            intro key member
            refine ⟨(present key member).1, ?_⟩
            intro later
            apply (present key member).2
            obtain ⟨other, inside, same⟩ := List.mem_filterMap.mp later
            exact List.mem_filterMap.mpr ⟨other, List.mem_cons_of_mem op inside, same⟩
          have erased : ∀ removed, op.removedKey = some removed → ∀ key ∈ added,
              key ∈ (state.node.erase removed).keys := by
            intro removed removes key member
            refine (Dict.mem_keys_erase ..).mpr ⟨?_, (present key member).1⟩
            rintro rfl
            exact (present key member).2
              (List.mem_filterMap.mpr ⟨op, List.mem_cons_self .., removes⟩)
          cases op with
          | remove key =>
              have before := removesInTime_applying was rfl inTime
              simp only [reconcileTurn, was]
              split
              · exact sound_of_node sound relied ⟨known, stay, spared⟩
              · refine sound_of_removal sound before ⟨known, stay, ?_⟩
                intro other member
                exact ⟨erased key rfl other member, (spared other member).2⟩
          | add peer =>
              simp only [reconcileTurn, was]
              split
              · exact sound_of_node sound relied ⟨known, stay.2, spared⟩
              · refine sound_of_added sound ⟨known, stay.2, ?_⟩
                intro other member
                rcases List.mem_append.mp member with earlier | new
                · obtain ⟨there, kept⟩ := spared other earlier
                  exact ⟨(Dict.mem_keys_set ..).mpr (Or.inr there), kept⟩
                · obtain rfl := List.mem_singleton.mp new
                  exact ⟨(Dict.mem_keys_set ..).mpr (Or.inl rfl), stay.1⟩
          | reapply peer =>
              have before := removesInTime_applying was rfl inTime
              simp only [reconcileTurn, was]
              split
              · exact sound_of_node sound relied ⟨known, stay, spared⟩
              · refine sound_of_removal sound before ⟨known, stay, ?_⟩
                intro other member
                exact ⟨erased peer.publicKey rfl other member, (spared other member).2⟩
          | readd peer =>
              simp only [reconcileTurn, was]
              split
              · exact sound_of_node sound relied ⟨known, stay, spared⟩
              · refine sound_of_added sound ⟨known, stay, ?_⟩
                intro other member
                obtain ⟨there, kept⟩ := spared other member
                exact ⟨(Dict.mem_keys_set ..).mpr (Or.inr there), kept⟩

/-! ### Runs -/

theorem raceStep_sound (sound : RaceSound orders state) {action : RaceAction n}
    (inTime : removesInTime orders state action = true) :
    RaceSound orders (raceStep fleet settings serverIds orders state action) := by
  cases action with
  | issue i raises => exact (issueTurn_effect sound raises i).sound sound
  | reconcile raises => exact reconcileTurn_sound sound inTime

theorem raceSound_start (devices : Dict String Device) (node : Dict String NodeEntry) :
    RaceSound orders (RaceState.start devices node) := by
  refine ⟨?_, ?_, trivial⟩
  · intro i impossible
    exact absurd impossible Bool.false_ne_true
  · intro i relies
    exact absurd relies Bool.false_ne_true

/-- In every run in which the reconciler removes no peer after its transaction has looked
for it, the applied devices of the run are on the node. -/
theorem issued_peers_survive_reconciliation (fleet : FleetSettings)
    (settings : ReconciliationSettings) (serverIds : List String) (orders : Fin n → IssueOrder)
    (devices : Dict String Device) (node : Dict String NodeEntry) (actions : List (RaceAction n))
    (inTime : EveryStep (raceStep fleet settings serverIds orders) (RaceState.start devices node)
      actions (fun state action => removesInTime orders state action = true)) :
    EveryState (raceStep fleet settings serverIds orders) (RaceState.start devices node) actions
      (AppliedPresent orders) := by
  have kept : EveryState (raceStep fleet settings serverIds orders)
      (RaceState.start devices node) actions (RaceSound orders) :=
    EveryStep.keeps (fun _ _ sound here => raceStep_sound sound here)
      (raceSound_start devices node) inTime
  exact kept.imp RaceSound.present

/-- A request of either path for the key `key-a`, with its address. -/
def orderFor (admin : Bool) : IssueOrder :=
  let inputs : IssueInputs := ⟨none, "a", "key-a", none, 10, true, true, true⟩
  { task :=
      if admin then .admin ⟨some (1, "sub"), "node-1", inputs⟩
      else .issue ⟨1, "sub", some "node-1", inputs⟩
    owner := (1, "sub")
    allowedIps := "10.8.1.2/32" }

def issues (turns : Nat) : List (RaceAction 1) := List.replicate turns (.issue 0 false)

def reconciles (turns : Nat) : List (RaceAction 1) := List.replicate turns (.reconcile false)

/-- Both paths can end with an applied device that is not on the node: `issue_device` when
the reconciler looks between its add and its commit, `admin_issue_peer` when the
reconciler reads the rows before its commit and lists the peers after its add. -/
theorem reconciler_removes_issued_peer :
    let issueRun := (issues 2 ++ reconciles 2 ++ issues 4 ++ reconciles 2).foldl
      (raceStep dockerSettings pruning ["node-1"] (fun _ => orderFor false))
      (RaceState.start Dict.empty Dict.empty)
    let adminRun := (reconciles 1 ++ issues 4 ++ reconciles 1 ++ issues 4 ++ reconciles 2).foldl
      (raceStep dockerSettings pruning ["node-1"] (fun _ => orderFor true))
      (RaceState.start Dict.empty Dict.empty)
    (issueRun.phases 0 = .finished true ∧ issueRun.reconciler = .finished ∧
        ¬ AppliedPresent (fun _ => orderFor false) issueRun) ∧
      adminRun.phases 0 = .finished true ∧ adminRun.reconciler = .finished ∧
        ¬ AppliedPresent (fun _ => orderFor true) adminRun := by
  intro issueRun adminRun
  refine ⟨⟨by decide +kernel, by decide +kernel, ?_⟩, by decide +kernel, by decide +kernel, ?_⟩
  · intro present
    have listed := present 0 (by decide +kernel) ((orderFor false).row .applied)
      (by decide +kernel) rfl rfl
    exact absurd listed (by decide +kernel)
  · intro present
    have listed := present 0 (by decide +kernel) ((orderFor true).row .applied)
      (by decide +kernel) rfl rfl
    exact absurd listed (by decide +kernel)

/-- A peer that is removed before the last look is added again. -/
theorem early_removal_is_repaired :
    let step := raceStep dockerSettings pruning ["node-1"] (fun _ : Fin 1 => orderFor false)
    let actions := issues 2 ++ reconciles 2 ++ issues 1 ++ reconciles 2 ++ issues 4
    (actions.foldl step (RaceState.start Dict.empty Dict.empty)).phases 0 = .finished true ∧
      EveryState step (RaceState.start Dict.empty Dict.empty) actions
        (AppliedPresent (fun _ => orderFor false)) := by
  intro step actions
  refine ⟨by decide +kernel, ?_⟩
  exact issued_peers_survive_reconciliation dockerSettings pruning ["node-1"]
    (fun _ => orderFor false) Dict.empty Dict.empty actions
    (everyStep_iff_stepsAll.mpr (by decide +kernel))

end Proofs

/-! ### The reconciler alone -/

/-- What an operation does to the node and to the list of added keys when no call fails. -/
def opEffect (result : Dict String NodeEntry × List String) :
    NodeOp → Dict String NodeEntry × List String
  | .remove key => (result.1.erase key, result.2)
  | .add peer =>
      (result.1.set peer.publicKey (.ofConfig peer), result.2 ++ [peer.publicKey])
  | .reapply peer =>
      ((result.1.erase peer.publicKey).set peer.publicKey (.ofConfig peer), result.2)
  | .readd peer => (result.1.set peer.publicKey (.ofConfig peer), result.2)

/-- The node and the added keys of `apply_diff`. -/
def appliedView (applied : Applied) : Dict String NodeEntry × List String :=
  (applied.node, applied.result.peersAddedPubkeys)

theorem foldl_opEffect {α : Type} {op : α → NodeOp} {step : Applied → α → Applied}
    (simulates : ∀ applied item,
      opEffect (appliedView applied) (op item) = appliedView (step applied item))
    (items : List α) (applied : Applied) :
    (items.map op).foldl opEffect (appliedView applied) =
      appliedView (items.foldl step applied) := by
  rw [List.foldl_map]
  exact List.foldl_hom appliedView simulates

/-- Call by call, the operations amount to `apply_diff`. -/
theorem opsOf_applyDiff (settings : ReconciliationSettings) (diff : ReconciliationDiff)
    (node : Dict String NodeEntry) :
    (opsOf settings diff).foldl opEffect (node, []) =
      appliedView (applyDiff settings noFailures diff node) := by
  have begin_ : (node, ([] : List String)) = appliedView ⟨node, ⟨0, 0, 0, [], []⟩⟩ := rfl
  unfold opsOf applyDiff
  dsimp only
  split
  · rfl
  · rw [begin_, List.foldl_append, List.foldl_append]
    split
    · rw [@foldl_opEffect _ .remove (removeOrphan noFailures) (fun _ _ => rfl),
        @foldl_opEffect _ .add (addMissing noFailures) (fun _ _ => rfl),
        @foldl_opEffect _ .reapply (reapply noFailures) (fun _ _ => rfl)]
    · rw [List.foldl_nil, @foldl_opEffect _ .add (addMissing noFailures) (fun _ _ => rfl),
        @foldl_opEffect _ .reapply (reapply noFailures) (fun _ _ => rfl)]

section Alone

variable {n : Nat} {settings : ReconciliationSettings} {serverIds : List String}

variable (settings serverIds) in
/-- The reconciler gets the next turns, and no call fails. -/
def reconcilerTurns (turns : Nat) (state : RaceState n) : RaceState n :=
  (reconcileTurn settings serverIds false)^[turns] state

/-- One operation takes a turn, reapplying a peer two. -/
theorem reconcilerTurns_op (op : NodeOp) {ops : List NodeOp} {state : RaceState n}
    {added : List String} {ids : Dict String String}
    (was : state.reconciler = .applying (op :: ops) added ids) :
    ∃ turns, reconcilerTurns settings serverIds turns state =
      { state with
        node := (opEffect (state.node, added) op).1
        reconciler := .applying ops (opEffect (state.node, added) op).2 ids } := by
  cases op with
  | remove key => exact ⟨1, by simp [reconcilerTurns, reconcileTurn, was, opEffect]⟩
  | add peer => exact ⟨1, by simp [reconcilerTurns, reconcileTurn, was, opEffect]⟩
  | reapply peer => exact ⟨2, by simp [reconcilerTurns, reconcileTurn, was, opEffect]⟩
  | readd peer => exact ⟨1, by simp [reconcilerTurns, reconcileTurn, was, opEffect]⟩

theorem reconcilerTurns_ops (ops : List NodeOp) {state : RaceState n} {added : List String}
    {ids : Dict String String} (was : state.reconciler = .applying ops added ids) :
    ∃ turns, reconcilerTurns settings serverIds turns state =
      { state with
        node := (ops.foldl opEffect (state.node, added)).1
        reconciler := .applying [] (ops.foldl opEffect (state.node, added)).2 ids } := by
  induction ops generalizing state added with
  | nil =>
      refine ⟨0, ?_⟩
      rw [List.foldl_nil, ← was]
      rfl
  | cons op ops ih =>
      obtain ⟨turns, first⟩ := @reconcilerTurns_op _ settings serverIds op ops state added ids was
      obtain ⟨more, rest⟩ := @ih (reconcilerTurns settings serverIds turns state)
        (opEffect (state.node, added) op).2 (by rw [first])
      refine ⟨more + turns, ?_⟩
      have both : reconcilerTurns settings serverIds (more + turns) state =
          reconcilerTurns settings serverIds more
            (reconcilerTurns settings serverIds turns state) :=
        Function.iterate_add_apply ..
      rw [both, rest, first]
      rfl

/-- Without issues in between, the turns of the reconciler are `reconcile_node`. -/
theorem reconciler_alone (devices : Dict String Device) (node : Dict String NodeEntry) :
    ∃ turns, reconcilerTurns settings serverIds turns (RaceState.start devices node : RaceState n) =
      { (RaceState.start
          (reconcileNode settings noFailures serverIds ⟨devices, node⟩).devices
          (reconcileNode settings noFailures serverIds ⟨devices, node⟩).node) with
        reconciler := .finished } := by
  let ids := deviceIdFor serverIds devices
  let ops := opsOf settings (computeDiff (reconcileRows serverIds devices) (listPeers node))
  let applying : RaceState n :=
    { (RaceState.start devices node) with reconciler := .applying ops [] ids }
  have read : reconcilerTurns settings serverIds 2 (RaceState.start devices node) = applying := by
    simp [reconcilerTurns, reconcileTurn, RaceState.start, applying, ops, ids]
  obtain ⟨turns, done⟩ := @reconcilerTurns_ops _ settings serverIds ops applying [] ids rfl
  refine ⟨1 + (turns + 2), ?_⟩
  have whole : reconcilerTurns settings serverIds (1 + (turns + 2)) (RaceState.start devices node) =
      reconcileTurn settings serverIds false (reconcilerTurns settings serverIds turns applying) := by
    rw [← read]
    simp only [reconcilerTurns, Function.iterate_add_apply, Function.iterate_one]
  have amounts : ops.foldl opEffect (node, []) =
      appliedView (reconcileCycle settings noFailures (reconcileRows serverIds devices) node) :=
    opsOf_applyDiff settings _ node
  have shown : applying.node = node := rfl
  rw [whole, done, shown, amounts]
  rfl

end Alone

end VpnSuite.Fleet
