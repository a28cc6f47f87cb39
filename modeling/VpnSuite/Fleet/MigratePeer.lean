/-
Moving a peer to another node (`services/migrate_service.py`).

`migrate_peer` removes the peer from its node, adds it to the target and then writes the
row.  A failed remove is logged and passed over; a failed add is answered by adding the
peer to its old node again.  Whether that worked stands in the message of the error, as
far as the second exception has a text.

The peer is rebuilt from the row without its preshared key.  `wg set` keeps the key of a
peer it knows and gives a new one none.
-/

import VpnSuite.Fleet.BlockReconcile
import VpnSuite.Foundations.RaisingPrograms
import VpnSuite.Runtime.DockerAddPeer

set_option autoImplicit false

namespace VpnSuite.Fleet

open Foundations
open Foundations.PythonText
open VpnSuite.ControlPlane
open VpnSuite.Runtime (PeerConfigLike WireGuardCommandError)

/-! ### The nodes -/

/-- The peers of every node, and the node the device row names. -/
structure Migration where
  nodes : String → Dict String NodeEntry
  serverId : String

/-- The text of the exception each call raises, if it raises. -/
structure MigrateFailures where
  remove : Option String
  add : Option String
  rollback : Option String
  deriving DecidableEq, Repr

inductive MigrateError where
  | revoked
  | command (error : WireGuardCommandError)
  deriving DecidableEq, Repr

def MigrateError.message : MigrateError → String
  | .revoked => "Peer is revoked"
  | .command error => error.message

def heldKey (key : String) (node : Dict String NodeEntry) : Option String :=
  (node.get? key).bind (fun entry => entry.presharedKey)

/-- What a node holds after `wg set`: without a given key the known one stays. -/
def setPeer (peer : PeerConfigLike) (node : Dict String NodeEntry) : Dict String NodeEntry :=
  node.set peer.publicKey ⟨peer.allowedIps.getD "",
    peer.presharedKey <|> heldKey peer.publicKey node⟩

namespace Migration

def onNode (id : String) (change : Dict String NodeEntry → Dict String NodeEntry)
    (state : Migration) : Migration :=
  { state with nodes := Function.update state.nodes id (change (state.nodes id)) }

theorem onNode_self (id : String) (change : Dict String NodeEntry → Dict String NodeEntry)
    (state : Migration) : (state.onNode id change).nodes id = change (state.nodes id) :=
  Function.update_self ..

theorem onNode_of_ne {id other : String} (different : other ≠ id)
    (change : Dict String NodeEntry → Dict String NodeEntry) (state : Migration) :
    (state.onNode id change).nodes other = state.nodes other :=
  Function.update_of_ne different ..

end Migration

def removePeer (raised : Option String) (id key : String) : Raising Migration String Unit :=
  .call raised (Migration.onNode id (fun node => node.erase key))

def addPeer (raised : Option String) (id : String) (peer : PeerConfigLike) :
    Raising Migration String Unit :=
  .call raised (Migration.onNode id (setPeer peer))

/-! ### `migrate_peer` -/

def migratedIps (device : Device) : String := strip (orDefault device.allowedIps "")

def migratedPeer (device : Device) : PeerConfigLike :=
  { publicKey := device.publicKey
    allowedIps := some (migratedIps device)
    presharedKey := none
    persistentKeepalive := some 25 }

/-- The compensating add, and what the error says about it. -/
def restoreOnSource (raised : Option String) (device : Device) (peer : PeerConfigLike) :
    Raising Migration MigrateError String :=
  .attempt
    (do
      addPeer raised device.serverId peer
      pure "; rollback restored on source")
    (fun text => pure (if text = "" then "" else "; rollback_failed=" ++ text))

def migratePeer (failures : MigrateFailures) (device : Device) (target : String) :
    Raising Migration MigrateError Unit := do
  .check (device.revokedAt = none) .revoked
  if device.serverId = target then pure ()
  else do
    .check (migratedIps device ≠ "" && !contains "0.0.0.0/0" (migratedIps device))
      (.command ⟨"Device has no valid allowed_ips; re-issue config first", "migrate_peer",
        "allowed_ips missing or 0.0.0.0/0"⟩)
    let peer := migratedPeer device
    .attempt (removePeer failures.remove device.serverId device.publicKey) (fun _ => pure ())
    .attempt (addPeer failures.add target peer) (fun text => do
      let ending ← restoreOnSource failures.rollback device peer
      .raise (.command ⟨"Add peer on target failed: " ++ text ++ ending, "add_peer", text⟩))
    .write (fun state => { state with serverId := target })

/-! ### What a migration does -/

/-- The device passes the checks before the first call. -/
def Migratable (device : Device) (target : String) : Prop :=
  device.revokedAt = none ∧ device.serverId ≠ target ∧ migratedIps device ≠ "" ∧
    contains "0.0.0.0/0" (migratedIps device) = false

def afterRemove (failures : MigrateFailures) (device : Device) (state : Migration) : Migration :=
  match failures.remove with
  | some _ => state
  | none => state.onNode device.serverId (fun node => node.erase device.publicKey)

def addError (text ending : String) : MigrateError :=
  .command ⟨"Add peer on target failed: " ++ text ++ ending, "add_peer", text⟩

section Outcomes

variable {failures : MigrateFailures} {device : Device} {target : String} {state : Migration}

/-- A device that fails a check is left where it is. -/
theorem migratePeer_refused (refused : ¬ Migratable device target) (apart : device.serverId ≠ target) :
    ∃ error, migratePeer failures device target state = (.error error, state) := by
  unfold migratePeer
  by_cases live : device.revokedAt = none
  · have unusable : (decide (migratedIps device ≠ "") &&
        !contains "0.0.0.0/0" (migratedIps device)) = false := by
      by_contra usable
      rw [Bool.not_eq_false, Bool.and_eq_true, decide_eq_true_eq, Bool.not_eq_true'] at usable
      exact refused ⟨live, apart, usable.1, usable.2⟩
    rw [decide_eq_true live, if_neg apart, unusable]
    exact ⟨_, rfl⟩
  · rw [decide_eq_false live]
    exact ⟨_, rfl⟩

theorem migratePeer_runs (accepted : Migratable device target) :
    migratePeer failures device target state =
      (do
        Raising.attempt (addPeer failures.add target (migratedPeer device)) (fun text => do
          let ending ← restoreOnSource failures.rollback device (migratedPeer device)
          .raise (addError text ending))
        .write (fun state => { state with serverId := target })) (afterRemove failures device state) := by
  obtain ⟨live, apart, nonempty, split⟩ := accepted
  unfold migratePeer
  rw [decide_eq_true live, if_neg apart, decide_eq_true nonempty, split]
  cases removed : failures.remove with
  | none => simp [afterRemove, removed, removePeer, addError]
  | some text => simp [afterRemove, removed, removePeer, addError]

theorem migratePeer_added (accepted : Migratable device target) (added : failures.add = none) :
    migratePeer failures device target state =
      (.ok (), { (afterRemove failures device state).onNode target (setPeer (migratedPeer device)) with
        serverId := target }) := by
  rw [migratePeer_runs accepted, added]
  rfl

theorem migratePeer_restored (accepted : Migratable device target) {text : String}
    (raised : failures.add = some text) (restored : failures.rollback = none) :
    migratePeer failures device target state =
      (.error (addError text "; rollback restored on source"),
        (afterRemove failures device state).onNode device.serverId (setPeer (migratedPeer device))) := by
  rw [migratePeer_runs accepted, raised, restored]
  rfl

theorem migratePeer_lost (accepted : Migratable device target) {text rollback : String}
    (raised : failures.add = some text) (lost : failures.rollback = some rollback) :
    migratePeer failures device target state =
      (.error (addError text (if rollback = "" then "" else "; rollback_failed=" ++ rollback)),
        afterRemove failures device state) := by
  rw [migratePeer_runs accepted, raised, lost]
  rfl

theorem afterRemove_serverId : (afterRemove failures device state).serverId = state.serverId := by
  unfold afterRemove
  split <;> rfl

theorem afterRemove_of_ne {id : String} (different : id ≠ device.serverId) :
    (afterRemove failures device state).nodes id = state.nodes id := by
  unfold afterRemove
  split
  · rfl
  · exact Migration.onNode_of_ne different _ state

/-- The peer leaves its node when the remove succeeds, and only then. -/
theorem mem_afterRemove (onSource : device.publicKey ∈ (state.nodes device.serverId).keys) :
    device.publicKey ∈ ((afterRemove failures device state).nodes device.serverId).keys ↔
      failures.remove ≠ none := by
  unfold afterRemove
  cases failures.remove with
  | some text => exact iff_of_true onSource (Option.some_ne_none text)
  | none =>
      dsimp only
      rw [Migration.onNode_self, Dict.mem_keys_erase]
      exact iff_of_false (fun both => both.1 rfl) (fun raised => raised rfl)

theorem mem_setPeer (peer : PeerConfigLike) (node : Dict String NodeEntry) :
    peer.publicKey ∈ (setPeer peer node).keys :=
  (Dict.mem_keys_set ..).mpr (Or.inl rfl)

end Outcomes

/-! ### Where the peer is afterwards -/

/-- From a device that is on its node alone: a migration that returns has put the peer on
the target, and the old node keeps it only if the remove raised; one that raises leaves
the row alone and the peer off the target, and on the old node unless the error reports a
failed rollback or the rollback raised without a text. -/
theorem migration_moves_or_restores (failures : MigrateFailures) (device : Device)
    (target : String) (nodes : String → Dict String NodeEntry) (apart : device.serverId ≠ target)
    (onSource : device.publicKey ∈ (nodes device.serverId).keys)
    (onlyThere : ∀ id, id ≠ device.serverId → device.publicKey ∉ (nodes id).keys) :
    let result := migratePeer failures device target ⟨nodes, device.serverId⟩
    (∀ id, id ≠ device.serverId → id ≠ target → device.publicKey ∉ (result.2.nodes id).keys) ∧
    (result.1 = .ok () →
      result.2.serverId = target ∧ device.publicKey ∈ (result.2.nodes target).keys ∧
        (device.publicKey ∈ (result.2.nodes device.serverId).keys → failures.remove ≠ none)) ∧
    ∀ error, result.1 = .error error →
      result.2.serverId = device.serverId ∧ device.publicKey ∉ (result.2.nodes target).keys ∧
        (device.publicKey ∈ (result.2.nodes device.serverId).keys ∨
          contains "rollback_failed=" error.message = true ∨ failures.rollback = some "") := by
  intro result
  have offTarget : device.publicKey ∉ (nodes target).keys := onlyThere target (Ne.symm apart)
  by_cases accepted : Migratable device target
  · have removedElsewhere : ∀ id, id ≠ device.serverId → device.publicKey ∉
        ((afterRemove failures device ⟨nodes, device.serverId⟩).nodes id).keys := by
      intro id different
      rw [afterRemove_of_ne different]
      exact onlyThere id different
    cases added : failures.add with
    | none =>
        have outcome : result = _ := migratePeer_added accepted added
        rw [outcome]
        refine ⟨?_, ?_, nofun⟩
        · intro id offSource notTarget
          rw [Migration.onNode_of_ne notTarget]
          exact removedElsewhere id offSource
        · intro _
          refine ⟨rfl, ?_, ?_⟩
          · rw [Migration.onNode_self]
            exact mem_setPeer (migratedPeer device) _
          · rw [Migration.onNode_of_ne apart]
            exact (mem_afterRemove onSource).mp
    | some text =>
        cases rolled : failures.rollback with
        | none =>
            have outcome : result = _ := migratePeer_restored accepted added rolled
            rw [outcome]
            refine ⟨?_, nofun, ?_⟩
            · intro id offSource _
              rw [Migration.onNode_of_ne offSource]
              exact removedElsewhere id offSource
            · intro error _
              refine ⟨afterRemove_serverId, ?_, Or.inl ?_⟩
              · rw [Migration.onNode_of_ne (Ne.symm apart)]
                exact removedElsewhere target (Ne.symm apart)
              · rw [Migration.onNode_self]
                exact mem_setPeer (migratedPeer device) _
        | some rollback =>
            have outcome : result = _ := migratePeer_lost accepted added rolled
            rw [outcome]
            refine ⟨fun id offSource _ => removedElsewhere id offSource,
              nofun, ?_⟩
            intro error raised
            refine ⟨afterRemove_serverId, removedElsewhere target (Ne.symm apart), Or.inr ?_⟩
            by_cases silent : rollback = ""
            · exact Or.inr (congrArg some silent)
            · left
              obtain rfl := Except.error.inj raised
              rw [if_neg silent]
              have shown : (addError text ("; rollback_failed=" ++ rollback)).message =
                  ("Add peer on target failed: " ++ text ++ "; ") ++ "rollback_failed=" ++
                    rollback := by
                simp only [addError, MigrateError.message, String.append_assoc]
                rfl
              rw [shown]
              exact contains_append ..
  · obtain ⟨error, outcome⟩ : ∃ error, result = (.error error, ⟨nodes, device.serverId⟩) :=
      migratePeer_refused accepted apart
    rw [outcome]
    exact ⟨fun id offSource _ => onlyThere id offSource, nofun,
      fun _ _ => ⟨rfl, offTarget, Or.inl onSource⟩⟩

/-- A device on node `a`, with its peer there. -/
def movedDevice : Device :=
  ⟨1, "sub", "a", none, "key-1", some "10.8.1.2/32", some "psk-1", none, none, none, .applied⟩

def peersOnA : String → Dict String NodeEntry := fun id =>
  if id = "a" then Dict.ofList [("key-1", ⟨"10.8.1.2/32", some "psk-1"⟩)] else Dict.empty

theorem peersOnA_only (id : String) (different : id ≠ "a") : "key-1" ∉ (peersOnA id).keys := by
  rw [peersOnA, if_neg different]
  exact List.not_mem_nil

/-- A failed remove is passed over, and the peer ends on both nodes; a rollback that raises
without a text goes unreported, and the peer ends on neither. -/
theorem migration_leaves_two_or_none :
    let passedOver := migratePeer ⟨some "timeout", none, none⟩ movedDevice "b" ⟨peersOnA, "a"⟩
    let unreported := migratePeer ⟨none, some "target down", some ""⟩ movedDevice "b"
      ⟨peersOnA, "a"⟩
    (passedOver.1 = .ok () ∧ "key-1" ∈ (passedOver.2.nodes "a").keys ∧
        "key-1" ∈ (passedOver.2.nodes "b").keys) ∧
      unreported.1 = .error (addError "target down" "") ∧
        "key-1" ∉ (unreported.2.nodes "a").keys ∧ "key-1" ∉ (unreported.2.nodes "b").keys := by
  decide +kernel

/-- A rollback that raises with a text is reported. -/
theorem failed_rollback_is_reported :
    let result := migratePeer ⟨none, some "target down", some "restore failed"⟩ movedDevice "b"
      ⟨peersOnA, "a"⟩
    result.1 = .error (addError "target down" "; rollback_failed=restore failed") ∧
      ∀ error, result.1 = .error error →
        result.2.serverId = "a" ∧ "key-1" ∉ (result.2.nodes "b").keys ∧
          ("key-1" ∈ (result.2.nodes "a").keys ∨
            contains "rollback_failed=" error.message = true ∨
              (some "restore failed" : Option String) = some "") := by
  intro result
  exact ⟨by decide +kernel, (migration_moves_or_restores ⟨none, some "target down",
    some "restore failed"⟩ movedDevice "b" peersOnA (by decide) (by decide +kernel)
    peersOnA_only).2.2⟩

/-! ### What the peer is afterwards -/

/-- The key the row asks for. -/
def rowKey (device : Device) : Option String := orNone (strip (orDefault device.presharedKey ""))

/-- The peer `reconcile_node` would install for the row on a node that has none. -/
def reconciledPeer (device : Device) : Option NodeEntry :=
  (computeDiff [reconcileRow device] []).peersToAdd.head?.map NodeEntry.ofConfig

/-- Whichever node gets the peer, the target or the old one again, holds it as the reconciler
would. -/
def KeepsParameters (failures : MigrateFailures) (device : Device) (target : String)
    (nodes : String → Dict String NodeEntry) : Prop :=
  let result := migratePeer failures device target ⟨nodes, device.serverId⟩
  (failures.add = none →
    (result.2.nodes target).get? device.publicKey = reconciledPeer device) ∧
  (failures.add ≠ none → failures.rollback = none →
    (result.2.nodes device.serverId).get? device.publicKey = reconciledPeer device)

/-- The condition: the node that gets the peer already holds the row's key under it, which
is none unless the peer was left there. -/
def keyIsHeld (failures : MigrateFailures) (device : Device) (target : String)
    (nodes : String → Dict String NodeEntry) : Bool :=
  match failures.add, failures.rollback, failures.remove with
  | none, _, _ => heldKey device.publicKey (nodes target) = rowKey device
  | some _, some _, _ => true
  | some _, none, none => rowKey device = none
  | some _, none, some _ => heldKey device.publicKey (nodes device.serverId) = rowKey device

theorem reconciledPeer_eq {device : Device} (named : device.publicKey ≠ "")
    (valid : isValidServerAllowedIps device.allowedIps = true) :
    reconciledPeer device = some ⟨migratedIps device, rowKey device⟩ := by
  have rows : dbMap [reconcileRow device] =
      Dict.ofList [(device.publicKey, normalizeRow (reconcileRow device))] := by
    simp [dbMap, reconcileRow, named]
  have entries : (dbMap [reconcileRow device]).entries =
      [(device.publicKey, normalizeRow (reconcileRow device))] := by
    rw [rows]
    exact Dict.entries_ofList _ (List.nodup_singleton _)
  have normal : normalizeRow (reconcileRow device) = (migratedIps device, rowKey device) := by
    simp [normalizeRow, reconcileRow, migratedIps, rowKey, orDefault_empty]
  have accepted : isValidServerAllowedIps (some (normalizeRow (reconcileRow device)).1) = true :=
    (valid_desiredIps (reconcileRow device)).trans
      ((valid_desiredIps ⟨device.publicKey, device.allowedIps, none⟩).trans valid)
  rw [normal] at accepted
  have absent : device.publicKey ∉ (wgMap []).keys := List.not_mem_nil
  simp [reconciledPeer, computeDiff, entries, accepted, absent, peerConfig, normal,
    NodeEntry.ofConfig]

/-- The peer a node holds after `migrate_peer` has added it. -/
theorem setPeer_migrated (device : Device) (node : Dict String NodeEntry) :
    (setPeer (migratedPeer device) node).get? device.publicKey =
      some ⟨migratedIps device, heldKey device.publicKey node⟩ := by
  rw [setPeer]
  exact (Dict.get?_set ..).trans (if_pos rfl)

theorem heldKey_erase (key : String) (node : Dict String NodeEntry) :
    heldKey key (node.erase key) = none := by
  rw [heldKey, Dict.get?_erase, if_pos rfl, Option.bind_none]

/-- A migration keeps the peer as the reconciler would install it exactly when the node that
gets it already holds the row's key. -/
theorem migration_keeps_parameters_iff (failures : MigrateFailures) (device : Device)
    (target : String) (nodes : String → Dict String NodeEntry) (live : device.revokedAt = none)
    (named : device.publicKey ≠ "") (apart : device.serverId ≠ target)
    (valid : isValidServerAllowedIps device.allowedIps = true) :
    KeepsParameters failures device target nodes ↔
      keyIsHeld failures device target nodes = true := by
  have accepted : Migratable device target := by
    simp only [isValidServerAllowedIps, Bool.and_eq_true, Bool.not_eq_true', decide_eq_true_eq]
      at valid
    exact ⟨live, apart, valid.1.1, valid.1.2⟩
  have same : ∀ key : Option String,
      (some ⟨migratedIps device, key⟩ : Option NodeEntry) =
        some ⟨migratedIps device, rowKey device⟩ ↔ key = rowKey device := by
    intro key
    simp
  unfold KeepsParameters
  dsimp only
  rw [reconciledPeer_eq named valid]
  cases added : failures.add with
  | none =>
      have there : ((afterRemove failures device ⟨nodes, device.serverId⟩).nodes target) =
          nodes target := afterRemove_of_ne (Ne.symm apart)
      rw [migratePeer_added accepted added, Migration.onNode_self, setPeer_migrated, same, there]
      simp [keyIsHeld, added]
  | some text =>
      cases rolled : failures.rollback with
      | some rollback => simp [keyIsHeld, added, rolled]
      | none =>
          rw [migratePeer_restored accepted added rolled, Migration.onNode_self, setPeer_migrated,
            same]
          cases removed : failures.remove with
          | none =>
              have gone : (afterRemove failures device ⟨nodes, device.serverId⟩).nodes
                  device.serverId = (nodes device.serverId).erase device.publicKey := by
                simp only [afterRemove, removed]
                exact Migration.onNode_self ..
              rw [gone, heldKey_erase]
              simp [keyIsHeld, added, rolled, removed, eq_comm]
          | some reason =>
              have kept : (afterRemove failures device ⟨nodes, device.serverId⟩).nodes
                  device.serverId = nodes device.serverId := by
                simp only [afterRemove, removed]
              rw [kept]
              simp [keyIsHeld, added, rolled, removed]

/-- The preshared key is lost on the target, and on the old node after a rollback. -/
theorem migration_drops_preshared_key :
    ¬ KeepsParameters ⟨none, none, none⟩ movedDevice "b" peersOnA ∧
      ¬ KeepsParameters ⟨none, some "target down", none⟩ movedDevice "b" peersOnA := by
  refine ⟨?_, ?_⟩
  · intro keeps
    exact absurd (keeps.1 rfl) (by decide +kernel)
  · intro keeps
    exact absurd (keeps.2 (by decide) rfl) (by decide +kernel)

/-- A device without a preshared key moves unchanged. -/
theorem keyless_peer_moves_unchanged :
    KeepsParameters ⟨none, none, none⟩ { movedDevice with presharedKey := none } "b"
      (fun _ => Dict.empty) :=
  (migration_keeps_parameters_iff ⟨none, none, none⟩ { movedDevice with presharedKey := none } "b"
    (fun _ => Dict.empty) rfl (by decide) (by decide) (by decide +kernel)).mpr (by decide +kernel)

end VpnSuite.Fleet
