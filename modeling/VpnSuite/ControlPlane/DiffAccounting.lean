/-
The lists of a reconciliation diff and the counters of its application
(`compute_diff` and `apply_diff` in `services/reconciliation_engine.py`, `list_peers` of
`DockerNodeRuntimeAdapter` in `services/node_runtime_docker.py`).

The rows and the listed peers may hold empty keys and the same key many times.  Every item of
the three lists ends up in one of the counters or in the errors.
-/

import VpnSuite.ControlPlane.ReconciliationDiff
import VpnSuite.Foundations.KeyedPass
import VpnSuite.Runtime.DumpParsers

set_option autoImplicit false

namespace VpnSuite.ControlPlane

open Foundations
open VpnSuite.Runtime (PeerConfigLike DumpedPeerDict parseWgDump)

/-! ### The listing of the docker adapter -/

def dumpedPeer (peer : DumpedPeerDict) : WgPeer :=
  { publicKey := some (String.ofList peer.publicKey)
    allowedIps := some (String.ofList peer.allowedIps)
    allowedIp := none }

/-- `list_peers`, with the exit code and the output of the dump command if the node is found. -/
def dockerListPeers : Option (Int × List Char) → List WgPeer
  | none => []
  | some (code, output) => if code ≠ 0 then [] else (parseWgDump output).2.2.map dumpedPeer

/-! ### The law -/

def ReconciliationDiff.addKeys (diff : ReconciliationDiff) : List String :=
  diff.peersToAdd.map PeerConfigLike.publicKey

def ReconciliationDiff.updateKeys (diff : ReconciliationDiff) : List String :=
  diff.peersToUpdate.map PeerConfigLike.publicKey

/-- Some listed peer has the key. -/
def IsListed (wgPeers : List WgPeer) (key : String) : Prop :=
  ∃ peer ∈ wgPeers, peer.publicKey = some key

/-- The last row of the key, if it has one. -/
def lastRow (dbPeers : List DbPeer) (key : String) : Option DbPeer :=
  dbPeers.reverse.find? (fun row => row.publicKey = key)

/-- The three lists share no key, and hold what they have to. -/
structure Partitions (dbPeers : List DbPeer) (wgPeers : List WgPeer) (diff : ReconciliationDiff) :
    Prop where
  addsOnce : diff.addKeys.Nodup
  removesOnce : diff.peersToRemove.Nodup
  updatesOnce : diff.updateKeys.Nodup
  addsOrRemoves : diff.addKeys.Disjoint diff.peersToRemove
  addsOrUpdates : diff.addKeys.Disjoint diff.updateKeys
  removesOrUpdates : diff.peersToRemove.Disjoint diff.updateKeys
  removes : ∀ key, key ∈ diff.peersToRemove ↔
    key ≠ "" ∧ IsListed wgPeers key ∧ ∀ row ∈ dbPeers, row.publicKey ≠ key
  adds : ∀ key, key ∈ diff.addKeys ↔ key ≠ "" ∧ ¬ IsListed wgPeers key ∧
    ∃ row, lastRow dbPeers key = some row ∧ isValidServerAllowedIps row.allowedIps = true

/-- Every item is counted once, and the added keys are those whose call has succeeded. -/
structure Accounts (raises : Failures) (diff : ReconciliationDiff) (result : ReconciliationResult) :
    Prop where
  total : result.peersAdded + result.peersRemoved + result.peersUpdated + result.errors.length =
    diff.peersToAdd.length + diff.peersToRemove.length + diff.peersToUpdate.length
  added : result.peersAddedPubkeys =
    (diff.peersToAdd.filter (fun peer => raises (.addPeer peer) = none)).map
      PeerConfigLike.publicKey

/-! ### The lists -/

section Lists

variable {dbPeers : List DbPeer} {wgPeers : List WgPeer} {key : String}

theorem wgItem_fst {peer : WgPeer} : (∃ reported, wgItem peer = some (key, reported)) ↔
    key ≠ "" ∧ peer.publicKey = some key := by
  unfold wgItem
  cases named : peer.publicKey with
  | none => simp
  | some name =>
      dsimp only
      constructor
      · rintro ⟨reported, item⟩
        split at item
        · cases item
        · rename_i nonempty
          obtain ⟨rfl, -⟩ := Prod.mk.inj (Option.some.inj item)
          exact ⟨nonempty, rfl⟩
      · rintro ⟨nonempty, same⟩
        obtain rfl := Option.some.inj same
        exact ⟨_, if_neg nonempty⟩

theorem mem_wgMap_keys : key ∈ (wgMap wgPeers).keys ↔ key ≠ "" ∧ IsListed wgPeers key := by
  rw [wgMap, Dict.mem_keys_ofList]
  simp only [List.mem_map, List.mem_filterMap, Prod.exists, exists_and_right, exists_eq_right]
  constructor
  · rintro ⟨reported, peer, listed, item⟩
    obtain ⟨nonempty, named⟩ := wgItem_fst.mp ⟨reported, item⟩
    exact ⟨nonempty, peer, listed, named⟩
  · rintro ⟨nonempty, peer, listed, named⟩
    obtain ⟨reported, item⟩ := wgItem_fst.mpr ⟨nonempty, named⟩
    exact ⟨reported, peer, listed, item⟩

theorem desiredRow_eq (named : key ≠ "") : desiredRow dbPeers key = lastRow dbPeers key :=
  if_neg named

theorem desiredRow_eq_none : desiredRow dbPeers key = none ↔
    key = "" ∨ ∀ row ∈ dbPeers, row.publicKey ≠ key := by
  unfold desiredRow
  split
  · rename_i unnamed
    exact iff_of_true rfl (Or.inl unnamed)
  · rename_i named
    rw [or_iff_right named, List.find?_eq_none]
    simp only [List.mem_reverse, decide_eq_true_eq, ne_eq]

theorem mem_addKeys : key ∈ (computeDiff dbPeers wgPeers).addKeys ↔
    ∃ row, desiredRow dbPeers key = some row ∧ key ∉ (wgMap wgPeers).keys ∧
      isValidServerAllowedIps row.allowedIps = true := by
  simp only [ReconciliationDiff.addKeys, computeDiff, List.map_map, List.mem_map, List.mem_filter,
    mem_dbMap_entries, Bool.and_eq_true, decide_eq_true_eq]
  constructor
  · rintro ⟨⟨name, desired⟩, ⟨⟨row, found, rfl⟩, absent, valid⟩, rfl⟩
    exact ⟨row, found, absent, (valid_desiredIps row).symm.trans valid⟩
  · rintro ⟨row, found, absent, valid⟩
    exact ⟨(key, normalizeRow row), ⟨⟨row, found, rfl⟩, absent, (valid_desiredIps row).trans valid⟩,
      rfl⟩

theorem mem_removeKeys : key ∈ (computeDiff dbPeers wgPeers).peersToRemove ↔
    key ∈ (wgMap wgPeers).keys ∧ desiredRow dbPeers key = none := by
  simp only [computeDiff, List.mem_filter, mem_dbMap_keys, decide_eq_true_eq, Bool.not_eq_true,
    Option.isSome_eq_false_iff, Option.isNone_iff_eq_none]

theorem updateKeys_known (member : key ∈ (computeDiff dbPeers wgPeers).updateKeys) :
    (desiredRow dbPeers key).isSome = true ∧ key ∈ (wgMap wgPeers).keys := by
  simp only [ReconciliationDiff.updateKeys, computeDiff, List.map_map, List.mem_map,
    List.mem_filter, mem_dbMap_entries, Bool.and_eq_true] at member
  obtain ⟨⟨name, desired⟩, ⟨⟨row, found, _⟩, _, drift⟩, rfl⟩ := member
  refine ⟨Option.isSome_iff_exists.mpr ⟨row, found⟩, ?_⟩
  cases reported : (wgMap wgPeers).get? name with
  | none =>
      rw [reported] at drift
      cases drift
  | some value => exact Dict.mem_keys_of_get? reported

theorem computeDiff_partitions (dbPeers : List DbPeer) (wgPeers : List WgPeer) :
    Partitions dbPeers wgPeers (computeDiff dbPeers wgPeers) := by
  refine ⟨peersToAdd_nodup dbPeers wgPeers, peersToRemove_nodup dbPeers wgPeers,
    peersToUpdate_nodup dbPeers wgPeers, ?_, ?_, ?_, ?_, ?_⟩
  · intro key adds removes
    obtain ⟨row, found, _⟩ := mem_addKeys.mp adds
    rw [(mem_removeKeys.mp removes).2] at found
    cases found
  · intro key adds updates
    obtain ⟨row, _, absent, _⟩ := mem_addKeys.mp adds
    exact absent (updateKeys_known updates).2
  · intro key removes updates
    have known := (updateKeys_known updates).1
    rw [(mem_removeKeys.mp removes).2] at known
    cases known
  · intro key
    rw [mem_removeKeys, mem_wgMap_keys, desiredRow_eq_none]
    constructor
    · rintro ⟨⟨named, listed⟩, unknown⟩
      exact ⟨named, listed, unknown.resolve_left named⟩
    · rintro ⟨named, listed, unknown⟩
      exact ⟨⟨named, listed⟩, Or.inr unknown⟩
  · intro key
    rw [mem_addKeys, mem_wgMap_keys]
    constructor
    · rintro ⟨row, found, absent, valid⟩
      have named := desiredRow_named found
      rw [desiredRow_eq named] at found
      exact ⟨named, fun listed => absent ⟨named, listed⟩, row, found, valid⟩
    · rintro ⟨named, unlisted, row, found, valid⟩
      rw [← desiredRow_eq named] at found
      exact ⟨row, found, fun present => unlisted present.2, valid⟩

end Lists

/-! ### The counters -/

/-- The items that a result accounts for. -/
def ReconciliationResult.accounted (result : ReconciliationResult) : Nat :=
  result.peersAdded + result.peersRemoved + result.peersUpdated + result.errors.length

section Counters

variable {raises : Failures} {state : Applied}

theorem addError_accounted (action key message : String) :
    (state.addError action key message).result.accounted = state.result.accounted + 1 := by
  simp only [Applied.addError, ReconciliationResult.accounted, List.length_append,
    List.length_singleton]
  omega

theorem removeOrphan_accounted (key : String) :
    (removeOrphan raises state key).result.accounted = state.result.accounted + 1 ∧
      (removeOrphan raises state key).result.peersAddedPubkeys =
        state.result.peersAddedPubkeys := by
  unfold removeOrphan
  split
  · exact ⟨addError_accounted .., rfl⟩
  · refine ⟨?_, rfl⟩
    simp only [ReconciliationResult.accounted]
    omega

theorem addMissing_accounted (peer : PeerConfigLike) :
    (addMissing raises state peer).result.accounted = state.result.accounted + 1 ∧
      (addMissing raises state peer).result.peersAddedPubkeys = state.result.peersAddedPubkeys ++
        ([peer].filter (fun peer => raises (.addPeer peer) = none)).map
          PeerConfigLike.publicKey := by
  unfold addMissing
  cases outcome : raises (.addPeer peer) with
  | some message =>
      refine ⟨addError_accounted .., ?_⟩
      simp [outcome, Applied.addError]
  | none =>
      refine ⟨?_, by simp [outcome]⟩
      simp only [ReconciliationResult.accounted]
      omega

theorem reapply_accounted (peer : PeerConfigLike) :
    (reapply raises state peer).result.accounted = state.result.accounted + 1 ∧
      (reapply raises state peer).result.peersAddedPubkeys =
        state.result.peersAddedPubkeys := by
  unfold reapply
  split
  · exact ⟨addError_accounted .., rfl⟩
  · split
    · exact ⟨addError_accounted .., rfl⟩
    · refine ⟨?_, rfl⟩
      simp only [ReconciliationResult.accounted]
      omega

/-- A pass that accounts for one item a step accounts for all of them. -/
theorem foldl_accounted {ι : Type} {step : Applied → ι → Applied}
    (counts : ∀ state item, (step state item).result.accounted = state.result.accounted + 1)
    (items : List ι) (state : Applied) :
    (items.foldl step state).result.accounted = state.result.accounted + items.length := by
  induction items generalizing state with
  | nil => rfl
  | cons item rest ih =>
      rw [List.foldl_cons, ih, counts, List.length_cons]
      omega

theorem foldl_addMissing_pubkeys (peers : List PeerConfigLike) (state : Applied) :
    (peers.foldl (addMissing raises) state).result.peersAddedPubkeys =
      state.result.peersAddedPubkeys ++
        (peers.filter (fun peer => raises (.addPeer peer) = none)).map
          PeerConfigLike.publicKey := by
  induction peers generalizing state with
  | nil => exact (List.append_nil _).symm
  | cons peer rest ih =>
      rw [List.foldl_cons, ih, (addMissing_accounted peer).2, List.append_assoc, ← List.map_append,
        ← List.filter_append, List.singleton_append]

/-- Applying any diff accounts for all of its items. -/
theorem applyDiff_accounts (raises : Failures) (diff : ReconciliationDiff)
    (node : Dict String NodeEntry) :
    Accounts raises diff (applyDiff ⟨false, true⟩ raises diff node).result := by
  have passes : applyDiff ⟨false, true⟩ raises diff node =
      diff.peersToUpdate.foldl (reapply raises) (diff.peersToAdd.foldl (addMissing raises)
        (diff.peersToRemove.foldl (removeOrphan raises) ⟨node, ⟨0, 0, 0, [], []⟩⟩)) := by
    rw [applyDiff, if_neg (fun readOnly => Bool.false_ne_true readOnly.1)]
    rfl
  constructor
  · have counted : (applyDiff ⟨false, true⟩ raises diff node).result.accounted =
        0 + diff.peersToRemove.length + diff.peersToAdd.length + diff.peersToUpdate.length := by
      rw [passes, foldl_accounted (fun state peer => (reapply_accounted peer).1),
        foldl_accounted (fun state peer => (addMissing_accounted peer).1),
        foldl_accounted (fun state key => (removeOrphan_accounted key).1)]
      rfl
    rw [ReconciliationResult.accounted] at counted
    omega
  · have reapplied := foldl_invariant (fun state : Applied => state.result.peersAddedPubkeys)
      (reapply raises) diff.peersToUpdate (fun state peer _ => (reapply_accounted peer).2)
    have pruned := foldl_invariant (fun state : Applied => state.result.peersAddedPubkeys)
      (removeOrphan raises) diff.peersToRemove (fun state key _ => (removeOrphan_accounted key).2)
    rw [passes, reapplied, foldl_addMissing_pubkeys, pruned]
    rfl

end Counters

/-! ### Nothing listed, nothing removed -/

theorem computeDiff_unlisted (dbPeers : List DbPeer) :
    (computeDiff dbPeers []).peersToRemove = [] ∧ (computeDiff dbPeers []).peersToUpdate = [] := by
  have partitions := computeDiff_partitions dbPeers []
  constructor
  · rw [List.eq_nil_iff_forall_not_mem]
    intro key removes
    obtain ⟨_, ⟨peer, listed, _⟩, _⟩ := (partitions.removes key).mp removes
    cases listed
  · rw [List.eq_nil_iff_forall_not_mem]
    intro peer updates
    have listed := (updateKeys_known (List.mem_map_of_mem updates)).2
    obtain ⟨_, _, impossible, _⟩ := mem_wgMap_keys.mp listed
    cases impossible

theorem addMissing_keeps (raises : Failures) (state : Applied) (peer : PeerConfigLike) :
    (addMissing raises state peer).result.peersRemoved = state.result.peersRemoved ∧
      state.node.keys ⊆ (addMissing raises state peer).node.keys := by
  unfold addMissing
  split
  · exact ⟨rfl, fun _ present => present⟩
  · refine ⟨rfl, ?_⟩
    intro key present
    rw [Dict.mem_keys_set]
    exact Or.inr present

theorem foldl_addMissing_keeps (raises : Failures) (peers : List PeerConfigLike)
    (state : Applied) :
    (peers.foldl (addMissing raises) state).result.peersRemoved = state.result.peersRemoved ∧
      state.node.keys ⊆ (peers.foldl (addMissing raises) state).node.keys := by
  induction peers generalizing state with
  | nil => exact ⟨rfl, fun _ present => present⟩
  | cons peer rest ih =>
      obtain ⟨counted, kept⟩ := addMissing_keeps raises state peer
      obtain ⟨countedLater, keptLater⟩ := ih (addMissing raises state peer)
      exact ⟨countedLater.trans counted, fun key present => keptLater (kept present)⟩

/-- A cycle over an empty listing removes nothing. -/
structure SparesUnlisted (raises : Failures) (dbPeers : List DbPeer)
    (node : Dict String NodeEntry) : Prop where
  noOrphans : (computeDiff dbPeers []).peersToRemove = []
  noRemovals :
    (applyDiff ⟨false, true⟩ raises (computeDiff dbPeers []) node).result.peersRemoved = 0
  kept : node.keys ⊆
    (applyDiff ⟨false, true⟩ raises (computeDiff dbPeers []) node).node.keys

theorem sparesUnlisted (raises : Failures) (dbPeers : List DbPeer) (node : Dict String NodeEntry) :
    SparesUnlisted raises dbPeers node := by
  obtain ⟨noOrphans, noUpdates⟩ := computeDiff_unlisted dbPeers
  have onlyAdds : applyDiff ⟨false, true⟩ raises (computeDiff dbPeers []) node =
      (computeDiff dbPeers []).peersToAdd.foldl (addMissing raises) ⟨node, ⟨0, 0, 0, [], []⟩⟩ := by
    rw [applyDiff, if_neg (fun readOnly => Bool.false_ne_true readOnly.1), noOrphans, noUpdates]
    rfl
  have adds := foldl_addMissing_keeps raises (computeDiff dbPeers []).peersToAdd
    ⟨node, ⟨0, 0, 0, [], []⟩⟩
  refine ⟨noOrphans, ?_, ?_⟩
  · rw [onlyAdds]
    exact adds.1
  · rw [onlyAdds]
    exact adds.2

/-- The lists of a diff partition the drift, their application accounts for every item, and a
listing that is empty, as after a failed dump, removes nothing. -/
theorem diff_partitions_and_accounts (raises : Failures) (dbPeers : List DbPeer)
    (wgPeers : List WgPeer) (node : Dict String NodeEntry) :
    Partitions dbPeers wgPeers (computeDiff dbPeers wgPeers) ∧
      Accounts raises (computeDiff dbPeers wgPeers)
        (applyDiff ⟨false, true⟩ raises (computeDiff dbPeers wgPeers) node).result ∧
      (∀ code output, code ≠ 0 → dockerListPeers (some (code, output)) = []) ∧
      SparesUnlisted raises dbPeers node := by
  refine ⟨computeDiff_partitions dbPeers wgPeers, applyDiff_accounts raises _ node, ?_,
    sparesUnlisted raises dbPeers node⟩
  intro code output failed
  exact if_pos failed

/-- A row of an empty key, a key twice with an invalid last row, and a peer listed twice. -/
example : computeDiff
    [⟨"", some "10.8.1.2/32", none⟩, ⟨"pkA", some "10.8.1.2/32", none⟩, ⟨"pkA", none, none⟩,
      ⟨"pkB", some "10.8.1.3/32", none⟩]
    [⟨some "pkC", none, none⟩, ⟨some "pkC", some "10.8.1.4/32", none⟩, ⟨some "", none, none⟩] =
      ⟨[⟨"pkB", some "10.8.1.3/32", none, some 25⟩], ["pkC"], []⟩ := by decide

end VpnSuite.ControlPlane
