/-
One reconciliation cycle, cell by cell.

Each of the three passes of `applyDiff` touches only the keys of its own list, so
what a cycle leaves under a key follows from the key's row, the entry before the
cycle and the calls that raise for this key.  The results on reaching the desired
state, on repeating a cycle and on failing calls are read off from that.
-/

import VpnSuite.ControlPlane.ReconciliationDiff
import VpnSuite.Foundations.KeyedPass

set_option autoImplicit false

namespace VpnSuite.ControlPlane

open Foundations
open Foundations.PythonText
open VpnSuite.Runtime (PeerConfigLike)

/-! ### What a pass does to one cell -/

def orphanCell (raises : Failures) (key : String) (cell : Option NodeEntry) :
    Option NodeEntry :=
  match raises (.removePeer key) with
  | some _ => cell
  | none => none

def addedCell (raises : Failures) (peer : PeerConfigLike) (cell : Option NodeEntry) :
    Option NodeEntry :=
  match raises (.addPeer peer) with
  | some _ => cell
  | none => some (.ofConfig peer)

def reappliedCell (raises : Failures) (peer : PeerConfigLike) (cell : Option NodeEntry) :
    Option NodeEntry :=
  match raises (.removePeer peer.publicKey) with
  | some _ => cell
  | none => addedCell raises peer none

def Applied.cell (state : Applied) (key : String) : Option NodeEntry := state.node.get? key

theorem removeOrphan_keyed (raises : Failures) :
    KeyedStep Applied.cell (fun key : String => key) (orphanCell raises)
      (removeOrphan raises) where
  own state key := by
    unfold removeOrphan orphanCell
    cases raises (.removePeer key) with
    | some message => rfl
    | none => simp [Applied.cell]
  frame state key other different := by
    unfold removeOrphan
    cases raises (.removePeer key) with
    | some message => rfl
    | none => simp [Applied.cell, different]

theorem addMissing_keyed (raises : Failures) :
    KeyedStep Applied.cell PeerConfigLike.publicKey (addedCell raises)
      (addMissing raises) where
  own state peer := by
    unfold addMissing addedCell
    cases raises (.addPeer peer) with
    | some message => rfl
    | none => simp [Applied.cell]
  frame state peer other different := by
    unfold addMissing
    cases raises (.addPeer peer) with
    | some message => rfl
    | none => simp [Applied.cell, different]

theorem reapply_keyed (raises : Failures) :
    KeyedStep Applied.cell PeerConfigLike.publicKey (reappliedCell raises)
      (reapply raises) where
  own state peer := by
    unfold reapply reappliedCell addedCell
    cases raises (.removePeer peer.publicKey) with
    | some message => rfl
    | none =>
        cases raises (.addPeer peer) with
        | some message => simp [Applied.cell, Applied.addError]
        | none => simp [Applied.cell]
  frame state peer other different := by
    unfold reapply
    cases raises (.removePeer peer.publicKey) with
    | some message => rfl
    | none =>
        cases raises (.addPeer peer) with
        | some message => simp [Applied.cell, Applied.addError, different]
        | none => simp [Applied.cell, different]

/-! ### What a cycle does to one cell -/

section Cycle

variable {settings : ReconciliationSettings} (writable : settings.readOnly = false)
  (raises : Failures) {dbPeers : List DbPeer} {node : Dict String NodeEntry}

/-- The state after the orphan pass. -/
def pruned (settings : ReconciliationSettings) (raises : Failures) (dbPeers : List DbPeer)
    (node : Dict String NodeEntry) : Applied :=
  if settings.removeOrphans then
    (computeDiff dbPeers (listPeers node)).peersToRemove.foldl (removeOrphan raises)
      ⟨node, ⟨0, 0, 0, [], []⟩⟩
  else ⟨node, ⟨0, 0, 0, [], []⟩⟩

include writable in
theorem reconcileCycle_eq :
    reconcileCycle settings raises dbPeers node =
      (computeDiff dbPeers (listPeers node)).peersToUpdate.foldl (reapply raises)
        ((computeDiff dbPeers (listPeers node)).peersToAdd.foldl (addMissing raises)
          (pruned settings raises dbPeers node)) := by
  rw [reconcileCycle, applyDiff, if_neg (by rw [writable]; simp)]
  rfl

theorem desired_of_mem_peersToAdd {key : String}
    (member : key ∈ (computeDiff dbPeers (listPeers node)).peersToAdd.map
      PeerConfigLike.publicKey) :
    ∃ row, desiredRow dbPeers key = some row ∧ node.get? key = none ∧
      isValidServerAllowedIps row.allowedIps = true := by
  obtain ⟨config, listed, rfl⟩ := List.mem_map.mp member
  obtain ⟨key, row, found, absent, valid, rfl⟩ := mem_peersToAdd.mp listed
  exact ⟨row, found, (node.get?_eq_none_iff key).mpr absent, valid⟩

theorem desired_of_mem_peersToUpdate {key : String}
    (member : key ∈ (computeDiff dbPeers (listPeers node)).peersToUpdate.map
      PeerConfigLike.publicKey) :
    ∃ row entry, desiredRow dbPeers key = some row ∧ node.get? key = some entry ∧
      isValidServerAllowedIps row.allowedIps = true ∧ reportsUnusable entry := by
  obtain ⟨config, listed, rfl⟩ := List.mem_map.mp member
  obtain ⟨key, row, entry, found, valid, stored, unusable, rfl⟩ := mem_peersToUpdate.mp listed
  exact ⟨row, entry, found, stored, valid, unusable⟩

theorem pruned_desired {key : String} {row : DbPeer}
    (found : desiredRow dbPeers key = some row) :
    (pruned settings raises dbPeers node).cell key = node.get? key := by
  unfold pruned
  split
  · rw [(removeOrphan_keyed raises).foldl_frame]
    · rfl
    · rw [List.map_id']
      intro member
      rw [(mem_peersToRemove.mp member).2.2] at found
      cases found
  · rfl

include writable in
/-- The orphan pass is the only one that reaches a key without a row. -/
theorem reconcileCycle_unknown {key : String} (unknown : desiredRow dbPeers key = none) :
    (reconcileCycle settings raises dbPeers node).node.get? key =
      (pruned settings raises dbPeers node).cell key := by
  have notUpdated : key ∉ (computeDiff dbPeers (listPeers node)).peersToUpdate.map
      PeerConfigLike.publicKey := by
    intro member
    obtain ⟨row, entry, found, _⟩ := desired_of_mem_peersToUpdate member
    rw [unknown] at found
    cases found
  have notAdded : key ∉ (computeDiff dbPeers (listPeers node)).peersToAdd.map
      PeerConfigLike.publicKey := by
    intro member
    obtain ⟨row, found, _⟩ := desired_of_mem_peersToAdd member
    rw [unknown] at found
    cases found
  rw [reconcileCycle_eq writable]
  exact ((reapply_keyed raises).foldl_frame _ _ key notUpdated).trans
    ((addMissing_keyed raises).foldl_frame _ _ key notAdded)

include writable in
theorem reconcileCycle_orphan {key : String} (unknown : desiredRow dbPeers key = none)
    (named : key ≠ "") (prune : settings.removeOrphans = true) :
    (reconcileCycle settings raises dbPeers node).node.get? key =
      orphanCell raises key (node.get? key) := by
  rw [reconcileCycle_unknown writable raises unknown, pruned, if_pos prune]
  by_cases present : key ∈ node.keys
  · have member := mem_peersToRemove.mpr ⟨named, present, unknown⟩
    exact (removeOrphan_keyed raises).foldl_own _
      (by rw [List.map_id']; exact peersToRemove_nodup _ _) _ member
  · have absent := (node.get?_eq_none_iff key).mpr present
    have notListed : key ∉ (computeDiff dbPeers (listPeers node)).peersToRemove.map
        (fun key => key) := by
      rw [List.map_id']
      exact fun member => present (mem_peersToRemove.mp member).2.1
    rw [(removeOrphan_keyed raises).foldl_frame _ _ key notListed]
    change node.get? key = orphanCell raises key (node.get? key)
    rw [absent, orphanCell]
    split <;> rfl

include writable in
theorem reconcileCycle_kept {key : String} (unknown : desiredRow dbPeers key = none)
    (spared : key = "" ∨ settings.removeOrphans = false) :
    (reconcileCycle settings raises dbPeers node).node.get? key = node.get? key := by
  rw [reconcileCycle_unknown writable raises unknown, pruned]
  split
  · rename_i prune
    rcases spared with unnamed | off
    · have notListed : key ∉ (computeDiff dbPeers (listPeers node)).peersToRemove.map
          (fun key => key) := by
        rw [List.map_id']
        exact fun member => (mem_peersToRemove.mp member).1 unnamed
      exact (removeOrphan_keyed raises).foldl_frame _ _ key notListed
    · rw [prune] at off
      cases off
  · rfl

include writable in
theorem reconcileCycle_missing {key : String} {row : DbPeer}
    (found : desiredRow dbPeers key = some row)
    (valid : isValidServerAllowedIps row.allowedIps = true) (absent : node.get? key = none) :
    (reconcileCycle settings raises dbPeers node).node.get? key =
      addedCell raises (peerConfig key (normalizeRow row)) none := by
  have notUpdated : key ∉ (computeDiff dbPeers (listPeers node)).peersToUpdate.map
      PeerConfigLike.publicKey := by
    intro member
    obtain ⟨_, entry, _, stored, _⟩ := desired_of_mem_peersToUpdate member
    rw [absent] at stored
    cases stored
  have member : peerConfig key (normalizeRow row) ∈
      (computeDiff dbPeers (listPeers node)).peersToAdd :=
    mem_peersToAdd.mpr ⟨key, row, found, (node.get?_eq_none_iff key).mp absent, valid, rfl⟩
  rw [reconcileCycle_eq writable]
  refine ((reapply_keyed raises).foldl_frame _ _ key notUpdated).trans ?_
  refine ((addMissing_keyed raises).foldl_own _ (peersToAdd_nodup _ _) _ member).trans ?_
  exact congrArg _ ((pruned_desired raises found).trans absent)

include writable in
theorem reconcileCycle_unusable {key : String} {row : DbPeer} {entry : NodeEntry}
    (found : desiredRow dbPeers key = some row)
    (valid : isValidServerAllowedIps row.allowedIps = true) (stored : node.get? key = some entry)
    (unusable : reportsUnusable entry) :
    (reconcileCycle settings raises dbPeers node).node.get? key =
      reappliedCell raises (peerConfig key (normalizeRow row)) (some entry) := by
  have notAdded : key ∉ (computeDiff dbPeers (listPeers node)).peersToAdd.map
      PeerConfigLike.publicKey := by
    intro member
    obtain ⟨_, _, absent, _⟩ := desired_of_mem_peersToAdd member
    rw [stored] at absent
    cases absent
  have member : peerConfig key (normalizeRow row) ∈
      (computeDiff dbPeers (listPeers node)).peersToUpdate :=
    mem_peersToUpdate.mpr ⟨key, row, entry, found, valid, stored, unusable, rfl⟩
  rw [reconcileCycle_eq writable]
  refine ((reapply_keyed raises).foldl_own _ (peersToUpdate_nodup _ _) _ member).trans ?_
  refine congrArg _ (((addMissing_keyed raises).foldl_frame _ _ key notAdded).trans ?_)
  exact (pruned_desired raises found).trans stored

include writable in
/-- A key of the database that is in none of the lists keeps its cell. -/
theorem reconcileCycle_untouched {key : String} {row : DbPeer}
    (found : desiredRow dbPeers key = some row)
    (notAdded : key ∉ (computeDiff dbPeers (listPeers node)).peersToAdd.map
      PeerConfigLike.publicKey)
    (notUpdated : key ∉ (computeDiff dbPeers (listPeers node)).peersToUpdate.map
      PeerConfigLike.publicKey) :
    (reconcileCycle settings raises dbPeers node).node.get? key = node.get? key := by
  rw [reconcileCycle_eq writable]
  refine ((reapply_keyed raises).foldl_frame _ _ key notUpdated).trans ?_
  refine ((addMissing_keyed raises).foldl_frame _ _ key notAdded).trans ?_
  exact pruned_desired raises found

include writable in
theorem reconcileCycle_invalid {key : String} {row : DbPeer}
    (found : desiredRow dbPeers key = some row)
    (invalid : isValidServerAllowedIps row.allowedIps = false) :
    (reconcileCycle settings raises dbPeers node).node.get? key = node.get? key := by
  apply reconcileCycle_untouched writable raises found
  · intro member
    obtain ⟨other, sameRow, _, valid⟩ := desired_of_mem_peersToAdd member
    rw [found, Option.some.injEq] at sameRow
    rw [← sameRow, invalid] at valid
    cases valid
  · intro member
    obtain ⟨other, _, sameRow, _, valid, _⟩ := desired_of_mem_peersToUpdate member
    rw [found, Option.some.injEq] at sameRow
    rw [← sameRow, invalid] at valid
    cases valid

include writable in
theorem reconcileCycle_usable {key : String} {row : DbPeer} {entry : NodeEntry}
    (found : desiredRow dbPeers key = some row) (stored : node.get? key = some entry)
    (usable : ¬ reportsUnusable entry) :
    (reconcileCycle settings raises dbPeers node).node.get? key = some entry := by
  rw [← stored]
  apply reconcileCycle_untouched writable raises found
  · intro member
    obtain ⟨_, _, absent, _⟩ := desired_of_mem_peersToAdd member
    rw [stored] at absent
    cases absent
  · intro member
    obtain ⟨_, other, _, sameEntry, _, unusable⟩ := desired_of_mem_peersToUpdate member
    rw [stored, Option.some.injEq] at sameEntry
    rw [← sameEntry] at unusable
    exact usable unusable

end Cycle

end VpnSuite.ControlPlane
