/-
What a reconciliation cycle achieves.

A cycle in which no adapter call fails leaves nothing for the next cycle to do.
Whether it also reaches the desired state depends on the shape of the drift, and
whether a failing cycle keeps a desired peer connected depends on which of the
two calls of a repair fails.
-/

import VpnSuite.ControlPlane.ReconciliationCycle

set_option autoImplicit false

namespace VpnSuite.ControlPlane

open Foundations
open Foundations.PythonText
open VpnSuite.Runtime (PeerConfigLike)

def pruning : ReconciliationSettings := { readOnly := false, removeOrphans := true }

def sparing : ReconciliationSettings := { readOnly := false, removeOrphans := false }

/-! ### Reaching the desired state -/

/-- Every valid row is on the node with its stripped addresses, and nothing else is. -/
def DesiredReached (dbPeers : List DbPeer) (node : Dict String NodeEntry) : Prop :=
  (∀ key row, desiredRow dbPeers key = some row →
    isValidServerAllowedIps row.allowedIps = true →
    ∃ entry, node.get? key = some entry ∧ entry.allowedIps = desiredIps row) ∧
  ∀ key ∈ node.keys, (desiredRow dbPeers key).isSome = true

/-- Every drift on the node has a shape the drift test sees. -/
def DriftVisible (dbPeers : List DbPeer) (node : Dict String NodeEntry) : Prop :=
  (∀ key row entry, desiredRow dbPeers key = some row →
    isValidServerAllowedIps row.allowedIps = true → node.get? key = some entry →
    entry.allowedIps = desiredIps row ∨ reportsUnusable entry) ∧
  "" ∉ node.keys

theorem ofConfig_peerConfig (key : String) (row : DbPeer) :
    (NodeEntry.ofConfig (peerConfig key (normalizeRow row))).allowedIps = desiredIps row := rfl

/-- Without failures a valid row ends on the node: written, or as it was. -/
theorem reconcileCycle_present {settings : ReconciliationSettings}
    (writable : settings.readOnly = false) {dbPeers : List DbPeer} (node : Dict String NodeEntry)
    {key : String} {row : DbPeer} (found : desiredRow dbPeers key = some row)
    (valid : isValidServerAllowedIps row.allowedIps = true) :
    ∃ entry, (reconcileCycle settings noFailures dbPeers node).node.get? key = some entry ∧
      (entry.allowedIps = desiredIps row ∨
        node.get? key = some entry ∧ ¬ reportsUnusable entry) := by
  cases stored : node.get? key with
  | none =>
      exact ⟨_, reconcileCycle_missing writable noFailures found valid stored,
        Or.inl (ofConfig_peerConfig key row)⟩
  | some entry =>
      by_cases unusable : reportsUnusable entry
      · exact ⟨_, reconcileCycle_unusable writable noFailures found valid stored unusable,
          Or.inl (ofConfig_peerConfig key row)⟩
      · exact ⟨entry, reconcileCycle_usable writable noFailures found stored unusable,
          Or.inr ⟨rfl, unusable⟩⟩

theorem reconcileCycle_reaches_desired_iff (dbPeers : List DbPeer)
    (node : Dict String NodeEntry) :
    DesiredReached dbPeers (reconcileCycle pruning noFailures dbPeers node).node ↔
      DriftVisible dbPeers node := by
  have writable : pruning.readOnly = false := rfl
  constructor
  · rintro ⟨reached, onlyDesired⟩
    constructor
    · intro key row entry found valid stored
      by_cases unusable : reportsUnusable entry
      · exact Or.inr unusable
      · obtain ⟨final, held, same⟩ := reached key row found valid
        rw [reconcileCycle_usable writable noFailures found stored unusable] at held
        cases held
        exact Or.inl same
    · intro unnamed
      have kept : (reconcileCycle pruning noFailures dbPeers node).node.get? "" =
          node.get? "" := reconcileCycle_kept writable noFailures rfl (Or.inl rfl)
      obtain ⟨entry, stored⟩ := (node.mem_keys_iff "").mp unnamed
      have desired := onlyDesired "" (Dict.mem_keys_of_get? (kept.trans stored))
      cases desired
  · rintro ⟨visible, named⟩
    constructor
    · intro key row found valid
      obtain ⟨entry, held, written | ⟨stored, usable⟩⟩ :=
        reconcileCycle_present writable node found valid
      · exact ⟨entry, held, written⟩
      · rcases visible key row entry found valid stored with same | unusable
        · exact ⟨entry, held, same⟩
        · exact absurd unusable usable
    · intro key present
      cases known : desiredRow dbPeers key with
      | some row => rfl
      | none =>
          obtain ⟨entry, held⟩ := (Dict.mem_keys_iff _ key).mp present
          by_cases unnamed : key = ""
          · rw [reconcileCycle_kept writable noFailures known (Or.inl unnamed), unnamed] at held
            exact absurd (Dict.mem_keys_of_get? held) named
          · rw [reconcileCycle_orphan writable noFailures known unnamed rfl] at held
            cases held

/-- A node that lost the addresses of one peer and holds a stale address for another. -/
def driftedNode : Dict String NodeEntry :=
  ⟨[("pkA", ⟨"(none)", none⟩), ("pkB", ⟨"10.8.1.9/32", none⟩)], by decide⟩

def twoRows : List DbPeer :=
  [⟨"pkA", some "10.8.1.2/32", none⟩, ⟨"pkB", some "10.8.1.3/32", none⟩]

/-- Neither drift is repaired: the cycle leaves both entries as they were. -/
theorem drift_not_repaired :
    (reconcileCycle pruning noFailures twoRows driftedNode).node = driftedNode ∧
      ¬ DesiredReached twoRows (reconcileCycle pruning noFailures twoRows driftedNode).node := by
  have unchanged : (reconcileCycle pruning noFailures twoRows driftedNode).node =
      driftedNode := by decide
  refine ⟨unchanged, ?_⟩
  rw [unchanged]
  intro reached
  obtain ⟨entry, held, same⟩ :=
    reached.1 "pkA" ⟨"pkA", some "10.8.1.2/32", none⟩ (by decide) (by decide)
  have stored : driftedNode.get? "pkA" = some ⟨"(none)", none⟩ := by decide
  rw [stored] at held
  cases held
  exact absurd same (by decide)

/-! ### Repeating a cycle -/

theorem usable_of_desired {row : DbPeer} {entry : NodeEntry}
    (valid : isValidServerAllowedIps row.allowedIps = true)
    (written : entry.allowedIps = desiredIps row) : ¬ reportsUnusable entry := by
  rw [← drifted_iff valid, written, desiredIps, strip_strip]
  simp [drifted]

theorem second_peersToAdd (settings : ReconciliationSettings)
    (writable : settings.readOnly = false) (dbPeers : List DbPeer)
    (node : Dict String NodeEntry) :
    (computeDiff dbPeers
      (listPeers (reconcileCycle settings noFailures dbPeers node).node)).peersToAdd = [] := by
  apply List.eq_nil_iff_forall_not_mem.mpr
  intro config member
  obtain ⟨key, row, found, absent, valid, _⟩ := mem_peersToAdd.mp member
  obtain ⟨entry, held, _⟩ := reconcileCycle_present writable node found valid
  exact absent (Dict.mem_keys_of_get? held)

theorem second_peersToUpdate (settings : ReconciliationSettings)
    (writable : settings.readOnly = false) (dbPeers : List DbPeer)
    (node : Dict String NodeEntry) :
    (computeDiff dbPeers
      (listPeers (reconcileCycle settings noFailures dbPeers node).node)).peersToUpdate = [] := by
  apply List.eq_nil_iff_forall_not_mem.mpr
  intro config member
  obtain ⟨key, row, entry, found, valid, held, unusable, _⟩ := mem_peersToUpdate.mp member
  obtain ⟨final, heldFinal, written | ⟨_, usable⟩⟩ :=
    reconcileCycle_present writable node found valid
  · rw [held, Option.some.injEq] at heldFinal
    rw [← heldFinal] at written
    exact usable_of_desired valid written unusable
  · rw [held, Option.some.injEq] at heldFinal
    rw [← heldFinal] at usable
    exact usable unusable

theorem second_peersToRemove_pruning (dbPeers : List DbPeer) (node : Dict String NodeEntry) :
    (computeDiff dbPeers
      (listPeers (reconcileCycle pruning noFailures dbPeers node).node)).peersToRemove = [] := by
  apply List.eq_nil_iff_forall_not_mem.mpr
  intro key member
  obtain ⟨named, present, unknown⟩ := mem_peersToRemove.mp member
  obtain ⟨entry, held⟩ := (Dict.mem_keys_iff _ key).mp present
  rw [reconcileCycle_orphan rfl noFailures unknown named rfl] at held
  cases held

/-- The named keys of the node that no row speaks for, in node order. -/
def orphans (dbPeers : List DbPeer) (node : Dict String NodeEntry) : List String :=
  node.keys.filter (fun key => key ≠ "" ∧ desiredRow dbPeers key = none)

theorem peersToRemove_eq_orphans (dbPeers : List DbPeer) (node : Dict String NodeEntry) :
    (computeDiff dbPeers (listPeers node)).peersToRemove = orphans dbPeers node := by
  simp only [computeDiff, wgMap_listPeers_keys, List.filter_filter, orphans]
  apply List.filter_congr
  intro key _
  have known := mem_dbMap_keys dbPeers key
  cases row : desiredRow dbPeers key <;> simp_all

theorem orphans_set {dbPeers : List DbPeer} {key : String} {row : DbPeer}
    (found : desiredRow dbPeers key = some row) (node : Dict String NodeEntry)
    (entry : NodeEntry) : orphans dbPeers (node.set key entry) = orphans dbPeers node := by
  unfold orphans
  rw [Dict.keys_set]
  split
  · rfl
  · simp [List.filter_append, found]

theorem orphans_erase {dbPeers : List DbPeer} {key : String} {row : DbPeer}
    (found : desiredRow dbPeers key = some row) (node : Dict String NodeEntry) :
    orphans dbPeers (node.erase key) = orphans dbPeers node := by
  unfold orphans
  rw [Dict.keys_erase, List.filter_filter]
  apply List.filter_congr
  intro other _
  by_cases same : other = key
  · simp [same, found]
  · simp [same]

theorem orphans_addMissing {dbPeers : List DbPeer} {peer : PeerConfigLike} {row : DbPeer}
    (found : desiredRow dbPeers peer.publicKey = some row) (raises : Failures)
    (state : Applied) :
    orphans dbPeers (addMissing raises state peer).node = orphans dbPeers state.node := by
  unfold addMissing
  cases raises (.addPeer peer) with
  | some message => rfl
  | none => exact orphans_set found state.node _

theorem orphans_reapply {dbPeers : List DbPeer} {peer : PeerConfigLike} {row : DbPeer}
    (found : desiredRow dbPeers peer.publicKey = some row) (raises : Failures)
    (state : Applied) :
    orphans dbPeers (reapply raises state peer).node = orphans dbPeers state.node := by
  unfold reapply
  cases raises (.removePeer peer.publicKey) with
  | some message => rfl
  | none =>
      cases raises (.addPeer peer) with
      | some message => exact orphans_erase found state.node
      | none => exact (orphans_set found _ _).trans (orphans_erase found state.node)

/-- With pruning off no pass adds, drops or reorders an orphan. -/
theorem orphans_reconcileCycle (raises : Failures) (dbPeers : List DbPeer)
    (node : Dict String NodeEntry) :
    orphans dbPeers (reconcileCycle sparing raises dbPeers node).node = orphans dbPeers node := by
  rw [reconcileCycle_eq rfl]
  refine (foldl_invariant (fun state : Applied => orphans dbPeers state.node)
    (reapply raises) _ ?_ _).trans ((foldl_invariant
      (fun state : Applied => orphans dbPeers state.node) (addMissing raises) _ ?_ _).trans rfl)
  · intro state peer member
    obtain ⟨row, _, found, _⟩ :=
      desired_of_mem_peersToUpdate (List.mem_map_of_mem member)
    exact orphans_reapply found raises state
  · intro state peer member
    obtain ⟨row, found, _⟩ := desired_of_mem_peersToAdd (List.mem_map_of_mem member)
    exact orphans_addMissing found raises state

/-- A cycle without failures leaves an empty diff and touches nothing outside its
lists; with pruning off the next diff is the same list of untouched orphans. -/
theorem reconcileCycle_fixpoint (dbPeers : List DbPeer) (node : Dict String NodeEntry) :
    computeDiff dbPeers (listPeers (reconcileCycle pruning noFailures dbPeers node).node) =
        ⟨[], [], []⟩ ∧
    (∀ key entry, node.get? key = some entry → (desiredRow dbPeers key).isSome = true →
      key ∉ (computeDiff dbPeers (listPeers node)).peersToAdd.map PeerConfigLike.publicKey →
      key ∉ (computeDiff dbPeers (listPeers node)).peersToRemove →
      key ∉ (computeDiff dbPeers (listPeers node)).peersToUpdate.map PeerConfigLike.publicKey →
      (reconcileCycle pruning noFailures dbPeers node).node.get? key = some entry) ∧
    computeDiff dbPeers (listPeers (reconcileCycle sparing noFailures dbPeers node).node) =
        ⟨[], (computeDiff dbPeers (listPeers node)).peersToRemove, []⟩ ∧
    ∀ key ∈ (computeDiff dbPeers (listPeers node)).peersToRemove,
      (reconcileCycle sparing noFailures dbPeers node).node.get? key = node.get? key := by
  refine ⟨?_, ?_, ?_, ?_⟩
  · have added := second_peersToAdd pruning rfl dbPeers node
    have removed := second_peersToRemove_pruning dbPeers node
    have updated := second_peersToUpdate pruning rfl dbPeers node
    exact ReconciliationDiff.ext added removed updated
  · intro key entry stored desired notAdded _ notUpdated
    obtain ⟨row, found⟩ := Option.isSome_iff_exists.mp desired
    rw [← stored]
    exact reconcileCycle_untouched rfl noFailures found notAdded notUpdated
  · have added := second_peersToAdd sparing rfl dbPeers node
    have removed := orphans_reconcileCycle noFailures dbPeers node
    rw [← peersToRemove_eq_orphans, ← peersToRemove_eq_orphans] at removed
    have updated := second_peersToUpdate sparing rfl dbPeers node
    exact ReconciliationDiff.ext added removed updated
  · intro key member
    exact reconcileCycle_kept rfl noFailures (mem_peersToRemove.mp member).2.2 (Or.inr rfl)

/-- The peer with the stale address is in no list and stays as it is. -/
theorem stale_address_untouched :
    (reconcileCycle pruning noFailures twoRows driftedNode).node.get? "pkB" =
      some ⟨"10.8.1.9/32", none⟩ :=
  (reconcileCycle_fixpoint twoRows driftedNode).2.1 "pkB" ⟨"10.8.1.9/32", none⟩
    (by decide) (by decide) (by decide) (by decide) (by decide)

/-! ### Failing calls -/

/-- A repair keeps its peer unless the removal succeeds and the addition fails. -/
theorem reappliedCell_some_iff (raises : Failures) (peer : PeerConfigLike) (entry : NodeEntry) :
    (∃ final, reappliedCell raises peer (some entry) = some final) ↔
      raises (.removePeer peer.publicKey) ≠ none ∨ raises (.addPeer peer) = none := by
  unfold reappliedCell addedCell
  cases raises (.removePeer peer.publicKey) with
  | some message => simp
  | none => cases raises (.addPeer peer) <;> simp

/-- A cycle keeps every desired peer of the node connected exactly when no repair
loses its peer between the two calls. -/
theorem reconcileCycle_keeps_desired_iff (removeOrphans : Bool) (raises : Failures)
    (dbPeers : List DbPeer) (node : Dict String NodeEntry) :
    (∀ key, (desiredRow dbPeers key).isSome = true → key ∈ node.keys →
      key ∈ (reconcileCycle ⟨false, removeOrphans⟩ raises dbPeers node).node.keys) ↔
    ∀ key row entry, desiredRow dbPeers key = some row →
      isValidServerAllowedIps row.allowedIps = true → node.get? key = some entry →
      reportsUnusable entry →
      raises (.removePeer key) ≠ none ∨
        raises (.addPeer (peerConfig key (normalizeRow row))) = none := by
  constructor
  · intro keeps key row entry found valid stored unusable
    have present := keeps key (by rw [found]; rfl) (Dict.mem_keys_of_get? stored)
    rw [Dict.mem_keys_iff, reconcileCycle_unusable rfl raises found valid stored unusable,
      reappliedCell_some_iff] at present
    exact present
  · intro repaired key desired present
    obtain ⟨row, found⟩ := Option.isSome_iff_exists.mp desired
    obtain ⟨entry, stored⟩ := (node.mem_keys_iff key).mp present
    rw [Dict.mem_keys_iff]
    cases valid : isValidServerAllowedIps row.allowedIps with
    | false => exact ⟨entry, (reconcileCycle_invalid rfl raises found valid).trans stored⟩
    | true =>
        by_cases unusable : reportsUnusable entry
        · rw [reconcileCycle_unusable rfl raises found valid stored unusable,
            reappliedCell_some_iff]
          exact repaired key row entry found valid stored unusable
        · exact ⟨entry, reconcileCycle_usable rfl raises found stored unusable⟩

/-- The node answers no `add_peer` call. -/
def addsFail : Failures
  | .addPeer _ => some "wg set failed"
  | .removePeer _ => none

/-- A desired peer without addresses is removed and does not come back. -/
theorem failed_repair_disconnects :
    let node : Dict String NodeEntry := ⟨[("pkA", ⟨"", none⟩)], by decide⟩
    (desiredRow twoRows "pkA").isSome = true ∧ "pkA" ∈ node.keys ∧
      "pkA" ∉ (reconcileCycle pruning addsFail twoRows node).node.keys := by
  decide

/-- When the removal fails as well, the peer stays. -/
theorem failed_removal_keeps_peer :
    let node : Dict String NodeEntry := ⟨[("pkA", ⟨"", none⟩)], by decide⟩
    "pkA" ∈ (reconcileCycle ⟨false, true⟩ (fun _ => some "node offline") twoRows node).node.keys :=
  (reconcileCycle_keeps_desired_iff true (fun _ => some "node offline") twoRows
    ⟨[("pkA", ⟨"", none⟩)], by decide⟩).mpr (fun _ _ _ _ _ _ _ => Or.inl (by simp))
    "pkA" (by decide) (by decide)

end VpnSuite.ControlPlane
