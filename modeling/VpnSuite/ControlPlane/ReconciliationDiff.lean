/-
What the three lists of a reconciliation diff hold.

A key of the database stands for its last row; a node reports the stripped form
of what it stores.  The lists are described once, in terms of rows and stored
entries, and have distinct keys that no two lists share.
-/

import VpnSuite.ControlPlane.ReconciliationEngine

set_option autoImplicit false

namespace VpnSuite.ControlPlane

open Foundations
open Foundations.PythonText

/-- The row that speaks for a key: the last one, and none for the empty key. -/
def desiredRow (dbPeers : List DbPeer) (key : String) : Option DbPeer :=
  if key = "" then none else dbPeers.reverse.find? (fun row => row.publicKey = key)

/-- The addresses a row asks for. -/
def desiredIps (row : DbPeer) : String := strip (orDefault row.allowedIps "")

/-- The node reports nothing or the full tunnel for a peer. -/
def reportsUnusable (entry : NodeEntry) : Prop :=
  strip entry.allowedIps = "" ∨ contains "0.0.0.0/0" (strip entry.allowedIps) = true

theorem desiredRow_named {dbPeers : List DbPeer} {key : String} {row : DbPeer}
    (found : desiredRow dbPeers key = some row) : key ≠ "" := by
  unfold desiredRow at found
  split at found
  · cases found
  · assumption

theorem valid_desiredIps (row : DbPeer) :
    isValidServerAllowedIps (some (desiredIps row)) = isValidServerAllowedIps row.allowedIps := by
  simp only [isValidServerAllowedIps, orDefault_empty, desiredIps, strip_strip]

/-! ### The two maps -/

theorem dbMap_get? (dbPeers : List DbPeer) (key : String) :
    (dbMap dbPeers).get? key = (desiredRow dbPeers key).map normalizeRow := by
  rw [dbMap, Dict.get?_ofList, ← List.map_reverse, Dict.lookup_map_find, ← List.filter_reverse,
    List.find?_filter, desiredRow]
  split
  · rename_i unnamed
    subst unnamed
    rw [List.find?_eq_none.mpr, Option.map_none]
    intro row _ both
    simp at both
  · rename_i named
    congr 2
    funext row
    by_cases same : row.publicKey = key
    · simp [same, named]
    · simp [same]

theorem wgItem_listedPeer (entry : String × NodeEntry) :
    wgItem (listedPeer entry) =
      if entry.1 = "" then none else some (entry.1, strip entry.2.allowedIps) := by
  have reported : peerAllowedIps (listedPeer entry) = strip entry.2.allowedIps :=
    congrArg strip (orDefault_empty entry.2.allowedIps)
  rw [wgItem, reported]
  rfl

theorem wgMap_listPeers_entries (node : Dict String NodeEntry) :
    (wgMap (listPeers node)).entries =
      (node.entries.filter (fun entry => entry.1 ≠ "")).map
        (fun entry => (entry.1, strip entry.2.allowedIps)) := by
  have listed : (listPeers node).filterMap wgItem =
      (node.entries.filter (fun entry => entry.1 ≠ "")).map
        (fun entry => (entry.1, strip entry.2.allowedIps)) := by
    unfold listPeers
    rw [List.filterMap_map]
    induction node.entries with
    | nil => rfl
    | cons entry rest ih =>
        rw [List.filterMap_cons, Function.comp_apply, wgItem_listedPeer, ih]
        by_cases unnamed : entry.1 = "" <;> simp [unnamed]
  rw [wgMap, listed]
  apply Dict.entries_ofList
  rw [List.map_map]
  exact node.distinct.sublist ((List.filter_sublist).map Prod.fst)

theorem wgMap_listPeers_keys (node : Dict String NodeEntry) :
    (wgMap (listPeers node)).keys = node.keys.filter (fun key => key ≠ "") := by
  unfold Dict.keys
  rw [wgMap_listPeers_entries, List.map_map, List.filter_map]
  rfl

theorem wgMap_listPeers_get? (node : Dict String NodeEntry) {key : String} (named : key ≠ "") :
    (wgMap (listPeers node)).get? key =
      (node.get? key).map (fun entry => strip entry.allowedIps) := by
  cases found : node.get? key with
  | none =>
      rw [Dict.get?_eq_none_iff] at found
      rw [Option.map_none, Dict.get?_eq_none_iff, wgMap_listPeers_keys]
      intro present
      exact found (List.mem_of_mem_filter present)
  | some entry =>
      rw [Option.map_some, ← Dict.mem_entries_iff, wgMap_listPeers_entries, List.mem_map]
      refine ⟨(key, entry), List.mem_filter.mpr ⟨?_, by simpa using named⟩, rfl⟩
      exact (node.mem_entries_iff key entry).mpr found

/-! ### The three lists -/

theorem mem_dbMap_entries {dbPeers : List DbPeer} {entry : String × (String × Option String)} :
    entry ∈ (dbMap dbPeers).entries ↔
      ∃ row, desiredRow dbPeers entry.1 = some row ∧ entry.2 = normalizeRow row := by
  obtain ⟨key, desired⟩ := entry
  rw [Dict.mem_entries_iff, dbMap_get?, Option.map_eq_some_iff]
  simp only [eq_comm]

theorem mem_dbMap_keys (dbPeers : List DbPeer) (key : String) :
    key ∈ (dbMap dbPeers).keys ↔ (desiredRow dbPeers key).isSome := by
  rw [Dict.mem_keys_iff, dbMap_get?]
  cases desiredRow dbPeers key <;> simp

/-- A valid row never equals an unusable report, so the comparison is idle there. -/
theorem drifted_iff {row : DbPeer} {entry : NodeEntry}
    (valid : isValidServerAllowedIps row.allowedIps = true) :
    drifted (desiredIps row) (strip entry.allowedIps) = true ↔ reportsUnusable entry := by
  simp only [isValidServerAllowedIps, Bool.and_eq_true, Bool.not_eq_true', decide_eq_true_eq]
    at valid
  obtain ⟨⟨nonempty, notFull⟩, _⟩ := valid
  simp only [drifted, Bool.and_eq_true, Bool.or_eq_true, decide_eq_true_eq, reportsUnusable]
  constructor
  · exact And.right
  · intro unusable
    refine ⟨?_, unusable⟩
    intro same
    rw [same] at unusable
    rcases unusable with blank | full
    · exact nonempty blank
    · rw [desiredIps, notFull] at full
      cases full

theorem mem_peersToAdd {dbPeers : List DbPeer} {node : Dict String NodeEntry}
    {config : Runtime.PeerConfigLike} :
    config ∈ (computeDiff dbPeers (listPeers node)).peersToAdd ↔
      ∃ key row, desiredRow dbPeers key = some row ∧ key ∉ node.keys ∧
        isValidServerAllowedIps row.allowedIps = true ∧
        config = peerConfig key (normalizeRow row) := by
  simp only [computeDiff, List.mem_map, List.mem_filter, mem_dbMap_entries, Bool.and_eq_true,
    decide_eq_true_eq, wgMap_listPeers_keys]
  constructor
  · rintro ⟨⟨key, desired⟩, ⟨⟨row, found, rfl⟩, absent, valid⟩, rfl⟩
    have named := desiredRow_named found
    refine ⟨key, row, found, ?_, (valid_desiredIps row).symm.trans valid, rfl⟩
    intro present
    exact absent ⟨present, named⟩
  · rintro ⟨key, row, found, absent, valid, rfl⟩
    refine ⟨(key, normalizeRow row), ⟨⟨row, found, rfl⟩, ?_, (valid_desiredIps row).trans valid⟩,
      rfl⟩
    exact fun present => absent present.1

theorem mem_peersToRemove {dbPeers : List DbPeer} {node : Dict String NodeEntry}
    {key : String} :
    key ∈ (computeDiff dbPeers (listPeers node)).peersToRemove ↔
      key ≠ "" ∧ key ∈ node.keys ∧ desiredRow dbPeers key = none := by
  simp only [computeDiff, List.mem_filter, mem_dbMap_keys, decide_eq_true_eq,
    wgMap_listPeers_keys, Bool.not_eq_true, Option.isSome_eq_false_iff, Option.isNone_iff_eq_none]
  constructor
  · rintro ⟨⟨present, named⟩, unknown⟩
    exact ⟨named, present, unknown⟩
  · rintro ⟨named, present, unknown⟩
    exact ⟨⟨present, named⟩, unknown⟩

theorem mem_peersToUpdate {dbPeers : List DbPeer} {node : Dict String NodeEntry}
    {config : Runtime.PeerConfigLike} :
    config ∈ (computeDiff dbPeers (listPeers node)).peersToUpdate ↔
      ∃ key row entry, desiredRow dbPeers key = some row ∧
        isValidServerAllowedIps row.allowedIps = true ∧ node.get? key = some entry ∧
        reportsUnusable entry ∧ config = peerConfig key (normalizeRow row) := by
  simp only [computeDiff, List.mem_map, List.mem_filter, mem_dbMap_entries, Bool.and_eq_true]
  constructor
  · rintro ⟨⟨key, desired⟩, ⟨⟨row, found, rfl⟩, valid, drift⟩, rfl⟩
    have validRow := (valid_desiredIps row).symm.trans valid
    rw [wgMap_listPeers_get? node (desiredRow_named found)] at drift
    cases stored : node.get? key with
    | none =>
        rw [stored] at drift
        cases drift
    | some entry =>
        rw [stored] at drift
        exact ⟨key, row, entry, found, validRow, stored, (drifted_iff validRow).mp drift, rfl⟩
  · rintro ⟨key, row, entry, found, valid, stored, unusable, rfl⟩
    refine ⟨(key, normalizeRow row), ⟨⟨row, found, rfl⟩, (valid_desiredIps row).trans valid, ?_⟩,
      rfl⟩
    rw [wgMap_listPeers_get? node (desiredRow_named found), stored]
    exact (drifted_iff valid).mpr unusable

/-! ### Distinct keys -/

private theorem configs_nodup {entries : List (String × (String × Option String))}
    (distinct : (entries.map Prod.fst).Nodup) (keep : String × (String × Option String) → Bool) :
    (((entries.filter keep).map (fun entry => peerConfig entry.1 entry.2)).map
      Runtime.PeerConfigLike.publicKey).Nodup := by
  rw [List.map_map]
  exact distinct.sublist ((List.filter_sublist).map Prod.fst)

theorem peersToAdd_nodup (dbPeers : List DbPeer) (wgPeers : List WgPeer) :
    ((computeDiff dbPeers wgPeers).peersToAdd.map Runtime.PeerConfigLike.publicKey).Nodup :=
  configs_nodup (dbMap dbPeers).distinct _

theorem peersToUpdate_nodup (dbPeers : List DbPeer) (wgPeers : List WgPeer) :
    ((computeDiff dbPeers wgPeers).peersToUpdate.map Runtime.PeerConfigLike.publicKey).Nodup :=
  configs_nodup (dbMap dbPeers).distinct _

theorem peersToRemove_nodup (dbPeers : List DbPeer) (wgPeers : List WgPeer) :
    (computeDiff dbPeers wgPeers).peersToRemove.Nodup :=
  (wgMap wgPeers).keys_nodup.sublist List.filter_sublist

end VpnSuite.ControlPlane
