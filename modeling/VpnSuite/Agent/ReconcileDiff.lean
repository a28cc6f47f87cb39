/-
What the maps and the three diff lists of a reconcile pass hold.

The desired map answers with the last object of each key, and the add, update
and remove lists are duplicate-free and pairwise disjoint.  Both the safety and
the convergence results rest on these facts alone.
-/

import VpnSuite.Agent.ReconcileModel
import VpnSuite.Foundations.CheckedPasses

set_option autoImplicit false

namespace VpnSuite.Agent

open Foundations
open Foundations.PythonText

/-! ### Sanitised names -/

theorem sanitize_eq_ok {accepts : String → Bool} {error : ReconcileError} {text result : String}
    (accepted : sanitize accepts error text = .ok result) :
    result = strip text ∧ accepts result = true := by
  unfold sanitize at accepted
  split at accepted
  · rename_i matched
    cases accepted
    exact ⟨rfl, matched⟩
  · cases accepted

theorem sanitizePubkey_fixed {text key : String} (accepted : sanitizePubkey text = .ok key) :
    sanitizePubkey key = .ok key := by
  obtain ⟨same, matched⟩ := sanitize_eq_ok accepted
  have stripped : strip key = key := by
    rw [same, strip_strip]
  rw [sanitizePubkey, sanitize, stripped, if_pos matched]

theorem sanitizePubkey_nonempty {key : String} (accepted : sanitizePubkey key = .ok key) :
    key ≠ "" := by
  intro missing
  subst missing
  revert accepted
  decide

/-! ### The desired map -/

/-- The spec of the last desired object filed under a key. -/
def lastDesired (desired : List DesiredPeer) (key : String) : Option PeerSpec :=
  (desired.reverse.find? (fun peer => desiredKey peer = .ok key)).map desiredSpec

theorem desiredPair_eq_ok {peer : DesiredPeer} {pair : String × PeerSpec}
    (filed : desiredPair peer = .ok pair) :
    desiredKey peer = .ok pair.1 ∧ pair.2 = desiredSpec peer := by
  unfold desiredPair at filed
  cases keyed : desiredKey peer with
  | error error =>
      rw [keyed] at filed
      cases filed
  | ok key =>
      rw [keyed] at filed
      cases filed
      exact ⟨rfl, rfl⟩

theorem mapM_desiredPair_ok (desired : List DesiredPeer)
    (keyed : ∀ peer ∈ desired, ∃ key, desiredKey peer = .ok key) :
    ∃ pairs, desired.mapM desiredPair = .ok pairs ∧
      List.Forall₂ (fun peer pair => desiredPair peer = .ok pair) desired pairs := by
  have reads : ∀ peer ∈ desired, ∃ pair, desiredPair peer = .ok pair := by
    intro peer member
    obtain ⟨key, isKeyed⟩ := keyed peer member
    refine ⟨(key, desiredSpec peer), ?_⟩
    rw [desiredPair, isKeyed]
    rfl
  obtain ⟨pairs, mapped⟩ := exists_mapM_ok reads
  exact ⟨pairs, mapped, mapM_eq_ok_iff.mp mapped⟩

private theorem lookup_reverse_pairs {desired : List DesiredPeer}
    {pairs : List (String × PeerSpec)}
    (related : List.Forall₂ (fun peer pair => desiredPair peer = .ok pair) desired pairs)
    (key : String) : pairs.reverse.lookup key = lastDesired desired key := by
  unfold lastDesired
  induction related with
  | nil => rfl
  | @cons peer pair desired pairs filed _related ih =>
      obtain ⟨keyed, stored⟩ := desiredPair_eq_ok filed
      rw [List.reverse_cons, List.lookup_append, ih, List.reverse_cons, List.find?_append]
      cases later : desired.reverse.find? (fun peer => desiredKey peer = .ok key) with
      | some found => rfl
      | none =>
          rw [Dict.lookup_cons_eq, List.lookup_nil, List.find?_singleton, keyed]
          by_cases same : key = pair.1
          · simp [same, stored]
          · have different : ¬ pair.1 = key := fun equal => same equal.symm
            simp [same, different]

/-- Well-formed keys are enough for the desired map to exist, and it holds the
last spec of each key. -/
theorem desiredMap_ok (desired : List DesiredPeer)
    (keyed : ∀ peer ∈ desired, ∃ key, desiredKey peer = .ok key) :
    ∃ filed, desiredMap desired = .ok filed ∧
      (∀ key, filed.get? key = lastDesired desired key) ∧
      (filed.keys = [] ↔ desired = []) := by
  obtain ⟨pairs, mapped, related⟩ := mapM_desiredPair_ok desired keyed
  refine ⟨Dict.ofList pairs, ?_, ?_, ?_⟩
  · rw [desiredMap, mapped]
    rfl
  · intro key
    rw [Dict.get?_ofList, lookup_reverse_pairs related]
  · rw [Dict.ofList_eq_empty_iff]
    cases related with
    | nil => simp
    | cons _head _tail => simp

theorem sanitizePubkey_of_lastDesired {desired : List DesiredPeer} {key : String}
    {spec : PeerSpec} (found : lastDesired desired key = some spec) :
    sanitizePubkey key = .ok key := by
  unfold lastDesired at found
  obtain ⟨peer, selected, _spec⟩ := Option.map_eq_some_iff.mp found
  have keyed : desiredKey peer = .ok key := by
    simpa using List.find?_some selected
  exact sanitizePubkey_fixed keyed

theorem mem_of_lastDesired {desired : List DesiredPeer} {key : String} {spec : PeerSpec}
    (found : lastDesired desired key = some spec) :
    ∃ peer ∈ desired, desiredSpec peer = spec := by
  unfold lastDesired at found
  obtain ⟨peer, selected, stored⟩ := Option.map_eq_some_iff.mp found
  exact ⟨peer, List.mem_reverse.mp (List.mem_of_find?_eq_some selected), stored⟩

theorem strip_allowedIps_of_lastDesired {desired : List DesiredPeer} {key : String}
    {spec : PeerSpec} (found : lastDesired desired key = some spec) :
    strip spec.allowedIps = spec.allowedIps := by
  obtain ⟨peer, _member, stored⟩ := mem_of_lastDesired found
  rw [← stored, desiredSpec, strip_strip]

/-! ### The runtime map -/

theorem mem_keys_runtimeMap (runtime : List Peer) (key : String) :
    key ∈ (runtimeMap runtime).keys ↔ key ≠ "" ∧ ∃ peer ∈ runtime, peer.publicKey = key := by
  rw [runtimeMap, Dict.mem_keys_ofList, List.map_map]
  constructor
  · intro present
    obtain ⟨peer, member, atKey⟩ := List.mem_map.mp present
    obtain ⟨listed, nonempty⟩ := List.mem_filter.mp member
    have atKey : peer.publicKey = key := atKey
    refine ⟨?_, peer, listed, atKey⟩
    rw [← atKey]
    simpa using nonempty
  · rintro ⟨nonempty, peer, listed, atKey⟩
    refine List.mem_map.mpr ⟨peer, List.mem_filter.mpr ⟨listed, ?_⟩, atKey⟩
    rw [atKey]
    simpa using nonempty

/-! ### The three lists -/

section Lists

variable (desired : Dict String PeerSpec) (runtime : Dict String Peer)

theorem mem_toAdd (key : String) :
    key ∈ toAdd desired runtime ↔ key ∈ desired.keys ∧ key ∉ runtime.keys := by
  rw [toAdd, List.mem_filter, decide_eq_true_eq]

theorem mem_toRemove (key : String) :
    key ∈ toRemove desired runtime ↔ key ∈ runtime.keys ∧ key ∉ desired.keys := by
  rw [toRemove, List.mem_filter, decide_eq_true_eq]

theorem mem_toUpdate (key : String) :
    key ∈ toUpdate desired runtime ↔
      ∃ spec peer, desired.get? key = some spec ∧ runtime.get? key = some peer ∧
        needsUpdate spec peer = true := by
  rw [toUpdate, List.mem_map]
  constructor
  · rintro ⟨⟨filed, spec⟩, member, atKey⟩
    obtain ⟨listed, selected⟩ := List.mem_filter.mp member
    have atKey : filed = key := atKey
    subst atKey
    cases found : runtime.get? filed with
    | none =>
        rw [found] at selected
        cases selected
    | some peer =>
        rw [found] at selected
        exact ⟨spec, peer, (Dict.mem_entries_iff desired filed spec).mp listed, rfl, selected⟩
  · rintro ⟨spec, peer, filed, found, selected⟩
    refine ⟨(key, spec), List.mem_filter.mpr ⟨?_, ?_⟩, rfl⟩
    · exact (Dict.mem_entries_iff desired key spec).mpr filed
    · simpa only [found] using selected

theorem toUpdate_present {key : String} (member : key ∈ toUpdate desired runtime) :
    key ∈ desired.keys ∧ key ∈ runtime.keys := by
  obtain ⟨spec, peer, filed, found, _selected⟩ := (mem_toUpdate desired runtime key).mp member
  exact ⟨Dict.mem_keys_of_get? filed, Dict.mem_keys_of_get? found⟩

/-- The keys a pass may touch, in the order in which its loops visit them. -/
def plan : List String :=
  toAdd desired runtime ++ (toUpdate desired runtime ++ toRemove desired runtime)

theorem plan_nodup : (plan desired runtime).Nodup := by
  have adds : (toAdd desired runtime).Nodup := desired.keys_nodup.filter _
  have updates : (toUpdate desired runtime).Nodup :=
    desired.distinct.sublist ((List.filter_sublist).map Prod.fst)
  have removes : (toRemove desired runtime).Nodup := runtime.keys_nodup.filter _
  refine List.nodup_append.mpr ⟨adds, List.nodup_append.mpr ⟨updates, removes, ?_⟩, ?_⟩
  · intro left inUpdates right inRemoves equal
    subst equal
    exact ((mem_toRemove desired runtime left).mp inRemoves).2
      (toUpdate_present desired runtime inUpdates).1
  · intro left inAdds right later equal
    subst equal
    have missing := ((mem_toAdd desired runtime left).mp inAdds).2
    rcases List.mem_append.mp later with inUpdates | inRemoves
    · exact missing (toUpdate_present desired runtime inUpdates).2
    · exact missing ((mem_toRemove desired runtime left).mp inRemoves).1

end Lists

end VpnSuite.Agent
