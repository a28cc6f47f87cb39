/-
Repeated reconcile cycles against a node that carries out every command.

The node is a finite map from well-formed public keys to the allowed-ips text
its dump shows.  A cycle reads the dump, runs one pass with every command
succeeding and leaves the changed node for the next cycle.  The pending keys of
a node are the keys of the three diff lists; a cycle settles the first ones.

A key whose spec carries a preshared key is never settled, because the dump
record the agent keeps does not show preshared keys.
-/

import Mathlib.Order.Lattice
import VpnSuite.Agent.ReconcileSafety
import VpnSuite.Foundations.BudgetedProgress

set_option autoImplicit false

namespace VpnSuite.Agent

open Foundations
open Foundations.PythonText

/-! ### The node -/

/-- Peers of one interface: public key to the allowed-ips column of the dump. -/
structure Node where
  peers : Dict String String
  wellFormed : ∀ key ∈ peers.keys, sanitizePubkey key = .ok key
  stripped : ∀ key ips, peers.get? key = some ips → strip ips = ips

def Node.dump (node : Node) : List Peer :=
  node.peers.entries.map (fun entry => ⟨entry.1, entry.2⟩)

/-- `set <iface> peer`: adds or overwrites.  `report` is the text the dump shows
for the given allowed-ips argument; a malformed key is refused. -/
def Node.setPeer (report : String → String) (node : Node) (key ips : String) : Node :=
  if accepted : sanitizePubkey key = .ok key then
    { peers := node.peers.set key (strip (report ips))
      wellFormed := by
        intro other present
        rcases (Dict.mem_keys_set node.peers key other _).mp present with same | old
        · rw [same]
          exact accepted
        · exact node.wellFormed other old
      stripped := by
        intro other shown found
        rw [Dict.get?_set] at found
        split at found
        · cases found
          exact strip_strip _
        · exact node.stripped other shown found }
  else node

def Node.removePeer (node : Node) (key : String) : Node :=
  { peers := node.peers.erase key
    wellFormed := by
      intro other present
      exact node.wellFormed other ((Dict.mem_keys_erase node.peers key other).mp present).2
    stripped := by
      intro other shown found
      rw [Dict.get?_erase] at found
      split at found
      · cases found
      · exact node.stripped other shown found }

def Node.execute (report : String → String) (node : Node) : Command → Node
  | .setPeer key spec => node.setPeer report key spec.allowedIps
  | .removePeer key => node.removePeer key
  | .save => node

/-- Only a command that exits with zero has an effect. -/
def Node.run (report : String → String) (node : Node) (issued : Issued) : Node :=
  if issued.exitCode = 0 then node.execute report issued.command else node

/-! ### Cycles -/

/-- The part of a call that stays the same from cycle to cycle. -/
structure Setup where
  container : String
  iface : String
  allowPruneEmptyDesired : String
  containerOk : ∃ name, sanitizeContainer container = .ok name
  ifaceOk : ∃ name, sanitizeIface iface = .ok name

/-- The call made with the dump of the given node, with writing enabled. -/
def Setup.call (setup : Setup) (desired : List DesiredPeer) (budget : Nat) (node : Node) :
    ReconcileCall :=
  { container := setup.container
    iface := setup.iface
    desired := desired
    runtime := node.dump
    maxMutations := budget
    readOnly := false
    allowPruneEmptyDesired := setup.allowPruneEmptyDesired }

/-- One cycle with every command succeeding. -/
def Setup.cycle (setup : Setup) (report : String → String) (desired : List DesiredPeer)
    (budget : Nat) (node : Node) : Node :=
  (reconcile (setup.call desired budget node) (fun _ => 0)).issued.foldl (Node.run report) node

/-- The desired map, with no entry when some key is malformed. -/
def filedMap (desired : List DesiredPeer) : Dict String PeerSpec :=
  match desiredMap desired with
  | .ok filed => filed
  | .error _ => Dict.empty

def pendingKeys (desired : List DesiredPeer) (node : Node) : List String :=
  plan (filedMap desired) (runtimeMap node.dump)

/-- `|to_add| + |to_update| + |to_remove|` against the dump of a node. -/
def pending (desired : List DesiredPeer) (node : Node) : Nat :=
  (toAdd (filedMap desired) (runtimeMap node.dump)).length +
    (toUpdate (filedMap desired) (runtimeMap node.dump)).length +
    (toRemove (filedMap desired) (runtimeMap node.dump)).length

theorem pending_eq_length (desired : List DesiredPeer) (node : Node) :
    pending desired node = (pendingKeys desired node).length := by
  rw [pendingKeys, plan, List.length_append, List.length_append, pending, Nat.add_assoc]

/-! ### Reading a dump back -/

theorem get?_runtimeMap_dump (node : Node) (key : String) :
    (runtimeMap node.dump).get? key = (node.peers.get? key).map (fun ips => ⟨key, ips⟩) := by
  have presence : key ∈ (runtimeMap node.dump).keys ↔ key ∈ node.peers.keys := by
    rw [mem_keys_runtimeMap]
    constructor
    · rintro ⟨_nonempty, peer, listed, atKey⟩
      obtain ⟨entry, member, shown⟩ := List.mem_map.mp listed
      rw [← atKey, ← shown]
      exact List.mem_map_of_mem member
    · intro present
      obtain ⟨entry, member, atKey⟩ := List.mem_map.mp present
      refine ⟨sanitizePubkey_nonempty (node.wellFormed key present), ⟨entry.1, entry.2⟩, ?_, atKey⟩
      exact List.mem_map.mpr ⟨entry, member, rfl⟩
  cases found : node.peers.get? key with
  | none =>
      rw [Dict.get?_eq_none_iff, ← presence, ← Dict.get?_eq_none_iff] at found
      rw [found]
      rfl
  | some ips =>
      obtain ⟨peer, stored⟩ := (Dict.mem_keys_iff _ _).mp
        (presence.mpr (Dict.mem_keys_of_get? found))
      rw [stored, Option.map_some, Option.some.injEq]
      -- the stored peer is one of the listed peers, and a listed peer is an entry of the node
      rw [runtimeMap, Dict.get?_ofList] at stored
      obtain ⟨before, after, split, _earlier⟩ := List.lookup_eq_some_iff.mp stored
      have listed : (key, peer) ∈ (node.dump.filter (fun peer => peer.publicKey ≠ "")).map
          (fun peer => (peer.publicKey, peer)) := by
        rw [← List.mem_reverse, split]
        simp
      obtain ⟨shown, member, pairEq⟩ := List.mem_map.mp listed
      obtain ⟨entry, inNode, dumped⟩ := List.mem_map.mp (List.mem_filter.mp member).1
      obtain ⟨keyEq, peerEq⟩ := Prod.mk.inj pairEq
      rw [← dumped] at keyEq peerEq
      have entryKey : entry.1 = key := keyEq
      have entryFound : node.peers.get? entry.1 = some entry.2 :=
        (Dict.mem_entries_iff node.peers entry.1 entry.2).mp inNode
      rw [entryKey, found, Option.some.injEq] at entryFound
      rw [← peerEq, entryKey, entryFound]

theorem mem_keys_runtimeMap_dump (node : Node) (key : String) :
    key ∈ (runtimeMap node.dump).keys ↔ key ∈ node.peers.keys := by
  rw [Dict.mem_keys_iff, Dict.mem_keys_iff, get?_runtimeMap_dump]
  cases node.peers.get? key <;> simp

/-! ### Which keys are pending -/

def unsettled : Option PeerSpec → Option Peer → Bool
  | some spec, some peer => needsUpdate spec peer
  | some _, none => true
  | none, some _ => true
  | none, none => false

theorem mem_plan (desired : Dict String PeerSpec) (runtime : Dict String Peer) (key : String) :
    key ∈ plan desired runtime ↔ unsettled (desired.get? key) (runtime.get? key) = true := by
  rw [plan, List.mem_append, List.mem_append, mem_toAdd, mem_toRemove, mem_toUpdate,
    ← Dict.get?_eq_none_iff, ← Dict.get?_eq_none_iff, Dict.mem_keys_iff, Dict.mem_keys_iff]
  cases desired.get? key <;> cases runtime.get? key <;> simp [unsettled]

theorem pendingKeys_nodup (desired : List DesiredPeer) (node : Node) :
    (pendingKeys desired node).Nodup :=
  plan_nodup _ _

theorem mem_pendingKeys (desired : List DesiredPeer) (node : Node) (key : String) :
    key ∈ pendingKeys desired node ↔
      unsettled ((filedMap desired).get? key)
        ((node.peers.get? key).map (fun ips => ⟨key, ips⟩)) = true := by
  rw [pendingKeys, mem_plan, get?_runtimeMap_dump]

/-! ### The effect of a trace on the node -/

section Trace

variable (report : String → String)

theorem get?_execute_other (node : Node) (command : Command) (key : String)
    (untouched : command.target ≠ some key) :
    (node.execute report command).peers.get? key = node.peers.get? key := by
  cases command with
  | setPeer target spec =>
      have different : ¬ key = target := fun same => untouched (by rw [same]; rfl)
      rw [Node.execute, Node.setPeer]
      split
      · rw [Dict.get?_set, if_neg different]
      · rfl
  | removePeer target =>
      have different : ¬ key = target := fun same => untouched (by rw [same]; rfl)
      rw [Node.execute, Node.removePeer, Dict.get?_erase, if_neg different]
  | save => rfl

theorem get?_foldl_run_other (trace : List Issued) (node : Node) (key : String)
    (untouched : key ∉ targets trace) :
    (trace.foldl (Node.run report) node).peers.get? key = node.peers.get? key := by
  induction trace generalizing node with
  | nil => rfl
  | cons issued rest ih =>
      have headOther : issued.command.target ≠ some key := by
        intro hits
        exact untouched (List.mem_filterMap.mpr ⟨issued, List.mem_cons_self .., hits⟩)
      have restOther : key ∉ targets rest := by
        intro hits
        obtain ⟨entry, member, atKey⟩ := List.mem_filterMap.mp hits
        exact untouched (List.mem_filterMap.mpr ⟨entry, List.mem_cons_of_mem issued member, atKey⟩)
      rw [List.foldl_cons, ih _ restOther, Node.run]
      split
      · exact get?_execute_other report node issued.command key headOther
      · rfl

/-- In a trace that targets each key once, the one command that targets a key
decides what the node holds under it. -/
theorem get?_foldl_run_target (trace : List Issued) (node : Node) (issued : Issued)
    (member : issued ∈ trace) (succeeded : issued.exitCode = 0)
    (distinct : (targets trace).Nodup) (key : String)
    (hits : issued.command.target = some key) (value : Option String)
    (effect : ∀ before : Node, (before.execute report issued.command).peers.get? key = value) :
    (trace.foldl (Node.run report) node).peers.get? key = value := by
  induction trace generalizing node with
  | nil => cases member
  | cons head rest ih =>
      rw [List.foldl_cons]
      rcases List.mem_cons.mp member with atHead | inRest
      · subst atHead
        have restOther : key ∉ targets rest := by
          have headFirst : targets (issued :: rest) = key :: targets rest := by
            rw [targets, List.filterMap_cons, hits]
            rfl
          rw [headFirst, List.nodup_cons] at distinct
          exact distinct.1
        rw [get?_foldl_run_other report rest _ key restOther, Node.run, if_pos succeeded]
        exact effect node
      · apply ih _ inRest
        exact distinct.sublist ((List.sublist_cons_self head rest).filterMap _)

theorem foldl_run_saved {saved : List Issued} (onlySave : ∀ entry ∈ saved, entry.command = .save)
    (node : Node) : saved.foldl (Node.run report) node = node := by
  induction saved with
  | nil => rfl
  | cons entry rest ih =>
      have headIdle : Node.run report node entry = node := by
        rw [Node.run, onlySave entry (List.mem_cons_self ..)]
        split <;> rfl
      rw [List.foldl_cons, headIdle]
      exact ih (fun later member => onlySave later (List.mem_cons_of_mem entry member))

end Trace

/-- When every command succeeds, a pass is charged for each command it issued and
visits the first keys of its plan, as many as the budget allows. -/
theorem PassRun.visited_of_success {filed : Dict String PeerSpec} {runtime : Dict String Peer}
    {budget : Nat} {outcome : Outcome} {adds updates removes : List Issued}
    {usedAdds usedUpdates usedRemoves : List String}
    (run : PassRun (fun _ => 0) filed runtime budget outcome adds updates removes usedAdds
      usedUpdates usedRemoves) :
    successes adds + (successes updates + successes removes) =
        (adds ++ (updates ++ removes)).length ∧
      usedAdds ++ (usedUpdates ++ usedRemoves) = (plan filed runtime).take budget := by
  have charged : successes adds + (successes updates + successes removes) =
      (adds ++ (updates ++ removes)).length := by
    have all : successes (adds ++ (updates ++ removes)) =
        (adds ++ (updates ++ removes)).length := by
      apply List.countP_eq_length.mpr
      intro issued member
      obtain ⟨_position, code⟩ := run.codes issued member
      simp [code]
    rw [← all]
    simp only [successes, List.countP_append]
  have usedLength : (usedAdds ++ (usedUpdates ++ usedRemoves)).length =
      (adds ++ (updates ++ removes)).length := by
    simp only [List.length_append, run.addCommands.length_eq, run.updateCommands.length_eq,
      run.removeCommands.length_eq]
  have withinBudget := run.withinBudget
  refine ⟨charged, ?_⟩
  rcases run.exhausted with complete | spent
  · rw [complete, List.take_of_length_le]
    rw [← complete, usedLength, ← charged]
    exact withinBudget
  · rw [← spent, charged, ← usedLength]
    exact List.prefix_iff_eq_take.mp run.inOrder

/-! ### One cycle -/

section Cycle

variable (setup : Setup) (report : String → String) {desired : List DesiredPeer}
  (keyed : ∀ peer ∈ desired, ∃ key, desiredKey peer = .ok key) (nonempty : desired ≠ [])
  (budget : Nat)

include keyed

theorem get?_filedMap (key : String) :
    (filedMap desired).get? key = lastDesired desired key := by
  obtain ⟨filed, mapped, lookups, _emptiness⟩ := desiredMap_ok desired keyed
  rw [filedMap, mapped]
  exact lookups key

theorem Setup.call_wellFormed (node : Node) :
    WellFormedCall (setup.call desired budget node) :=
  { container := setup.containerOk
    iface := setup.ifaceOk
    desired := keyed
    runtime := by
      intro peer listed
      obtain ⟨entry, member, shown⟩ := List.mem_map.mp listed
      rw [← shown]
      exact node.wellFormed entry.1 (List.mem_map_of_mem member) }

include nonempty

omit keyed in
theorem Setup.call_unguarded (node : Node) : ¬ Guarded (setup.call desired budget node) := by
  rintro (readOnly | ⟨noDesired, _, _⟩)
  · cases readOnly
  · exact nonempty noDesired

/-- With every command succeeding a pass visits exactly the first `budget`
pending keys. -/
theorem Setup.pass_of_success (node : Node) :
    ∃ (trace : List Issued) (counts : Counts),
      reconcile (setup.call desired budget node) (fun _ => 0) =
        finish (fun _ => 0) trace counts ∧
      counts.total = trace.length ∧
      targets trace = (pendingKeys desired node).take budget ∧
      (∀ issued ∈ trace, issued.exitCode = 0 ∧
        Justified (setup.call desired budget node) issued.command) := by
  have wellFormed := setup.call_wellFormed keyed budget node
  obtain ⟨filed, mapped, lookups, applied⟩ := reconcile_of_not_guarded wellFormed (fun _ => 0)
    (setup.call_unguarded nonempty budget node)
  obtain ⟨adds, updates, removes, usedAdds, usedUpdates, usedRemoves, run⟩ :=
    applyMutations_run (fun _ => 0) filed
      (runtimeMap (setup.call desired budget node).runtime)
      (setup.call desired budget node).maxMutations.toNat (runtimeMap_keys_fixed wellFormed)
  obtain ⟨charged, visited⟩ := run.visited_of_success
  have sameFiled : filedMap desired = filed := by
    have mappedHere : desiredMap desired = .ok filed := mapped
    rw [filedMap, mappedHere]
  have planEq : plan filed (runtimeMap (setup.call desired budget node).runtime) =
      pendingKeys desired node := by
    rw [pendingKeys, sameFiled]
    rfl
  rw [planEq] at visited
  refine ⟨adds ++ (updates ++ removes), _, applied.trans run.outcome_eq, ?_,
    (run.targets_eq wellFormed).trans visited, ?_⟩
  · change successes adds + successes removes + successes updates = _
    omega
  · intro issued member
    obtain ⟨_position, code⟩ := run.codes issued member
    exact ⟨code, (run.mem_batches wellFormed lookups member).1⟩

/-- A pass planned on the dump of one node may be run on another. -/
theorem Setup.get?_pass (seen node : Node) (key : String) :
    ((reconcile (setup.call desired budget seen) (fun _ => 0)).issued.foldl (Node.run report)
        node).peers.get? key =
      if key ∈ (pendingKeys desired seen).take budget then
        (lastDesired desired key).map (fun spec => strip (report spec.allowedIps))
      else node.peers.get? key := by
  obtain ⟨trace, counts, passed, _total, targetsEq, justified⟩ :=
    setup.pass_of_success keyed nonempty budget seen
  obtain ⟨saved, issuedEq, onlySave, _savedIff⟩ := finish_issued (fun _ => 0) trace counts
  have distinct : (targets trace).Nodup := by
    rw [targetsEq]
    exact (pendingKeys_nodup desired seen).sublist (List.take_sublist budget _)
  rw [passed, issuedEq, List.foldl_append, foldl_run_saved report onlySave, ← targetsEq]
  split
  · rename_i touched
    obtain ⟨issued, member, hits⟩ := List.mem_filterMap.mp touched
    obtain ⟨succeeded, wanted⟩ := justified issued member
    refine get?_foldl_run_target report trace node issued member succeeded distinct key hits _ ?_
    intro before
    cases command : issued.command with
    | save =>
        rw [command] at hits
        cases hits
    | setPeer target spec =>
        rw [command] at hits wanted
        cases hits
        have found : lastDesired desired key = some spec := wanted
        rw [found, Node.execute, Node.setPeer,
          dif_pos (sanitizePubkey_of_lastDesired found), Dict.get?_set, if_pos rfl]
        rfl
    | removePeer target =>
        rw [command] at hits wanted
        cases hits
        have undesired : lastDesired desired key = none := wanted.2
        rw [undesired, Node.execute, Node.removePeer, Dict.get?_erase, if_pos rfl]
        rfl
  · rename_i untouched
    exact get?_foldl_run_other report trace node key untouched

theorem Setup.get?_cycle (node : Node) (key : String) :
    (setup.cycle report desired budget node).peers.get? key =
      if key ∈ (pendingKeys desired node).take budget then
        (lastDesired desired key).map (fun spec => strip (report spec.allowedIps))
      else node.peers.get? key :=
  setup.get?_pass report keyed nonempty budget node node key

/-- A key that is pending again right after it has been set. -/
def sticky (report : String → String) (desired : List DesiredPeer) (key : String) : Bool :=
  match lastDesired desired key with
  | some spec => needsUpdate spec ⟨key, strip (report spec.allowedIps)⟩
  | none => false

theorem Setup.mem_pendingKeys_cycle (node : Node) (key : String) :
    key ∈ pendingKeys desired (setup.cycle report desired budget node) ↔
      key ∈ (pendingKeys desired node).drop budget ∨
        (key ∈ (pendingKeys desired node).take budget ∧ sticky report desired key = true) := by
  have parts := List.take_append_drop budget (pendingKeys desired node)
  have distinct := pendingKeys_nodup desired node
  rw [mem_pendingKeys, get?_filedMap keyed, setup.get?_cycle report keyed nonempty]
  by_cases visited : key ∈ (pendingKeys desired node).take budget
  · have notLater : key ∉ (pendingKeys desired node).drop budget := by
      rw [← parts, List.nodup_append] at distinct
      exact fun later => distinct.2.2 key visited key later rfl
    rw [if_pos visited]
    simp only [notLater, visited, false_or, true_and, sticky]
    cases lastDesired desired key <;> simp [unsettled]
  · have unchanged : key ∈ pendingKeys desired node ↔
        key ∈ (pendingKeys desired node).drop budget := by
      conv_lhs => rw [← parts]
      rw [List.mem_append]
      exact or_iff_right visited
    rw [if_neg visited, ← get?_filedMap keyed key, ← mem_pendingKeys, unchanged]
    simp only [visited, false_and, or_false]

end Cycle

/-! ### Progress -/

/-- Sticky keys cost their share of the budget in every cycle and no more: what
remains of the budget goes to the work that can be settled. -/
theorem Setup.settleable_iterate_le (setup : Setup) (report : String → String)
    {desired : List DesiredPeer} (keyed : ∀ peer ∈ desired, ∃ key, desiredKey peer = .ok key)
    (nonempty : desired ≠ []) (budget count : Nat) (node : Node) :
    ((pendingKeys desired ((setup.cycle report desired budget)^[count] node)).filter
        (fun key => !sticky report desired key)).length ≤
      ((pendingKeys desired node).filter (fun key => !sticky report desired key)).length -
        count * (budget - ((filedMap desired).keys.filter (sticky report desired)).length) := by
  refine BudgetedProgress.iterate_le (setup.cycle report desired budget)
    (fun state => ((pendingKeys desired state).filter
      (fun key => !sticky report desired key)).length) _ ?_ count node
  intro state
  refine BudgetedProgress.length_filter_le_sub (sticky report desired)
    (pendingKeys_nodup desired state) (pendingKeys_nodup desired _) ?_ ?_
  · intro key _pending isSticky
    refine List.mem_filter.mpr ⟨?_, isSticky⟩
    rw [Dict.mem_keys_iff, get?_filedMap keyed]
    cases found : lastDesired desired key with
    | none =>
        rw [sticky, found] at isSticky
        cases isSticky
    | some spec => exact ⟨spec, rfl⟩
  · intro key still
    rcases (setup.mem_pendingKeys_cycle report keyed nonempty budget state key).mp still with
      later | ⟨_visited, isSticky⟩
    · exact Or.inl later
    · exact Or.inr isSticky

/-- A key that is on the node and not desired stays pending until it is gone. -/
theorem mem_pendingKeys_of_orphan {desired : List DesiredPeer}
    (keyed : ∀ peer ∈ desired, ∃ key, desiredKey peer = .ok key) {node : Node} {key : String}
    (present : key ∈ node.peers.keys) (undesired : lastDesired desired key = none) :
    key ∈ pendingKeys desired node := by
  obtain ⟨ips, found⟩ := (Dict.mem_keys_iff node.peers key).mp present
  rw [mem_pendingKeys, get?_filedMap keyed, undesired, found]
  rfl

/-- Revocation under a budget that exceeds the number of sticky keys. -/
theorem Setup.orphan_removed (setup : Setup) (report : String → String)
    {desired : List DesiredPeer} (keyed : ∀ peer ∈ desired, ∃ key, desiredKey peer = .ok key)
    (nonempty : desired ≠ []) (budget count : Nat) (node : Node)
    (enough : ((pendingKeys desired node).filter
        (fun key => !sticky report desired key)).length ≤
      count * (budget - ((filedMap desired).keys.filter (sticky report desired)).length))
    (key : String) (undesired : lastDesired desired key = none) :
    key ∉ ((setup.cycle report desired budget)^[count] node).peers.keys := by
  intro present
  have bound := setup.settleable_iterate_le report keyed nonempty budget count node
  have still : key ∈ (pendingKeys desired
      ((setup.cycle report desired budget)^[count] node)).filter
        (fun key => !sticky report desired key) := by
    refine List.mem_filter.mpr ⟨mem_pendingKeys_of_orphan keyed present undesired, ?_⟩
    rw [sticky, undesired]
    rfl
  have positive := List.length_pos_of_mem still
  omega

/-! ### Revocation and preshared keys -/

theorem sticky_verbatim {desired : List DesiredPeer} {key : String} {spec : PeerSpec}
    (found : lastDesired desired key = some spec) :
    sticky id desired key = hasPsk spec := by
  have stripped := strip_allowedIps_of_lastDesired found
  rw [sticky, found]
  simp [needsUpdate, allowedChanged, stripped]

theorem not_sticky_of_no_psk {desired : List DesiredPeer}
    (noPsk : ∀ key spec, lastDesired desired key = some spec → hasPsk spec = false)
    (key : String) : sticky id desired key = false := by
  cases found : lastDesired desired key with
  | none => rw [sticky, found]
  | some spec => rw [sticky_verbatim found, noPsk key spec found]

/-- Every desired key is on the node exactly as desired. -/
def InSync (desired : List DesiredPeer) (node : Node) : Prop :=
  ∀ key spec, lastDesired desired key = some spec → node.peers.get? key = some spec.allowedIps

/-- A node that holds the desired peers and one further key. -/
def syncedNode (desired : List DesiredPeer)
    (keyed : ∀ peer ∈ desired, ∃ key, desiredKey peer = .ok key) (extra : String) : Node :=
  Node.setPeer id
    { peers := (filedMap desired).mapValues PeerSpec.allowedIps
      wellFormed := by
        intro key present
        rw [Dict.mem_keys_iff, Dict.get?_mapValues, get?_filedMap keyed] at present
        obtain ⟨ips, shown⟩ := present
        obtain ⟨spec, found, _shown⟩ := Option.map_eq_some_iff.mp shown
        exact sanitizePubkey_of_lastDesired found
      stripped := by
        intro key ips shown
        rw [Dict.get?_mapValues, get?_filedMap keyed] at shown
        obtain ⟨spec, found, shownAs⟩ := Option.map_eq_some_iff.mp shown
        rw [← shownAs]
        exact strip_allowedIps_of_lastDesired found }
    extra ""

theorem syncedNode_inSync {desired : List DesiredPeer}
    (keyed : ∀ peer ∈ desired, ∃ key, desiredKey peer = .ok key) {extra : String}
    (wellFormed : sanitizePubkey extra = .ok extra) (undesired : lastDesired desired extra = none) :
    InSync desired (syncedNode desired keyed extra) ∧
      extra ∈ (syncedNode desired keyed extra).peers.keys := by
  rw [syncedNode, Node.setPeer, dif_pos wellFormed]
  constructor
  · intro key spec found
    have different : ¬ key = extra := by
      intro same
      rw [same, undesired] at found
      cases found
    rw [Dict.get?_set, if_neg different, Dict.get?_mapValues, get?_filedMap keyed, found]
    rfl
  · exact (Dict.mem_keys_set _ _ _ _).mpr (Or.inl rfl)

/-- With budget one, a preshared key on a node in sync takes the whole budget of
every cycle, so an orphan is never reached. -/
theorem Setup.orphan_starves (setup : Setup) {desired : List DesiredPeer}
    (keyed : ∀ peer ∈ desired, ∃ key, desiredKey peer = .ok key) (nonempty : desired ≠ [])
    {pskKey : String} {pskSpec : PeerSpec} (wanted : lastDesired desired pskKey = some pskSpec)
    (hasKey : hasPsk pskSpec = true) {orphan : String}
    (undesired : lastDesired desired orphan = none) {node : Node} (synced : InSync desired node)
    (present : orphan ∈ node.peers.keys) (count : Nat) :
    InSync desired ((setup.cycle id desired 1)^[count] node) ∧
      orphan ∈ ((setup.cycle id desired 1)^[count] node).peers.keys := by
  induction count with
  | zero => exact ⟨synced, present⟩
  | succ count ih =>
      obtain ⟨syncedBefore, presentBefore⟩ := ih
      rw [Function.iterate_succ_apply']
      generalize (setup.cycle id desired 1)^[count] node = before at syncedBefore presentBefore
      constructor
      · intro key spec found
        rw [setup.get?_cycle id keyed nonempty, found]
        split
        · rw [Option.map_some, id_eq, strip_allowedIps_of_lastDesired found]
        · exact syncedBefore key spec found
      · -- nothing is missing and something needs updating, so the first pending key is desired
        have noAdds : toAdd (filedMap desired) (runtimeMap before.dump) = [] := by
          rw [List.eq_nil_iff_forall_not_mem]
          intro key member
          obtain ⟨filed, missing⟩ := (mem_toAdd _ _ key).mp member
          obtain ⟨spec, found⟩ := (Dict.mem_keys_iff _ _).mp filed
          rw [get?_filedMap keyed] at found
          rw [mem_keys_runtimeMap_dump] at missing
          exact missing (Dict.mem_keys_of_get? (syncedBefore key spec found))
        have updates : pskKey ∈ toUpdate (filedMap desired) (runtimeMap before.dump) := by
          rw [mem_toUpdate, get?_filedMap keyed, get?_runtimeMap_dump,
            syncedBefore pskKey pskSpec wanted]
          exact ⟨pskSpec, _, wanted, rfl, by rw [needsUpdate, hasKey, Bool.or_true]⟩
        have first : ∀ key ∈ (pendingKeys desired before).take 1,
            key ∈ toUpdate (filedMap desired) (runtimeMap before.dump) := by
          intro key member
          rw [pendingKeys, plan, noAdds, List.nil_append] at member
          cases shape : toUpdate (filedMap desired) (runtimeMap before.dump) with
          | nil =>
              rw [shape] at updates
              cases updates
          | cons head rest =>
              rw [shape, List.cons_append, List.take_succ_cons, List.take_zero] at member
              rw [List.mem_singleton.mp member]
              exact List.mem_cons_self ..
        have notVisited : orphan ∉ (pendingKeys desired before).take 1 := by
          intro visited
          have filed := (toUpdate_present _ _ (first orphan visited)).1
          rw [Dict.mem_keys_iff, get?_filedMap keyed, undesired] at filed
          obtain ⟨spec, impossible⟩ := filed
          cases impossible
        rw [Dict.mem_keys_iff, setup.get?_cycle id keyed nonempty, if_neg notVisited,
          ← Dict.mem_keys_iff]
        exact presentBefore

/-- Within the announced number of cycles a revoked key leaves the node, for
every node and every budget, exactly when no desired peer carries a preshared key. -/
theorem revocation_progress_iff (setup : Setup) (desired : List DesiredPeer)
    (keyed : ∀ peer ∈ desired, ∃ key, desiredKey peer = .ok key) (nonempty : desired ≠ [])
    (revoked : String) (wellFormed : sanitizePubkey revoked = .ok revoked)
    (undesired : lastDesired desired revoked = none) :
    (∀ (budget : Nat) (node : Node) (count : Nat), 1 ≤ budget →
        pending desired node ≤ count * budget →
        revoked ∉ ((setup.cycle id desired budget)^[count] node).peers.keys) ↔
      ∀ key spec, lastDesired desired key = some spec → hasPsk spec = false := by
  constructor
  · intro progress key spec found
    by_contra carries
    have hasKey : hasPsk spec = true := by simpa using carries
    obtain ⟨synced, present⟩ := syncedNode_inSync keyed wellFormed undesired
    have starved := setup.orphan_starves keyed nonempty found hasKey undesired synced present
      (pending desired (syncedNode desired keyed revoked))
    exact progress 1 _ _ (Nat.le_refl 1) (by omega) starved.2
  · intro noPsk budget node count _positive enough
    have noSticky : sticky id desired = fun _ => false :=
      funext (not_sticky_of_no_psk noPsk)
    refine setup.orphan_removed id keyed nonempty budget count node ?_ revoked undesired
    rw [noSticky]
    simp only [Bool.not_false, List.filter_true, List.filter_false, List.length_nil,
      Nat.sub_zero]
    rw [← pending_eq_length]
    exact enough

def labSetup : Setup :=
  { container := "amnezia-awg"
    iface := "awg0"
    allowPruneEmptyDesired := ""
    containerOk := ⟨"amnezia-awg", by decide⟩
    ifaceOk := ⟨"awg0", by decide⟩ }

def aliceKey : String := "AAAAAAAAAAAAAAAAAAAAAAAAAAAAAAAAAAAAAAAAAAA="

def bobKey : String := "BBBBBBBBBBBBBBBBBBBBBBBBBBBBBBBBBBBBBBBBBBB="

def aliceDesired (presharedKey : Option String) : List DesiredPeer :=
  [{ publicKey := some aliceKey, allowedIps := some "10.8.1.2/32",
     presharedKey := presharedKey, persistentKeepalive := none }]

theorem aliceDesired_keyed (presharedKey : Option String) :
    ∀ peer ∈ aliceDesired presharedKey, ∃ key, desiredKey peer = .ok key := by
  intro peer member
  rw [List.mem_singleton.mp member]
  refine ⟨aliceKey, ?_⟩
  change sanitizePubkey (strip (orDefault (some aliceKey) "")) = .ok aliceKey
  decide +kernel

/-- Alice is in sync; Bob has been revoked and is still on the node. -/
def aliceAndBob : Node :=
  { peers := ⟨[(aliceKey, "10.8.1.2/32"), (bobKey, "10.8.1.3/32")], by decide⟩
    wellFormed := by decide
    stripped := by
      intro key ips found
      rw [← Dict.mem_entries_iff] at found
      simp only [List.mem_cons, Prod.mk.injEq, List.not_mem_nil, or_false] at found
      rcases found with ⟨_, shown⟩ | ⟨_, shown⟩
      · rw [shown]
        decide
      · rw [shown]
        decide }

/-- Alice's preshared key uses up both cycles, so Bob keeps his access. -/
theorem revocation_starved :
    1 ≤ 1 ∧ pending (aliceDesired (some "c2VjcmV0")) aliceAndBob ≤ 2 * 1 ∧
      lastDesired (aliceDesired (some "c2VjcmV0")) bobKey = none ∧
      bobKey ∈ ((labSetup.cycle id (aliceDesired (some "c2VjcmV0")) 1)^[2]
        aliceAndBob).peers.keys := by
  decide +kernel

theorem revocation_progress_two_cycles :
    pending (aliceDesired none) aliceAndBob ≤ 2 * 1 ∧
      bobKey ∉ ((labSetup.cycle id (aliceDesired none) 1)^[2] aliceAndBob).peers.keys := by
  have within : pending (aliceDesired none) aliceAndBob ≤ 2 * 1 := by decide +kernel
  refine ⟨within, ?_⟩
  refine (revocation_progress_iff labSetup (aliceDesired none) (aliceDesired_keyed none)
    (by decide) bobKey (by decide +kernel) (by decide +kernel)).mpr ?_ 1 aliceAndBob 2
    (by decide) within
  intro key spec found
  obtain ⟨peer, member, stored⟩ := mem_of_lastDesired found
  rw [← stored, List.mem_singleton.mp member]
  decide

/-! ### Convergence without preshared keys -/

theorem Setup.pending_cycle (setup : Setup) (report : String → String)
    {desired : List DesiredPeer} (keyed : ∀ peer ∈ desired, ∃ key, desiredKey peer = .ok key)
    (nonempty : desired ≠ []) (settles : ∀ key, sticky report desired key = false)
    (budget : Nat) (node : Node) :
    pending desired (setup.cycle report desired budget node) =
      pending desired node - budget := by
  rw [pending_eq_length, pending_eq_length]
  refine BudgetedProgress.length_eq_sub_of_settled (pendingKeys_nodup desired node)
    (pendingKeys_nodup desired _) ?_
  intro key
  rw [setup.mem_pendingKeys_cycle report keyed nonempty, settles key]
  simp

theorem settled_of_pending_zero {desired : List DesiredPeer}
    (keyed : ∀ peer ∈ desired, ∃ key, desiredKey peer = .ok key) {node : Node}
    (done : pending desired node = 0)
    (shown : ∀ key spec, lastDesired desired key = some spec → spec.allowedIps ≠ "")
    (key : String) :
    node.peers.get? key = (lastDesired desired key).map PeerSpec.allowedIps := by
  have empty : pendingKeys desired node = [] := by
    rw [pending_eq_length] at done
    exact List.eq_nil_of_length_eq_zero done
  have settled : key ∉ pendingKeys desired node := by
    rw [empty]
    exact List.not_mem_nil
  rw [mem_pendingKeys, get?_filedMap keyed] at settled
  cases wanted : lastDesired desired key with
  | none =>
      cases held : node.peers.get? key with
      | none => rfl
      | some ips =>
          rw [wanted, held] at settled
          exact False.elim (settled rfl)
  | some spec =>
      cases held : node.peers.get? key with
      | none =>
          rw [wanted, held] at settled
          exact False.elim (settled rfl)
      | some ips =>
          rw [wanted, held] at settled
          have visible := shown key spec wanted
          have stripped := node.stripped key ips held
          simp only [Option.map_some, unsettled, needsUpdate, allowedChanged, stripped,
            Bool.or_eq_true, Bool.and_eq_true, decide_eq_true_eq, not_or, not_and] at settled
          have same : spec.allowedIps = ips := by
            by_contra different
            exact settled.1 visible different
          rw [Option.map_some, same]

theorem Setup.quiet_of_pending_zero (setup : Setup) {desired : List DesiredPeer}
    (keyed : ∀ peer ∈ desired, ∃ key, desiredKey peer = .ok key) (nonempty : desired ≠ [])
    (budget : Nat) (exitCode : Nat → Int) {node : Node} (done : pending desired node = 0) :
    reconcile (setup.call desired budget node) exitCode = noChange := by
  obtain ⟨filed, mapped, _lookups, applied⟩ :=
    reconcile_of_not_guarded (setup.call_wellFormed keyed budget node) exitCode
      (setup.call_unguarded nonempty budget node)
  have sameFiled : filedMap desired = filed := by
    have mappedHere : desiredMap desired = .ok filed := mapped
    rw [filedMap, mappedHere]
  have runtimeEq : runtimeMap (setup.call desired budget node).runtime =
      runtimeMap node.dump := rfl
  unfold pending at done
  rw [sameFiled] at done
  have noAdds : toAdd filed (runtimeMap node.dump) = [] :=
    List.eq_nil_of_length_eq_zero (by omega)
  have noUpdates : toUpdate filed (runtimeMap node.dump) = [] :=
    List.eq_nil_of_length_eq_zero (by omega)
  have noRemoves : toRemove filed (runtimeMap node.dump) = [] :=
    List.eq_nil_of_length_eq_zero (by omega)
  rw [applied, runtimeEq, applyMutations, noAdds, noUpdates, noRemoves]
  rfl

theorem not_sticky_of_verbatim {report : String → String} {desired : List DesiredPeer}
    (noPsk : ∀ key spec, lastDesired desired key = some spec → spec.presharedKey = none)
    (verbatim : ∀ key spec, lastDesired desired key = some spec →
      report spec.allowedIps = spec.allowedIps)
    (key : String) : sticky report desired key = false := by
  cases found : lastDesired desired key with
  | none => rw [sticky, found]
  | some spec =>
      have stripped := strip_allowedIps_of_lastDesired found
      rw [sticky, found]
      simp [needsUpdate, allowedChanged, hasPsk, noPsk key spec found,
        verbatim key spec found, stripped]

/-- Without preshared keys, and with allowed-ips the node shows verbatim, every
cycle does exactly one budget of the pending work; when it is done the node holds
the desired peers and further cycles run no command. -/
theorem reconcile_converges (setup : Setup) (report : String → String)
    (desired : List DesiredPeer)
    (keyed : ∀ peer ∈ desired, ∃ key, desiredKey peer = .ok key) (nonempty : desired ≠ [])
    (noPsk : ∀ key spec, lastDesired desired key = some spec → spec.presharedKey = none)
    (verbatim : ∀ key spec, lastDesired desired key = some spec →
      report spec.allowedIps = spec.allowedIps)
    (neverBlank : ∀ ips, strip (report ips) ≠ "") (budget : Nat) (positive : 1 ≤ budget)
    (node : Node) :
    (∀ before : Node,
      pending desired (setup.cycle report desired budget before) +
        min budget (pending desired before) = pending desired before) ∧
    ∀ count, (pending desired node + budget - 1) / budget ≤ count →
      (∀ key, ((setup.cycle report desired budget)^[count] node).peers.get? key =
        (lastDesired desired key).map PeerSpec.allowedIps) ∧
      ∀ exitCode, reconcile (setup.call desired budget
        ((setup.cycle report desired budget)^[count] node)) exitCode = noChange := by
  have settles := not_sticky_of_verbatim noPsk verbatim
  have step := setup.pending_cycle report keyed nonempty settles budget
  constructor
  · intro before
    rw [step before]
    omega
  · intro count enough
    have covered : pending desired node ≤ count * budget := by
      have roundedUp := Nat.lt_succ_of_le enough
      rw [Nat.div_lt_iff_lt_mul (by omega), Nat.succ_mul] at roundedUp
      omega
    have done : pending desired ((setup.cycle report desired budget)^[count] node) = 0 := by
      have remaining := BudgetedProgress.iterate_eq (setup.cycle report desired budget)
        (pending desired) budget step count node
      omega
    have shown : ∀ key spec, lastDesired desired key = some spec → spec.allowedIps ≠ "" := by
      intro key spec found blank
      apply neverBlank spec.allowedIps
      rw [verbatim key spec found, strip_allowedIps_of_lastDesired found]
      exact blank
    exact ⟨settled_of_pending_zero keyed done shown,
      fun exitCode => setup.quiet_of_pending_zero keyed nonempty budget exitCode done⟩

/-- The dump prints `(none)` for a peer without allowed-ips. -/
def shownIps (ips : String) : String := if strip ips = "" then "(none)" else ips

theorem reconcile_converges_two_cycles :
    ((labSetup.cycle shownIps (aliceDesired none) 1)^[2] aliceAndBob).peers.get? aliceKey =
        some "10.8.1.2/32" ∧
      ((labSetup.cycle shownIps (aliceDesired none) 1)^[2] aliceAndBob).peers.get? bobKey =
        none := by
  have spec : ∀ key spec, lastDesired (aliceDesired none) key = some spec →
      spec = ⟨"10.8.1.2/32", 25, none⟩ := by
    intro key spec found
    obtain ⟨peer, member, stored⟩ := mem_of_lastDesired found
    rw [← stored, List.mem_singleton.mp member]
    decide
  have neverBlank : ∀ ips, strip (shownIps ips) ≠ "" := by
    intro ips
    unfold shownIps
    split
    · decide
    · assumption
  have converged := (reconcile_converges labSetup shownIps (aliceDesired none)
    (aliceDesired_keyed none) (by decide) (fun key found wanted => by rw [spec key found wanted])
    (fun key found wanted => by rw [spec key found wanted]; decide) neverBlank 1 (by decide)
    aliceAndBob).2 2 (by decide +kernel)
  exact ⟨(converged.1 aliceKey).trans (by decide +kernel),
    (converged.1 bobKey).trans (by decide +kernel)⟩

end VpnSuite.Agent
