/-
A `sync` or `apply_peers` action after a pass in the same cycle (`node-agent/agent.py`, `main`).

The action fetches the desired peers anew, but compares them with the runtime that the cycle read
before its own pass.  What that pass changed the action does not see, and where the older list took
a peer away that the newer one wants, the action leaves it away and reports `completed`.
-/

import VpnSuite.Agent.MainLoop

set_option autoImplicit false

namespace VpnSuite.Agent

open Foundations
open Foundations.PythonText
open Foundations.Raising

/-- What a run of effects makes of a node. -/
def nodeAfter (shows : String → String) (effects : List AgentEffect) (node : Node) : Node :=
  effects.foldl (fun current effect =>
    match effect with
    | .reconciled _ issued => issued.foldl (Node.run shows) current
    | _ => current) node

/-- What a list wants under a key. -/
def wantedIps (desired : List DesiredPeer) (key : String) : Option String :=
  (lastDesired desired key).map PeerSpec.allowedIps

/-- A list whose peers can be settled: keyed, without preshared keys, and shown verbatim. -/
structure Settleable (shows : String → String) (desired : List DesiredPeer) : Prop where
  nonempty : desired ≠ []
  keyed : ∀ peer ∈ desired, ∃ key, desiredKey peer = .ok key
  noPsk : ∀ key spec, lastDesired desired key = some spec → spec.presharedKey = none
  verbatim : ∀ key spec, lastDesired desired key = some spec →
    shows spec.allowedIps = spec.allowedIps
  shown : ∀ key spec, lastDesired desired key = some spec → spec.allowedIps ≠ ""

/-- What a pass that is planned on the dump of one node makes of another. -/
def Setup.passOn (setup : Setup) (shows : String → String) (desired : List DesiredPeer)
    (budget : Nat) (seen node : Node) : Node :=
  (reconcile (setup.call desired budget seen) (fun _ => 0)).issued.foldl (Node.run shows) node

section Passes

variable (setup : Setup) {shows : String → String} {desired older newer : List DesiredPeer}
  {budget : Nat}

/-- What is not pending is as it is wanted, and the other way round. -/
theorem Settleable.settled_iff (settleable : Settleable shows desired) (node : Node)
    (key : String) :
    key ∉ pendingKeys desired node ↔ node.peers.get? key = wantedIps desired key := by
  rw [mem_pendingKeys, get?_filedMap settleable.keyed, wantedIps]
  cases found : lastDesired desired key with
  | none => cases node.peers.get? key <;> simp [unsettled]
  | some spec =>
      cases held : node.peers.get? key with
      | none => simp [unsettled]
      | some ips =>
          have visible := settleable.shown key spec found
          have stripped := node.stripped key ips held
          have noPsk := settleable.noPsk key spec found
          simp only [Option.map_some, unsettled, needsUpdate, allowedChanged, hasPsk, noPsk,
            stripped, Bool.or_false, Bool.and_eq_true, decide_eq_true_eq, Option.some.injEq]
          constructor
          · intro settled
            by_contra different
            exact settled ⟨visible, fun same => different same.symm⟩
          · intro same changed
            exact changed.2 same.symm

/-- A pass with enough budget sets what its dump does not show, wherever it is run. -/
theorem Setup.get?_wholePass (settleable : Settleable shows desired) {seen : Node}
    (enough : pending desired seen ≤ budget) (node : Node) (key : String) :
    (setup.passOn shows desired budget seen node).peers.get? key =
      if seen.peers.get? key = wantedIps desired key then node.peers.get? key
      else wantedIps desired key := by
  have all : (pendingKeys desired seen).take budget = pendingKeys desired seen := by
    rw [pending_eq_length] at enough
    exact List.take_of_length_le enough
  rw [Setup.passOn, setup.get?_pass shows settleable.keyed settleable.nonempty, all]
  by_cases same : seen.peers.get? key = wantedIps desired key
  · rw [if_neg ((settleable.settled_iff seen key).mpr same), if_pos same]
  · have isPending : key ∈ pendingKeys desired seen := by
      by_contra settled
      exact same ((settleable.settled_iff seen key).mp settled)
    rw [if_pos isPending, if_neg same, wantedIps]
    cases found : lastDesired desired key with
    | none => rfl
    | some spec =>
        rw [Option.map_some, Option.map_some, settleable.verbatim key spec found,
          strip_allowedIps_of_lastDesired found]

/-- A pass over the older list, then one over the newer list with the dump from before. -/
theorem Setup.stalePasses_iff (first : Settleable shows older) (second : Settleable shows newer)
    {node : Node} (enoughFirst : pending older node ≤ budget)
    (enoughSecond : pending newer node ≤ budget) :
    (∀ key, (setup.passOn shows newer budget node
        (setup.passOn shows older budget node node)).peers.get? key = wantedIps newer key) ↔
      ∀ key, node.peers.get? key = wantedIps newer key →
        wantedIps older key = wantedIps newer key := by
  have afterFirst (key : String) :
      (setup.passOn shows older budget node node).peers.get? key = wantedIps older key := by
    rw [setup.get?_wholePass first enoughFirst]
    split
    · assumption
    · rfl
  apply forall_congr'
  intro key
  rw [setup.get?_wholePass second enoughSecond, afterFirst]
  by_cases same : node.peers.get? key = wantedIps newer key
  · rw [if_pos same]
    constructor
    · intro kept _
      exact kept
    · intro kept
      exact kept same
  · rw [if_neg same]
    constructor
    · intro _ contrary
      exact absurd contrary same
    · intro _
      rfl

end Passes

/-! ### The cycle -/

/-- A cycle that makes a pass over one list and carries out an action that fetches another. -/
structure ActionCycle (unicode : Char → Bool) (config : AgentConfig) (setup : Setup)
    (container : ContainerCandidate) (older newer : List DesiredPeer) (budget : Nat) (seen : Node)
    (loop : AgentLoop) (cycle : AgentCycle) (action : PolledAction) : Prop where
  primary : ∃ containers, cycle.containers = .ok containers ∧
    primaryContainer unicode config.serverId containers = some container
  /-- The runtime that is read is the one of the node. -/
  reads : cycle.runtime = .ok ⟨true, seen.dump⟩
  sameContainer : setup.container = container.containerId
  sameIface : setup.iface = config.iface
  samePrune : setup.allowPruneEmptyDesired = config.allowPruneEmptyDesired
  writing : config.readOnly = false
  sameBudget : config.maxMutations = budget
  /-- The list of the pass, fetched in this cycle or stored from an earlier one. -/
  fetched : config.desiredInterval ≤ cycle.now - loop.lastDesired →
    cycle.desired = .ok ⟨.listed older, none⟩
  stored : ¬ config.desiredInterval ≤ cycle.now - loop.lastDesired → loop.desiredPeers = older
  duePass : loop.lastReconcile = 0 ∨ config.reconcileInterval ≤ cycle.now - loop.lastReconcile
  duePoll : config.actionsPollInterval ≤ cycle.now - loop.lastActionsPoll
  polled : cycle.poll = .ok (some action)
  isSync : orDefault action.type "" ∈ ["sync", "apply_peers"]
  answered : cycle.action.desired = .ok ⟨.listed newer, none⟩
  exits : cycle.exitCode = fun _ => 0
  actionExits : cycle.action.exitCode = fun _ => 0

section Cycles

variable {unicode : Char → Bool} {config : AgentConfig} {setup : Setup}
  {container : ContainerCandidate} {older newer : List DesiredPeer} {budget : Nat} {seen : Node}
  {loop : AgentLoop} {cycle : AgentCycle} {action : PolledAction} {shows : String → String}
  {initial : Node}

theorem nodeAfter_concat (effects : List AgentEffect) (effect : AgentEffect) (node : Node) :
    nodeAfter shows (effects ++ [effect]) node =
      nodeAfter shows [effect] (nodeAfter shows effects node) := by
  rw [nodeAfter, List.foldl_append]
  rfl

/-- Before the list is fetched: the loop as it was, but for its heartbeats. -/
structure Begun (shows : String → String) (initial : Node) (loop : AgentLoop) (seen : Node)
    (current : AgentLoop) : Prop where
  lastDesired : current.lastDesired = loop.lastDesired
  lastReconcile : current.lastReconcile = loop.lastReconcile
  lastActionsPoll : current.lastActionsPoll = loop.lastActionsPoll
  desiredPeers : current.desiredPeers = loop.desiredPeers
  node : nodeAfter shows current.effects initial = seen

/-- Before the pass. -/
structure Fetched (shows : String → String) (initial : Node) (loop : AgentLoop)
    (older : List DesiredPeer) (seen : Node) (current : AgentLoop) : Prop where
  lastReconcile : current.lastReconcile = loop.lastReconcile
  lastActionsPoll : current.lastActionsPoll = loop.lastActionsPoll
  desiredPeers : current.desiredPeers = older
  node : nodeAfter shows current.effects initial = seen

/-- Before the action, and while it is carried out. -/
structure Passed (shows : String → String) (initial : Node) (poll : Int) (made : Node)
    (current : AgentLoop) : Prop where
  lastActionsPoll : current.lastActionsPoll = poll
  node : nodeAfter shows current.effects initial = made

/-- After the action. -/
structure Acted (shows : String → String) (initial : Node) (action : PolledAction) (made : Node)
    (current : AgentLoop) : Prop where
  node : nodeAfter shows current.effects initial = made
  reported : .reported action.actionId "completed" "ok" ∈ current.effects

/-- An effect that is no pass leaves the node alone. -/
theorem nodeAfter_other {effect : AgentEffect} (other : effect.reconciles = none)
    (effects : List AgentEffect) (node : Node) :
    nodeAfter shows (effects ++ [effect]) node = nodeAfter shows effects node := by
  rw [nodeAfter_concat]
  cases effect with
  | reconciled desired issued => cases other
  | heartbeat => rfl
  | answered => rfl
  | envWritten => rfl
  | envRestarted => rfl
  | polled => rfl
  | restarted => rfl
  | reported => rfl

/-- Heartbeats never raise. -/
theorem begun_heartbeats {left : String → AgentLoop → Prop} (cycle : AgentCycle)
    (containers : List ContainerCandidate) :
    Triple (Begun shows initial loop seen) (heartbeats unicode config cycle containers)
      (fun _ => Begun shows initial loop seen) left := by
  have sent (listed : List ContainerCandidate) :
      Triple (Begun shows initial loop seen) (sendHeartbeats unicode cycle listed)
        (fun _ => Begun shows initial loop seen) left := by
    induction listed with
    | nil =>
        apply triple_write
        intro current begun
        exact ⟨begun.lastDesired, begun.lastReconcile, begun.lastActionsPoll, begun.desiredPeers,
          begun.node⟩
    | cons container rest ih =>
        have noted : Triple (Begun shows initial loop seen)
            (note (.heartbeat (container.serverId unicode)))
            (fun _ => Begun shows initial loop seen) left := by
          apply triple_write
          intro current begun
          refine ⟨begun.lastDesired, begun.lastReconcile, begun.lastActionsPoll,
            begun.desiredPeers, ?_⟩
          rw [nodeAfter_other rfl]
          exact begun.node
        unfold sendHeartbeats
        split
        · exact noted.bind (fun _ => ih)
        · exact ih
  have asked : Triple (Begun shows initial loop seen) (read (heartbeatDue config cycle))
      (fun _ => Begun shows initial loop seen) left :=
    triple_read _ (fun _ held => held)
  apply asked.bind
  intro due
  cases due with
  | false => exact triple_pure () (fun _ held => held)
  | true => exact sent containers

theorem passed_note {effect : AgentEffect} (other : effect.reconciles = none) {poll : Int}
    {made : Node} {left : String → AgentLoop → Prop} :
    Triple (Passed shows initial poll made) (note effect)
      (fun _ => Passed shows initial poll made) left := by
  apply triple_write
  intro current passed
  refine ⟨passed.lastActionsPoll, ?_⟩
  rw [nodeAfter_other other]
  exact passed.node

theorem acted_report {made : Node} (world : ActionWorld) {slot : Nat} (status message : String) :
    Keeps (Acted shows initial action made) (report world action slot status message) := by
  apply Keeps.bind
  · apply keeps_note
    intro current acted
    refine ⟨?_, List.mem_append_left _ acted.reported⟩
    rw [nodeAfter_other rfl]
    exact acted.node
  · intro _
    exact keeps_query _

/-- The node gets the commands of the call, which raises when the pass does. -/
theorem passed_callReconcile {poll : Int} {made : Node} {rt : AgentRuntime}
    {desired : List DesiredPeer} {call : ReconcileCall}
    (sameCall : reconcileCall config container rt desired = call) (exitCode : Nat → Int) :
    Triple (Passed shows initial poll made) (callReconcile config container rt desired exitCode)
      (fun _ => Passed shows initial poll
        ((reconcile call exitCode).issued.foldl (Node.run shows) made))
      (fun _ current => Passed shows initial poll
        ((reconcile call exitCode).issued.foldl (Node.run shows) made) current ∧
          ∃ error, (reconcile call exitCode).returned = .error error) := by
  unfold callReconcile
  rw [sameCall]
  generalize reconcile call exitCode = outcome
  have noted : Triple (Passed shows initial poll made) (note (.reconciled desired outcome.issued))
      (fun _ => Passed shows initial poll (outcome.issued.foldl (Node.run shows) made))
      (fun _ current =>
        Passed shows initial poll (outcome.issued.foldl (Node.run shows) made) current ∧
          ∃ error, outcome.returned = .error error) := by
    apply triple_write
    intro current passed
    refine ⟨passed.lastActionsPoll, ?_⟩
    rw [nodeAfter_concat, passed.node]
    rfl
  apply noted.bind
  intro _
  apply triple_query
  · intro current _ passed _
    exact passed
  · intro current error passed raised
    refine ⟨passed, ?_⟩
    cases ending : outcome.returned with
    | ok counts =>
        rw [ending] at raised
        cases raised
    | error other => exact ⟨other, rfl⟩

section Sync

variable
  (begun : ActionCycle unicode config setup container older newer budget seen loop cycle action)

include begun

theorem ActionCycle.call_eq (desired : List DesiredPeer) :
    reconcileCall config container ⟨true, seen.dump⟩ desired = setup.call desired budget seen := by
  rw [reconcileCall, Setup.call, begun.sameContainer, begun.sameIface, begun.samePrune,
    begun.writing, begun.sameBudget]

theorem ActionCycle.fetches :
    Triple (Begun shows initial loop seen) (fetchDesired config cycle ⟨true, seen.dump⟩)
      (fun _ => Fetched shows initial loop older seen) (fun _ _ => False) := by
  have asked (current : AgentLoop) (held : Begun shows initial loop seen current) :
      decide (config.desiredInterval ≤ cycle.now - current.lastDesired) =
        decide (config.desiredInterval ≤ cycle.now - loop.lastDesired) := by
    rw [held.lastDesired]
  apply Triple.knows asked
  cases due : decide (config.desiredInterval ≤ cycle.now - loop.lastDesired) with
  | false =>
      apply triple_pure
      intro current held
      refine ⟨held.lastReconcile, held.lastActionsPoll, ?_, held.node⟩
      rw [held.desiredPeers]
      exact begun.stored (of_decide_eq_false due)
  | true =>
      apply Triple.answer (begun.fetched (of_decide_eq_true due))
      have noted : Triple (Begun shows initial loop seen) (note (.answered older))
          (fun _ => Begun shows initial loop seen) (fun _ _ => False) := by
        apply triple_write
        intro current held
        refine ⟨held.lastDesired, held.lastReconcile, held.lastActionsPoll, held.desiredPeers, ?_⟩
        rw [nodeAfter_other rfl]
        exact held.node
      have stored : Triple (Begun shows initial loop seen) (storeDesired cycle older)
          (fun _ => Fetched shows initial loop older seen) (fun _ _ => False) := by
        apply noted.bind
        intro _
        apply triple_write
        intro current held
        exact ⟨held.lastReconcile, held.lastActionsPoll, rfl, held.node⟩
      apply stored.bind
      intro _
      have unsynced : applyObfuscation config cycle.env ⟨true, seen.dump⟩ ⟨.listed older, none⟩ =
          pure () := by
        unfold applyObfuscation
        split
        · rfl
        · rfl
      rw [unsynced]
      exact triple_pure () (fun _ before => before)

/-- A pass over a list with keys returns. -/
theorem ActionCycle.callReconcile_passOn {desired : List DesiredPeer}
    (settleable : Settleable shows desired) {poll : Int} {made : Node} :
    Triple (Passed shows initial poll made)
      (callReconcile config container ⟨true, seen.dump⟩ desired (fun _ => 0))
      (fun _ => Passed shows initial poll (setup.passOn shows desired budget seen made))
      (fun _ _ => False) := by
  have called : Triple (Passed shows initial poll made)
      (callReconcile config container ⟨true, seen.dump⟩ desired (fun _ => 0))
      (fun _ => Passed shows initial poll (setup.passOn shows desired budget seen made))
      (fun _ current =>
        Passed shows initial poll (setup.passOn shows desired budget seen made) current ∧
          ∃ error, (reconcile (setup.call desired budget seen) (fun _ => 0)).returned =
            .error error) :=
    passed_callReconcile (begun.call_eq desired) (fun _ => 0)
  apply called.weaken (fun _ held => held) (fun _ _ after => after)
  intro error current raised
  rcases setup.pass_of_success settleable.keyed settleable.nonempty budget seen with
    ⟨trace, counts, passed, _, _, _⟩
  rcases raised.2 with ⟨other, failed⟩
  rw [passed, finish_returned] at failed
  cases failed

theorem ActionCycle.passes (settleable : Settleable shows older) :
    Triple (Fetched shows initial loop older seen)
      (reconcilePeers config cycle container ⟨true, seen.dump⟩)
      (fun _ => Passed shows initial loop.lastActionsPoll
        (setup.passOn shows older budget seen seen))
      (fun _ _ => False) := by
  have asked (current : AgentLoop) (held : Fetched shows initial loop older seen current) :
      reconcileDue config cycle ⟨true, seen.dump⟩ current = true := by
    rw [reconcileDue, held.lastReconcile, Bool.true_and, Bool.or_eq_true, decide_eq_true_eq,
      decide_eq_true_eq]
    exact begun.duePass
  apply Triple.knows asked
  apply Triple.knows (fun current held => held.desiredPeers)
  rw [begun.exits]
  have pass : Triple (Fetched shows initial loop older seen)
      (callReconcile config container ⟨true, seen.dump⟩ older (fun _ => 0))
      (fun _ => Passed shows initial loop.lastActionsPoll
        (setup.passOn shows older budget seen seen))
      (fun _ _ => False) :=
    (begun.callReconcile_passOn settleable).weaken
      (fun _ held => ⟨held.lastActionsPoll, held.node⟩) (fun _ _ after => after)
      (fun _ _ never => never)
  apply pass.bind
  intro _
  apply triple_write
  intro current passed
  exact ⟨passed.lastActionsPoll, passed.node⟩

/-- The action runs its own pass on what the first has made, and reports it, whether or not the
report arrives. -/
theorem ActionCycle.acts (settleable : Settleable shows newer) {poll : Int} {made : Node} :
    Triple (Passed shows initial poll made)
      (handleAction config cycle.action action container ⟨true, seen.dump⟩)
      (fun _ => Acted shows initial action (setup.passOn shows newer budget seen made))
      (fun _ => Acted shows initial action (setup.passOn shows newer budget seen made)) := by
  have carried : Triple (Passed shows initial poll made)
      (syncAction config cycle.action action container ⟨true, seen.dump⟩)
      (fun _ => Acted shows initial action (setup.passOn shows newer budget seen made))
      (fun _ => Acted shows initial action (setup.passOn shows newer budget seen made)) := by
    apply Triple.answer begun.answered
    have listed : (DesiredAnswer.mk (.listed newer) none).peers.forAction = .ok newer := rfl
    apply Triple.answer listed
    apply (passed_note rfl).bind
    intro _
    rw [begun.actionExits]
    have pass : Triple (Passed shows initial poll made)
        (callReconcile config container ⟨true, seen.dump⟩ newer (fun _ => 0))
        (fun _ => Passed shows initial poll (setup.passOn shows newer budget seen made))
        (fun _ => Acted shows initial action (setup.passOn shows newer budget seen made)) :=
      (begun.callReconcile_passOn settleable).orElse _
    apply pass.bind
    intro _
    have stored : Triple
        (Passed shows initial poll (setup.passOn shows newer budget seen made))
        (write (fun current => { current with desiredPeers := newer }))
        (fun _ => Passed shows initial poll (setup.passOn shows newer budget seen made))
        (fun (_ : String) =>
          Acted shows initial action (setup.passOn shows newer budget seen made)) := by
      apply triple_write
      intro current passed
      exact ⟨passed.lastActionsPoll, passed.node⟩
    apply stored.bind
    intro _
    have noted : Triple
        (Passed shows initial poll (setup.passOn shows newer budget seen made))
        (note (.reported action.actionId "completed" "ok"))
        (fun _ => Acted shows initial action (setup.passOn shows newer budget seen made))
        (fun _ => Acted shows initial action (setup.passOn shows newer budget seen made)) := by
      apply triple_write
      intro current passed
      refine ⟨?_, List.mem_append_right _ (List.mem_singleton.mpr rfl)⟩
      rw [nodeAfter_other rfl]
      exact passed.node
    apply noted.bind
    intro _
    exact keeps_query _
  unfold handleAction carryOut
  apply Triple.attempt
  · rw [if_pos begun.isSync]
    exact carried
  · intro error
    exact (acted_report cycle.action "failed" _).attempt (fun _ => keeps_pure ())

theorem ActionCycle.polls (settleable : Settleable shows newer) {made : Node} :
    Triple (Passed shows initial loop.lastActionsPoll made)
      (pollActions config cycle container ⟨true, seen.dump⟩)
      (fun _ => Acted shows initial action (setup.passOn shows newer budget seen made))
      (fun _ => Acted shows initial action (setup.passOn shows newer budget seen made)) := by
  have asked (current : AgentLoop)
      (passed : Passed shows initial loop.lastActionsPoll made current) :
      pollDue config cycle ⟨true, seen.dump⟩ current = true := by
    rw [pollDue, passed.lastActionsPoll, Bool.and_true, decide_eq_true_eq]
    exact begun.duePoll
  apply Triple.knows asked
  have written : Triple (Passed shows initial loop.lastActionsPoll made)
      (write (fun current => { current with lastActionsPoll := cycle.now }))
      (fun _ => Passed shows initial cycle.now made)
      (fun (_ : String) =>
        Acted shows initial action (setup.passOn shows newer budget seen made)) := by
    apply triple_write
    intro current passed
    exact ⟨rfl, passed.node⟩
  apply written.bind
  intro _
  apply (passed_note rfl).bind
  intro _
  exact Triple.answer begun.polled (begun.acts settleable)

theorem ActionCycle.acted (first : Settleable shows older) (second : Settleable shows newer)
    (before : nodeAfter shows loop.effects initial = seen) :
    Acted shows initial action
      (setup.passOn shows newer budget seen (setup.passOn shows older budget seen seen))
      (agentStep unicode config loop cycle) := by
  have served : Triple (Begun shows initial loop seen) (agentCycle unicode config cycle)
      (fun _ => Acted shows initial action
        (setup.passOn shows newer budget seen (setup.passOn shows older budget seen seen)))
      (fun _ => Acted shows initial action
        (setup.passOn shows newer budget seen (setup.passOn shows older budget seen seen))) := by
    rcases begun.primary with ⟨containers, picked, chosen⟩
    apply Triple.answer picked
    rw [chosen]
    apply (begun_heartbeats cycle containers).bind
    intro _
    apply Triple.answer begun.reads
    apply (begun.fetches.orElse _).bind
    intro _
    apply ((begun.passes first).orElse _).bind
    intro _
    exact begun.polls second
  exact served.leaves ⟨rfl, rfl, rfl, rfl, before⟩

end Sync

/-- After a pass and a `sync` in one cycle the node is as the newer list wants it exactly if the
older list wanted the same wherever the node was so already.  The action reports success anyhow. -/
theorem sync_after_pass_iff
    (begun : ActionCycle unicode config setup container older newer budget seen loop cycle action)
    (first : Settleable shows older) (second : Settleable shows newer)
    (enoughFirst : pending older seen ≤ budget) (enoughSecond : pending newer seen ≤ budget)
    (before : nodeAfter shows loop.effects initial = seen) :
    ((∀ key, (nodeAfter shows (agentStep unicode config loop cycle).effects
        initial).peers.get? key = wantedIps newer key) ↔
      ∀ key, seen.peers.get? key = wantedIps newer key →
        wantedIps older key = wantedIps newer key) ∧
    .reported action.actionId "completed" "ok" ∈ (agentStep unicode config loop cycle).effects := by
  have acted := begun.acted first second before
  refine ⟨?_, acted.reported⟩
  rw [acted.node]
  exact setup.stalePasses_iff first second enoughFirst enoughSecond

end Cycles

/-! ### Alice is taken away and stays away -/

theorem settleable_single {peer : DesiredPeer} (keyed : ∃ key, desiredKey peer = .ok key)
    (noPsk : (desiredSpec peer).presharedKey = none) (shown : (desiredSpec peer).allowedIps ≠ "") :
    Settleable id [peer] := by
  have only (key : String) (spec : PeerSpec) (found : lastDesired [peer] key = some spec) :
      desiredSpec peer = spec := by
    rcases mem_of_lastDesired found with ⟨other, member, stored⟩
    rw [← stored, List.mem_singleton.mp member]
  refine ⟨List.cons_ne_nil _ _, ?_, ?_, fun _ _ _ => rfl, ?_⟩
  · intro other member
    rw [List.mem_singleton.mp member]
    exact keyed
  · intro key spec found
    rw [← only key spec found]
    exact noPsk
  · intro key spec found
    rw [← only key spec found]
    exact shown

def bobDesired : DesiredPeer := ⟨some bobKey, some "10.8.1.3/32", none, none⟩

/-- The stored list still has Bob alone, and the node both; the action fetches Alice. -/
def staleLoop : AgentLoop := ⟨95, 95, 30, 30, [bobDesired], []⟩

def staleSync : AgentCycle :=
  { sampleCycle 100 [] with
    runtime := .ok ⟨true, aliceAndBob.dump⟩, poll := .ok (some ⟨"1", some "sync", false⟩) }

/-- The pass takes Alice away, and the action that wants her completes without her. -/
theorem alice_is_lost_by_sync :
    (¬ ∀ key, (nodeAfter id (agentStep (fun _ => false) sampleAgent staleLoop staleSync).effects
      aliceAndBob).peers.get? key = wantedIps (aliceDesired none) key) ∧
    .reported "1" "completed" "ok" ∈
      (agentStep (fun _ => false) sampleAgent staleLoop staleSync).effects := by
  have begun : ActionCycle (fun _ => false) sampleAgent
      { labSetup with container := "0123456789ab", containerOk := ⟨"0123456789ab", by decide⟩ }
      (sampleContainer "amnezia-awg") [bobDesired] (aliceDesired none) 10 aliceAndBob staleLoop
      staleSync ⟨"1", some "sync", false⟩ :=
    { primary := ⟨_, rfl, by decide +kernel⟩, reads := rfl, sameContainer := rfl, sameIface := rfl
      samePrune := rfl, writing := rfl, sameBudget := rfl
      fetched := fun due => absurd due (by decide)
      stored := fun _ => rfl
      duePass := by decide, duePoll := by decide, polled := rfl, isSync := by decide
      answered := rfl, exits := rfl, actionExits := rfl }
  have bob : Settleable id [bobDesired] :=
    settleable_single ⟨bobKey, by decide +kernel⟩ (by decide) (by decide)
  have alice : Settleable id (aliceDesired none) :=
    settleable_single ⟨aliceKey, by decide +kernel⟩ (by decide) (by decide)
  have synced := sync_after_pass_iff begun bob alice (by decide +kernel) (by decide +kernel) rfl
  refine ⟨?_, synced.2⟩
  intro matched
  have kept := synced.1.mp matched aliceKey (by decide +kernel)
  exact absurd kept (by decide +kernel)

end VpnSuite.Agent
