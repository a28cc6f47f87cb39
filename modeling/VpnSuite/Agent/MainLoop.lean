/-
The loop of the node agent (`node-agent/agent.py`, `main`).

A cycle picks the containers, sends their heartbeats, fetches the desired peers, reconciles the
primary container and carries out one action of the control plane, each at its own interval.  What
raises ends the cycle, and the next one begins anew.

What is outside is an input of the cycle: the clock, Docker, the node and the control plane.  What
the agent does is noted down in the order of doing.  Of an action's file edit only is kept whether
it succeeds; instants are in microseconds.
-/

import VpnSuite.Agent.ContainerIds
import VpnSuite.Agent.ObfuscationSync
import VpnSuite.Agent.ReconcileConvergence
import VpnSuite.Foundations.ProgramTriples
import Mathlib.Data.List.Induction

set_option autoImplicit false

namespace VpnSuite.Agent

open Foundations
open Foundations.PythonText
open Foundations.Raising

structure AgentConfig where
  serverId : String
  iface : String
  allowPruneEmptyDesired : String
  envPath : String
  hbInterval : Int
  desiredInterval : Int
  reconcileInterval : Int
  actionsPollInterval : Int
  maxMutations : Int
  readOnly : Bool

/-- The `peers` of an answer: the objects of a list, or something that is no list. -/
inductive PeersField where
  | listed (peers : List DesiredPeer)
  | otherIterable
  | notIterable (typeName : String)

structure DesiredAnswer where
  peers : PeersField
  /-- `obfuscation_full`, where it is an object. -/
  obfuscation : Option (Dict String Json)

structure AgentRuntime where
  ok : Bool
  peers : List Peer

structure PolledAction where
  actionId : String
  type : Option String
  /-- Whether the payload has integers `h1` to `h4`. -/
  hasHeaders : Bool

/-- What carrying out an action finds. -/
structure ActionWorld where
  desired : Except String DesiredAnswer
  exitCode : Nat → Int
  restart : Int × String
  envEdit : Except String Unit
  /-- Which reports come through: the action's own, then those of its two handlers. -/
  delivered : Nat → Except String Unit

/-- The env file that `obfuscation_full` is compared with, and what becomes of reading it, writing
it and restarting the container. -/
structure EnvWorld where
  file : List Char
  readable : Bool
  writeFailure : Option (List Char)
  restarted : Bool
  order : { keys : List EnvKey // keys.Perm envKeys }

structure AgentCycle where
  now : Int
  containers : Except String (List ContainerCandidate)
  /-- Whether the full heartbeat of a container is made and sent. -/
  heartbeatSent : ContainerCandidate → Bool
  bareHeartbeatSent : Bool
  runtime : Except String AgentRuntime
  desired : Except String DesiredAnswer
  env : EnvWorld
  exitCode : Nat → Int
  poll : Except String (Option PolledAction)
  action : ActionWorld

/-- What the agent does to the world. -/
inductive AgentEffect where
  | heartbeat (serverId : String)
  | answered (peers : List DesiredPeer)
  | envWritten (file : List Char)
  | envRestarted
  | reconciled (desired : List DesiredPeer) (issued : List Issued)
  | polled
  | restarted
  | reported (actionId status message : String)

structure AgentLoop where
  lastHb : Int
  lastDesired : Int
  lastReconcile : Int
  lastActionsPoll : Int
  desiredPeers : List DesiredPeer
  effects : List AgentEffect

def AgentLoop.start : AgentLoop := ⟨0, 0, 0, 0, [], []⟩

section Loop

variable (unicode : Char → Bool) (config : AgentConfig)

def note (effect : AgentEffect) : Raising AgentLoop String Unit :=
  write (fun loop => { loop with effects := loop.effects ++ [effect] })

/-! ### Heartbeats -/

def heartbeatDue (cycle : AgentCycle) (loop : AgentLoop) : Bool :=
  config.hbInterval ≤ cycle.now - loop.lastHb

/-- Without a container; what the heartbeat raises is passed over. -/
def noContainer (cycle : AgentCycle) : Raising AgentLoop String Unit := do
  let due ← read (heartbeatDue config cycle)
  if due && cycle.bareHeartbeatSent then do
    note (.heartbeat config.serverId)
    write (fun loop => { loop with lastHb := cycle.now })
  else pure ()

/-- The full heartbeat or, if it cannot be sent, a bare one, which may get lost. -/
def sendHeartbeats (cycle : AgentCycle) : List ContainerCandidate → Raising AgentLoop String Unit
  | [] => write (fun loop => { loop with lastHb := cycle.now })
  | container :: rest => do
      if cycle.heartbeatSent container || cycle.bareHeartbeatSent then
        note (.heartbeat (container.serverId unicode))
      else pure ()
      sendHeartbeats cycle rest

def heartbeats (cycle : AgentCycle) (containers : List ContainerCandidate) :
    Raising AgentLoop String Unit := do
  let due ← read (heartbeatDue config cycle)
  if due then sendHeartbeats unicode cycle containers else pure ()

/-! ### Desired peers -/

/-- The periodic fetch takes no list for an empty one. -/
def PeersField.fetched : PeersField → List DesiredPeer
  | listed peers => peers
  | otherIterable => []
  | notIterable _ => []

/-- An action goes through whatever it is given. -/
def PeersField.forAction : PeersField → Except String (List DesiredPeer)
  | listed peers => .ok peers
  | otherIterable => .ok []
  | notIterable typeName => .error ("'" ++ typeName ++ "' object is not iterable")

/-- The call of `_apply_obfuscation_full_to_env`, with the parameters of the container unread. -/
def EnvWorld.call (env : EnvWorld) (rt : AgentRuntime) (answer : DesiredAnswer) :
    SyncOutcome × NodeEnv :=
  syncObfuscation
    { obfuscationFull := answer.obfuscation
      runtimeOk := rt.ok
      readable := env.readable
      writeFailure := env.writeFailure
      restarted := env.restarted
      order := env.order } ⟨env.file, fun _ => none⟩

/-- A file that is written is followed by a restart, whose outcome is not looked at. -/
def applyObfuscation (env : EnvWorld) (rt : AgentRuntime) (answer : DesiredAnswer) :
    Raising AgentLoop String Unit :=
  if config.envPath = "" then pure ()
  else
    match env.call rt answer with
    | (.raised, _) => raise "int()"
    | (.attempted, node) => do
        note (.envWritten node.file)
        if env.writeFailure.isNone then note .envRestarted else pure ()
    | _ => pure ()

def storeDesired (cycle : AgentCycle) (peers : List DesiredPeer) :
    Raising AgentLoop String Unit := do
  note (.answered peers)
  write (fun loop => { loop with desiredPeers := peers, lastDesired := cycle.now })

def fetchDesired (cycle : AgentCycle) (rt : AgentRuntime) : Raising AgentLoop String Unit := do
  let due ← read (fun loop => decide (config.desiredInterval ≤ cycle.now - loop.lastDesired))
  if due then do
    let answer ← query (fun _ => cycle.desired)
    storeDesired cycle answer.peers.fetched
    applyObfuscation config cycle.env rt answer
  else pure ()

/-! ### Reconciling -/

def reconcileCall (container : ContainerCandidate) (rt : AgentRuntime)
    (desired : List DesiredPeer) : ReconcileCall :=
  ⟨container.containerId, config.iface, desired, rt.peers, config.maxMutations, config.readOnly,
    config.allowPruneEmptyDesired⟩

/-- A call of `_reconcile`, with the commands it issued. -/
def callReconcile (container : ContainerCandidate) (rt : AgentRuntime)
    (desired : List DesiredPeer) (exitCode : Nat → Int) : Raising AgentLoop String Unit := do
  let outcome := reconcile (reconcileCall config container rt desired) exitCode
  note (.reconciled desired outcome.issued)
  query (fun _ => match outcome.returned with
    | .ok _ => .ok ()
    | .error error => .error error.message)

def reconcileDue (cycle : AgentCycle) (rt : AgentRuntime) (loop : AgentLoop) : Bool :=
  rt.ok && (loop.lastReconcile = 0 || decide (config.reconcileInterval ≤
    cycle.now - loop.lastReconcile))

def reconcilePeers (cycle : AgentCycle) (container : ContainerCandidate) (rt : AgentRuntime) :
    Raising AgentLoop String Unit := do
  let due ← read (reconcileDue config cycle rt)
  if due then do
    let desired ← read AgentLoop.desiredPeers
    callReconcile config container rt desired cycle.exitCode
    write (fun loop => { loop with lastReconcile := cycle.now })
  else pure ()

/-! ### Actions -/

section Actions

variable (world : ActionWorld) (action : PolledAction)

def report (slot : Nat) (status message : String) : Raising AgentLoop String Unit := do
  note (.reported action.actionId status message)
  query (fun _ => world.delivered slot)

def restartContainer : Raising AgentLoop String Unit := do
  note .restarted
  check (world.restart.1 = 0)
    ("docker restart exited " ++ toString world.restart.1 ++ ": " ++ slice 200 world.restart.2)

/-- `sync` and `apply_peers`. -/
def syncAction (container : ContainerCandidate) (rt : AgentRuntime) :
    Raising AgentLoop String Unit := do
  let answer ← query (fun _ => world.desired)
  let desired ← query (fun _ => answer.peers.forAction)
  note (.answered desired)
  callReconcile config container rt desired world.exitCode
  write (fun loop => { loop with desiredPeers := desired })
  report world action 0 "completed" "ok"

def restartAction : Raising AgentLoop String Unit := do
  restartContainer world
  report world action 0 "completed" "container restarted"

/-- `apply_obfuscation_h`. -/
def headersAction : Raising AgentLoop String Unit :=
  if !action.hasHeaders then report world action 0 "failed" "payload missing h1,h2,h3,h4"
  else if config.envPath = "" then report world action 0 "failed" "AMNEZIA_NODE_ENV_PATH not set"
  else
    attempt (do
      query (fun _ => world.envEdit)
      restartContainer world
      report world action 0 "completed" "obfuscation_h applied, container restarted")
      (fun error => report world action 1 "failed" (slice 300 error))

def carryOut (container : ContainerCandidate) (rt : AgentRuntime) :
    Raising AgentLoop String Unit :=
  let type := orDefault action.type ""
  if type ∈ ["sync", "apply_peers"] then syncAction config world action container rt
  else if type ∈ ["drain", "undrain"] then report world action 0 "completed" "ok"
  else if type = "restart_service" then restartAction world action
  else if type = "apply_profile" then report world action 0 "completed" "ok"
  else if type = "apply_obfuscation_h" then headersAction config world action
  else report world action 0 "completed" "no-op"

/-- What an action raises is reported, and what that raises is passed over. -/
def handleAction (container : ContainerCandidate) (rt : AgentRuntime) :
    Raising AgentLoop String Unit :=
  attempt (carryOut config world action container rt) (fun error =>
    (attempt (report world action 2 "failed" (slice 500 error)) (fun _ => pure ()) :
      Raising AgentLoop String Unit))

end Actions

def pollDue (cycle : AgentCycle) (rt : AgentRuntime) (loop : AgentLoop) : Bool :=
  decide (config.actionsPollInterval ≤ cycle.now - loop.lastActionsPoll) && rt.ok

def pollActions (cycle : AgentCycle) (container : ContainerCandidate) (rt : AgentRuntime) :
    Raising AgentLoop String Unit := do
  let due ← read (pollDue config cycle rt)
  if due then do
    write (fun loop => { loop with lastActionsPoll := cycle.now })
    note .polled
    let polled ← query (fun _ => cycle.poll)
    match polled with
    | none => pure ()
    | some action => handleAction config cycle.action action container rt
  else pure ()

/-! ### The loop -/

/-- A cycle with a primary container. -/
def serveContainer (cycle : AgentCycle) (containers : List ContainerCandidate)
    (primary : ContainerCandidate) : Raising AgentLoop String Unit := do
  heartbeats unicode config cycle containers
  let rt ← query (fun _ => cycle.runtime)
  fetchDesired config cycle rt
  reconcilePeers config cycle primary rt
  pollActions config cycle primary rt

def agentCycle (cycle : AgentCycle) : Raising AgentLoop String Unit := do
  let containers ← query (fun _ => cycle.containers)
  match primaryContainer unicode config.serverId containers with
  | none => noContainer config cycle
  | some primary => serveContainer unicode config cycle containers primary

/-- The loop goes on from what a cycle leaves. -/
def agentStep : AgentLoop → AgentCycle → AgentLoop := leaves (agentCycle unicode config)

/-! ### Lists that were answered -/

/-- The list that an effect reconciles. -/
def AgentEffect.reconciles : AgentEffect → Option (List DesiredPeer)
  | reconciled desired _ => some desired
  | _ => none

/-- Every list that is reconciled was answered before. -/
def AnsweredFirst (effects : List AgentEffect) : Prop :=
  ∀ before effect after desired, effects = before ++ effect :: after →
    effect.reconciles = some desired → .answered desired ∈ before

/-- What every cycle keeps: the stored list was answered, unless none has been. -/
structure Served (loop : AgentLoop) : Prop where
  ordered : AnsweredFirst loop.effects
  stored : loop.lastDesired = 0 ∨ .answered loop.desiredPeers ∈ loop.effects

/-- What holds once the list of a cycle is fetched. -/
structure Ready (loop : AgentLoop) : Prop where
  ordered : AnsweredFirst loop.effects
  stored : .answered loop.desiredPeers ∈ loop.effects

variable {unicode config}

theorem Ready.served {loop : AgentLoop} (ready : Ready loop) : Served loop :=
  ⟨ready.ordered, Or.inr ready.stored⟩

theorem served_start : Served AgentLoop.start := by
  refine ⟨?_, Or.inl rfl⟩
  intro before effect after desired split
  have none : ([] : List AgentEffect) = before ++ effect :: after := split
  simp at none

/-- A further effect keeps the order, if a list that it reconciles was answered. -/
theorem AnsweredFirst.concat {effects : List AgentEffect} (ordered : AnsweredFirst effects)
    {effect : AgentEffect}
    (answered : ∀ desired, effect.reconciles = some desired → .answered desired ∈ effects) :
    AnsweredFirst (effects ++ [effect]) := by
  intro before other after desired split reconciles
  induction after using List.reverseRecOn with
  | nil =>
      rcases List.append_inj' split rfl with ⟨same, last⟩
      rw [← (List.cons.inj last).1] at reconciles
      rw [← same]
      exact answered desired reconciles
  | append_singleton others final _ =>
      have same : effects ++ [effect] = (before ++ other :: others) ++ [final] := by
        rw [split, List.append_assoc]
        rfl
      exact ordered before other others desired (List.append_inj' same rfl).1 reconciles

theorem keeps_note {kept : AgentLoop → Prop} {effect : AgentEffect}
    (holds : ∀ loop, kept loop → kept { loop with effects := loop.effects ++ [effect] }) :
    Keeps kept (note effect) :=
  keeps_write holds

theorem served_note {effect : AgentEffect} (other : effect.reconciles = none) :
    Keeps Served (note effect) := by
  apply keeps_note
  intro loop served
  refine ⟨served.ordered.concat (fun desired same => ?_), ?_⟩
  · rw [other] at same
    cases same
  · rcases served.stored with never | answered
    · exact Or.inl never
    · exact Or.inr (List.mem_append_left _ answered)

theorem ready_note {effect : AgentEffect} (other : effect.reconciles = none) :
    Keeps Ready (note effect) := by
  apply keeps_note
  intro loop ready
  refine ⟨ready.ordered.concat (fun desired same => ?_), List.mem_append_left _ ready.stored⟩
  rw [other] at same
  cases same

theorem served_heartbeats (cycle : AgentCycle) (containers : List ContainerCandidate) :
    Keeps Served (heartbeats unicode config cycle containers) := by
  have sent (listed : List ContainerCandidate) :
      Keeps Served (sendHeartbeats unicode cycle listed) := by
    induction listed with
    | nil =>
        apply keeps_write
        intro loop served
        exact ⟨served.ordered, served.stored⟩
    | cons container rest ih =>
        unfold sendHeartbeats
        split
        · exact (served_note rfl).bind (fun _ => ih)
        · exact (keeps_pure ()).bind (fun _ => ih)
  apply (keeps_query _).bind
  intro due
  cases due with
  | false => exact keeps_pure ()
  | true => exact sent containers

theorem served_noContainer (cycle : AgentCycle) : Keeps Served (noContainer config cycle) := by
  apply (keeps_query _).bind
  intro due
  cases due && cycle.bareHeartbeatSent with
  | false => exact keeps_pure ()
  | true =>
      apply (served_note rfl).bind
      intro _
      apply keeps_write
      intro loop served
      exact ⟨served.ordered, served.stored⟩

theorem keeps_applyObfuscation {kept : AgentLoop → Prop}
    (written : ∀ file, Keeps kept (note (.envWritten file)))
    (restarted : Keeps kept (note .envRestarted)) (env : EnvWorld) (rt : AgentRuntime)
    (answer : DesiredAnswer) : Keeps kept (applyObfuscation config env rt answer) := by
  unfold applyObfuscation
  split
  · exact keeps_pure ()
  · split
    · exact keeps_raise _
    · apply (written _).bind
      intro _
      split
      · exact restarted
      · exact keeps_pure ()
    · exact keeps_pure ()

theorem ready_applyObfuscation (env : EnvWorld) (rt : AgentRuntime) (answer : DesiredAnswer) :
    Keeps Ready (applyObfuscation config env rt answer) :=
  keeps_applyObfuscation (fun _ => ready_note rfl) (ready_note rfl) env rt answer

/-- The list that is answered is the one that is stored. -/
theorem storeDesired_ready (cycle : AgentCycle) (peers : List DesiredPeer) :
    Triple Served (storeDesired cycle peers) (fun _ => Ready) (fun _ => Served) := by
  have noted : Triple Served (note (.answered peers))
      (fun _ loop => AnsweredFirst loop.effects ∧ .answered peers ∈ loop.effects)
      (fun _ => Served) := by
    apply triple_write
    intro loop served
    refine ⟨served.ordered.concat nofun, ?_⟩
    exact List.mem_append_right _ (List.mem_singleton.mpr rfl)
  apply noted.bind
  intro _
  apply triple_write
  intro loop held
  exact ⟨held.1, held.2⟩

/-- After the epoch a list that was never fetched is fetched before anything is reconciled. -/
theorem fetchDesired_ready {cycle : AgentCycle} (rt : AgentRuntime)
    (late : config.desiredInterval ≤ cycle.now) :
    Triple Served (fetchDesired config cycle rt) (fun _ => Ready) (fun _ => Served) := by
  have asked : Triple Served
      (read (fun loop => decide (config.desiredInterval ≤ cycle.now - loop.lastDesired)))
      (fun due loop => Served loop ∧ (due = false → loop.lastDesired ≠ 0))
      (fun (_ : String) => Served) := by
    apply triple_read
    intro loop served
    refine ⟨served, ?_⟩
    intro early never
    have notYet := of_decide_eq_false early
    rw [never] at notYet
    omega
  apply asked.bind
  intro due
  cases due with
  | false =>
      apply triple_pure
      intro loop held
      refine ⟨held.1.ordered, ?_⟩
      rcases held.1.stored with never | answered
      · exact absurd never (held.2 rfl)
      · exact answered
  | true =>
      have answered : Triple (fun loop => Served loop ∧ (true = false → loop.lastDesired ≠ 0))
          (query (fun _ => cycle.desired)) (fun _ => Served) (fun _ => Served) := by
        apply triple_query
        · intro loop answer held _
          exact held.1
        · intro loop error held _
          exact held.1
      apply answered.bind
      intro answer
      apply (storeDesired_ready cycle answer.peers.fetched).bind
      intro _
      exact (ready_applyObfuscation cycle.env rt answer).weaken (fun _ before => before)
        (fun _ _ after => after) (fun _ _ after => after.served)

/-- A list that was answered may be reconciled. -/
theorem ready_callReconcile {desired : List DesiredPeer} (container : ContainerCandidate)
    (rt : AgentRuntime) (exitCode : Nat → Int) :
    Keeps (fun loop => Ready loop ∧ .answered desired ∈ loop.effects)
      (callReconcile config container rt desired exitCode) := by
  apply Keeps.bind
  · apply keeps_note
    intro loop held
    refine ⟨⟨held.1.ordered.concat (fun other same => ?_),
      List.mem_append_left _ held.1.stored⟩, List.mem_append_left _ held.2⟩
    cases same
    exact held.2
  · intro _
    exact keeps_query _

theorem ready_reconcilePeers (cycle : AgentCycle) (container : ContainerCandidate)
    (rt : AgentRuntime) : Keeps Ready (reconcilePeers config cycle container rt) := by
  apply (keeps_query _).bind
  intro due
  cases due with
  | false => exact keeps_pure ()
  | true =>
      have stored : Triple Ready (read AgentLoop.desiredPeers)
          (fun desired loop => Ready loop ∧ .answered desired ∈ loop.effects)
          (fun (_ : String) => Ready) := by
        apply triple_read
        intro loop ready
        exact ⟨ready, ready.stored⟩
      apply stored.bind
      intro desired
      have reconciled : Triple (fun loop => Ready loop ∧ .answered desired ∈ loop.effects)
          (callReconcile config container rt desired cycle.exitCode) (fun _ => Ready)
          (fun _ => Ready) :=
        (ready_callReconcile container rt cycle.exitCode).weaken (fun _ before => before)
          (fun _ _ after => after.1) (fun _ _ after => after.1)
      apply reconciled.bind
      intro _
      apply triple_write
      intro loop ready
      exact ⟨ready.ordered, ready.stored⟩

theorem ready_report (world : ActionWorld) (action : PolledAction) (slot : Nat)
    (status message : String) : Keeps Ready (report world action slot status message) :=
  (ready_note rfl).bind (fun _ => keeps_query _)

theorem ready_restart (world : ActionWorld) : Keeps Ready (restartContainer world) :=
  (ready_note rfl).bind (fun _ => keeps_check _ _)

theorem ready_syncAction (world : ActionWorld) (action : PolledAction)
    (container : ContainerCandidate) (rt : AgentRuntime) :
    Keeps Ready (syncAction config world action container rt) := by
  apply (keeps_query _).bind
  intro answer
  apply (keeps_query _).bind
  intro desired
  have noted : Triple Ready (note (.answered desired))
      (fun _ loop => Ready loop ∧ .answered desired ∈ loop.effects) (fun _ => Ready) := by
    apply triple_write
    intro loop ready
    have later : Keeps Ready (note (.answered desired)) := ready_note rfl
    exact ⟨later.leaves ready, List.mem_append_right _ (List.mem_singleton.mpr rfl)⟩
  apply noted.bind
  intro _
  have reconciled : Triple (fun loop => Ready loop ∧ .answered desired ∈ loop.effects)
      (callReconcile config container rt desired world.exitCode)
      (fun _ loop => Ready loop ∧ .answered desired ∈ loop.effects) (fun _ => Ready) :=
    (ready_callReconcile container rt world.exitCode).weaken (fun _ before => before)
      (fun _ _ after => after) (fun _ _ after => after.1)
  apply reconciled.bind
  intro _
  have stored : Triple (fun loop => Ready loop ∧ .answered desired ∈ loop.effects)
      (write (fun loop => { loop with desiredPeers := desired })) (fun _ => Ready)
      (fun (_ : String) => Ready) := by
    apply triple_write
    intro loop held
    exact ⟨held.1.ordered, held.2⟩
  apply stored.bind
  intro _
  exact ready_report world action 0 "completed" "ok"

theorem ready_headersAction (world : ActionWorld) (action : PolledAction) :
    Keeps Ready (headersAction config world action) := by
  unfold headersAction
  split
  · exact ready_report world action 0 _ _
  · split
    · exact ready_report world action 0 _ _
    · apply Keeps.attempt
      · apply (keeps_query _).bind
        intro _
        apply (ready_restart world).bind
        intro _
        exact ready_report world action 0 _ _
      · intro error
        exact ready_report world action 1 _ _

theorem ready_handleAction (world : ActionWorld) (action : PolledAction)
    (container : ContainerCandidate) (rt : AgentRuntime) :
    Keeps Ready (handleAction config world action container rt) := by
  apply Keeps.attempt
  · unfold carryOut
    dsimp only
    split
    · exact ready_syncAction world action container rt
    · split
      · exact ready_report world action 0 _ _
      · split
        · exact (ready_restart world).bind (fun _ => ready_report world action 0 _ _)
        · split
          · exact ready_report world action 0 _ _
          · split
            · exact ready_headersAction world action
            · exact ready_report world action 0 _ _
  · intro error
    exact (ready_report world action 2 _ _).attempt (fun _ => keeps_pure ())

theorem ready_pollActions (cycle : AgentCycle) (container : ContainerCandidate)
    (rt : AgentRuntime) : Keeps Ready (pollActions config cycle container rt) := by
  apply (keeps_query _).bind
  intro due
  cases due with
  | false => exact keeps_pure ()
  | true =>
      apply Keeps.bind
      · apply keeps_write
        intro loop ready
        exact ⟨ready.ordered, ready.stored⟩
      · intro _
        apply (ready_note rfl).bind
        intro _
        apply (keeps_query _).bind
        intro polled
        cases polled with
        | none => exact keeps_pure ()
        | some action => exact ready_handleAction cycle.action action container rt

theorem served_agentCycle {cycle : AgentCycle} (late : config.desiredInterval ≤ cycle.now) :
    Keeps Served (agentCycle unicode config cycle) := by
  apply (keeps_query _).bind
  intro containers
  cases primaryContainer unicode config.serverId containers with
  | none => exact served_noContainer cycle
  | some primary =>
      apply (served_heartbeats cycle containers).bind
      intro _
      apply (keeps_query _).bind
      intro rt
      apply (fetchDesired_ready rt late).bind
      intro _
      have reconciled : Triple Ready (reconcilePeers config cycle primary rt) (fun _ => Ready)
          (fun _ => Served) :=
        (ready_reconcilePeers cycle primary rt).weaken (fun _ before => before)
          (fun _ _ after => after) (fun _ _ after => after.served)
      apply reconciled.bind
      intro _
      exact (ready_pollActions cycle primary rt).weaken (fun _ before => before)
        (fun _ _ after => after.served) (fun _ _ after => after.served)

/-- In a run of the agent no list is reconciled that the control plane has not answered with. -/
theorem reconciled_lists_were_answered (unicode : Char → Bool) (config : AgentConfig)
    {cycles : List AgentCycle} (late : ∀ cycle ∈ cycles, config.desiredInterval ≤ cycle.now) :
    AnsweredFirst (cycles.foldl (agentStep unicode config) AgentLoop.start).effects := by
  have kept : Served (cycles.foldl (agentStep unicode config) AgentLoop.start) :=
    foldl_of_keeps (fun cycle member => served_agentCycle (late cycle member)) served_start
  exact kept.ordered

end Loop

def sampleAgent : AgentConfig :=
  { serverId := "amnezia-awg", iface := "awg0", allowPruneEmptyDesired := "", envPath := ""
    hbInterval := 10, desiredInterval := 10, reconcileInterval := 60, actionsPollInterval := 10
    maxMutations := 10, readOnly := false }

def sampleActionWorld : ActionWorld :=
  { desired := .ok ⟨.listed (aliceDesired none), none⟩, exitCode := fun _ => 0, restart := (0, "")
    envEdit := .ok (), delivered := fun _ => .ok () }

/-- An env file that cannot be read. -/
def unreadableEnv : EnvWorld :=
  { file := [], readable := false, writeFailure := none, restarted := false
    order := ⟨envKeys, .refl _⟩ }

/-- A cycle in which the control plane answers with the list and has no action. -/
def sampleCycle (now : Int) (peers : List DesiredPeer) : AgentCycle :=
  { now := now, containers := .ok [sampleContainer "amnezia-awg"]
    heartbeatSent := fun _ => true, bareHeartbeatSent := true, runtime := .ok ⟨true, []⟩
    desired := .ok ⟨.listed peers, none⟩, env := unreadableEnv, exitCode := fun _ => 0
    poll := .ok none, action := sampleActionWorld }

/-- Alice is reconciled once she has been answered. -/
theorem alice_is_answered_first :
    AnsweredFirst ([sampleCycle 100 (aliceDesired none), sampleCycle 200 []].foldl
        (agentStep (fun _ => false) sampleAgent) AgentLoop.start).effects ∧
      ([sampleCycle 100 (aliceDesired none), sampleCycle 200 []].foldl
        (agentStep (fun _ => false) sampleAgent) AgentLoop.start).effects.filterMap
          AgentEffect.reconciles = [aliceDesired none, []] :=
  ⟨reconciled_lists_were_answered (fun _ => false) sampleAgent (by decide), by decide +kernel⟩

end VpnSuite.Agent
