/-
Pausing and resuming servers by their health (`AgentNodeRuntimeAdapter.discover_nodes` in
`services/node_runtime_agent.py` and `_sync_server_provisioning_state` in
`services/control_plane_service.py`).

A cycle discovers the nodes of the active servers from their heartbeats, pauses the unhealthy
and resumes the others.  An active server without a heartbeat makes the discovery raise; the
loop catches it, and nothing changes.  Scores and thresholds are rationals.  The classification
and its evidence, and the time of the heartbeat, are left out.
-/

import VpnSuite.Foundations.CheckedPasses
import VpnSuite.Foundations.OrderedDict
import VpnSuite.Foundations.PythonText
import VpnSuite.Foundations.StepRuns
import Mathlib.Data.Rat.Defs

set_option autoImplicit false

namespace VpnSuite.ControlPlane

open Foundations
open Foundations.PythonText (orDefault)

/-! ### Servers, heartbeats and nodes -/

/-- A row of `servers`, under its id. -/
structure RegisteredServer where
  name : String
  publicKey : Option String
  status : String
  isActive : Bool
  maxConnections : Option Int
  healthScore : Option Rat
  isDraining : Bool
  deriving DecidableEq, Repr

/-- A heartbeat with the keys that it has; no empty one is stored. -/
structure AgentHeartbeat where
  containerName : Option String
  containerId : Option String
  hostId : Option String
  interfaceName : Option String
  publicKey : Option String
  listenPort : Option Int
  peerCount : Option Int
  totalRxBytes : Option Int
  totalTxBytes : Option Int
  status : Option String
  healthScore : Option Rat
  deriving DecidableEq, Repr

/-- The heartbeats that Redis has, by server. -/
abbrev Heartbeats := String → Option AgentHeartbeat

structure DiscoveredNode where
  nodeId : String
  containerName : String
  containerId : String
  hostId : Option String
  interfaceName : String
  publicKey : String
  listenPort : Int
  peerCount : Int
  totalRxBytes : Int
  totalTxBytes : Int
  status : String
  healthScore : Rat
  maxPeers : Int
  isDraining : Bool
  deriving DecidableEq, Repr

/-! ### Discovery -/

/-- `value or other` of a number. -/
def numberOr (value : Option Int) (other : Int) : Int :=
  match value with
  | none => other
  | some number => if number = 0 then other else number

/-- The node of a server; `hb.get` raises an `AttributeError` when there is no heartbeat. -/
def discoverNode (serverId : String) (server : RegisteredServer) :
    Option AgentHeartbeat → Except String DiscoveredNode
  | none => .error "'NoneType' object has no attribute 'get'"
  | some hb => .ok
      { nodeId := serverId
        containerName := orDefault hb.containerName server.name
        containerId := orDefault hb.containerId ""
        hostId := some (orDefault hb.hostId "None")
        interfaceName := orDefault hb.interfaceName "awg0"
        publicKey := orDefault hb.publicKey (orDefault server.publicKey "")
        listenPort := numberOr hb.listenPort 0
        peerCount := numberOr hb.peerCount 0
        totalRxBytes := numberOr hb.totalRxBytes 0
        totalTxBytes := numberOr hb.totalTxBytes 0
        status := orDefault hb.status (orDefault (some server.status) "unknown")
        healthScore := hb.healthScore.getD (server.healthScore.getD 0)
        maxPeers := numberOr server.maxConnections 1000
        isDraining := server.isDraining }

/-- `discover_nodes`, which reads the active servers. -/
def discoverNodes (servers : Dict String RegisteredServer) (heartbeats : Heartbeats) :
    Except String (List DiscoveredNode) :=
  (servers.entries.filter (fun entry => entry.2.isActive)).mapM (fun entry =>
    discoverNode entry.1 entry.2 (heartbeats entry.1))

/-! ### Pausing and resuming -/

/-- The servers with the numbers of those that were paused and resumed. -/
structure Provisioning where
  servers : Dict String RegisteredServer
  paused : Nat
  resumed : Nat

def isUnhealthy (threshold : Rat) (node : DiscoveredNode) : Bool :=
  node.status = "unhealthy" ∨ node.healthScore < threshold

def resumableStatuses : List String := ["healthy", "degraded", "unknown"]

/-- The body of the loop: a server that was just paused is not resumed, for its node is
unhealthy. -/
def syncNode (threshold : Rat) (state : Provisioning) (node : DiscoveredNode) : Provisioning :=
  match state.servers.get? node.nodeId with
  | none => state
  | some server =>
      let pauses : Bool := isUnhealthy threshold node && server.isActive
      let active := if pauses then false else server.isActive
      let resumes : Bool :=
        !isUnhealthy threshold node && decide (node.status ∈ resumableStatuses) && !active
      { servers := state.servers.set node.nodeId
          { server with isActive := if resumes then true else active }
        paused := state.paused + if pauses then 1 else 0
        resumed := state.resumed + if resumes then 1 else 0 }

/-- `_sync_server_provisioning_state`. -/
def syncServerProvisioningState (threshold : Rat) (servers : Dict String RegisteredServer)
    (nodes : List DiscoveredNode) : Provisioning :=
  nodes.foldl (syncNode threshold) ⟨servers, 0, 0⟩

/-- A cycle of the automation. -/
def automationCycle (threshold : Rat) (servers : Dict String RegisteredServer)
    (heartbeats : Heartbeats) : Dict String RegisteredServer :=
  match discoverNodes servers heartbeats with
  | .error _ => servers
  | .ok nodes => (syncServerProvisioningState threshold servers nodes).servers

/-! ### What a cycle leaves alone -/

def isActiveIn (servers : Dict String RegisteredServer) (serverId : String) : Bool :=
  (servers.get? serverId).any RegisteredServer.isActive

section Cycles

variable {threshold : Rat} {servers : Dict String RegisteredServer} {heartbeats : Heartbeats}
  {serverId : String}

/-- Only active servers are discovered. -/
theorem discoverNodes_active {nodes : List DiscoveredNode}
    (discovered : discoverNodes servers heartbeats = .ok nodes) {node : DiscoveredNode}
    (member : node ∈ nodes) : isActiveIn servers node.nodeId = true := by
  obtain ⟨⟨serverId, server⟩, selected, read⟩ := mem_of_mapM discovered member
  obtain ⟨stored, active⟩ := List.mem_filter.mp selected
  have sameId : node.nodeId = serverId := by
    dsimp only at read
    cases found : heartbeats serverId with
    | none =>
        rw [found] at read
        cases read
    | some hb =>
        rw [found] at read
        obtain rfl := Except.ok.inj read
        rfl
  rw [sameId, isActiveIn, (servers.mem_entries_iff serverId server).mp stored]
  exact active

theorem syncNode_other {state : Provisioning} {node : DiscoveredNode}
    (other : serverId ≠ node.nodeId) :
    (syncNode threshold state node).servers.get? serverId = state.servers.get? serverId := by
  unfold syncNode
  cases state.servers.get? node.nodeId with
  | none => rfl
  | some server =>
      dsimp only
      rw [Dict.get?_set, if_neg other]

theorem syncServerProvisioningState_other {nodes : List DiscoveredNode}
    (others : ∀ node ∈ nodes, serverId ≠ node.nodeId) :
    (syncServerProvisioningState threshold servers nodes).servers.get? serverId =
      servers.get? serverId := by
  have fromState : ∀ state : Provisioning,
      (nodes.foldl (syncNode threshold) state).servers.get? serverId =
        state.servers.get? serverId := by
    induction nodes with
    | nil => exact fun state => rfl
    | cons node rest ih =>
        intro state
        rw [List.foldl_cons, ih (fun other member => others other (List.mem_cons_of_mem node member)),
          syncNode_other (others node List.mem_cons_self)]
  exact fromState ⟨servers, 0, 0⟩

/-- A cycle does not touch an inactive server. -/
theorem inactive_stays (inactive : isActiveIn servers serverId = false) :
    isActiveIn (automationCycle threshold servers heartbeats) serverId = false := by
  unfold automationCycle
  cases discovered : discoverNodes servers heartbeats with
  | error error => exact inactive
  | ok nodes =>
      have others : ∀ node ∈ nodes, serverId ≠ node.nodeId := by
        rintro node member rfl
        rw [discoverNodes_active discovered member] at inactive
        cases inactive
      dsimp only
      rw [isActiveIn, syncServerProvisioningState_other others]
      exact inactive

theorem inactive_stays_run (cycles : List Heartbeats) (inactive : isActiveIn servers serverId = false) :
    isActiveIn (cycles.foldl (automationCycle threshold) servers) serverId = false := by
  induction cycles generalizing servers with
  | nil => exact inactive
  | cons heartbeats rest ih => exact ih (inactive_stays inactive)

end Cycles

/-! ### Whether a paused server is resumed -/

section Runs

variable (threshold : Rat) (start : Dict String RegisteredServer) (cycles : List Heartbeats)

def afterCycles : Dict String RegisteredServer := cycles.foldl (automationCycle threshold) start

/-- The cycle after these pauses the server. -/
def Pauses (earlier : List Heartbeats) (pausing : Heartbeats) (serverId : String) : Prop :=
  isActiveIn (afterCycles threshold start earlier) serverId = true ∧
    isActiveIn (afterCycles threshold start (earlier ++ [pausing])) serverId = false

/-- A heartbeat of a healthy or degraded server with a good score. -/
def Recovered (heartbeats : Heartbeats) (serverId : String) : Prop :=
  ∃ hb score, heartbeats serverId = some hb ∧
    (hb.status = some "healthy" ∨ hb.status = some "degraded") ∧ hb.healthScore = some score ∧
    threshold ≤ score

/-- A server that a cycle has paused is active after every later cycle in which it has
recovered. -/
def ResumesPaused : Prop :=
  ∀ earlier pausing between resuming later serverId,
    cycles = earlier ++ pausing :: (between ++ resuming :: later) →
    Pauses threshold start earlier pausing serverId → Recovered threshold resuming serverId →
    isActiveIn (afterCycles threshold start (earlier ++ pausing :: (between ++ [resuming])))
      serverId = true

variable {threshold start cycles} in
/-- Once inactive, a server stays so. -/
theorem stays_inactive {earlier : List Heartbeats} {serverId : String}
    (inactive : isActiveIn (afterCycles threshold start earlier) serverId = false)
    (more : List Heartbeats) :
    isActiveIn (afterCycles threshold start (earlier ++ more)) serverId = false := by
  have run : afterCycles threshold start (earlier ++ more) =
      more.foldl (automationCycle threshold) (afterCycles threshold start earlier) :=
    List.foldl_append
  rw [run]
  exact inactive_stays_run more inactive

/-- Paused servers are resumed exactly when there is nothing to resume: no cycle finds a recovered
server that was active at the start and is not any more. -/
theorem resumes_paused_iff :
    ResumesPaused threshold start cycles ↔
      EveryStep (automationCycle threshold) start cycles (fun servers heartbeats =>
        ∀ serverId, isActiveIn start serverId = true → Recovered threshold heartbeats serverId →
          isActiveIn servers serverId = true) := by
  constructor
  · intro resumes earlier heartbeats later split serverId atStart recovered
    by_contra paused
    have inactive : isActiveIn (afterCycles threshold start earlier) serverId = false :=
      Bool.not_eq_true _ ▸ paused
    obtain ⟨before, pausing, between, isSplit, active, left⟩ :
        ∃ before pausing between, earlier = before ++ pausing :: between ∧
          isActiveIn (before.foldl (automationCycle threshold) start) serverId = true ∧
          ¬ isActiveIn (automationCycle threshold
            (before.foldl (automationCycle threshold) start) pausing) serverId = true :=
      exists_leaving_step (fun servers => isActiveIn servers serverId = true) atStart paused
    have pauses : Pauses threshold start before pausing serverId := by
      refine ⟨active, ?_⟩
      rw [afterCycles, List.foldl_append]
      exact Bool.not_eq_true _ ▸ left
    have resumed := resumes before pausing between heartbeats later serverId
      (by rw [split, isSplit, List.append_assoc, List.cons_append]) pauses recovered
    have whole : before ++ pausing :: (between ++ [heartbeats]) = earlier ++ [heartbeats] := by
      rw [isSplit, List.append_assoc, List.cons_append]
    rw [whole, stays_inactive inactive] at resumed
    cases resumed
  · intro every earlier pausing between resuming later serverId split pauses recovered
    exfalso
    have atStart : isActiveIn start serverId = true := by
      by_contra notInitially
      have initially : isActiveIn (afterCycles threshold start []) serverId = false :=
        Bool.not_eq_true _ ▸ notInitially
      have active := pauses.1
      rw [show earlier = [] ++ earlier from rfl, stays_inactive initially] at active
      cases active
    have before : isActiveIn (afterCycles threshold start (earlier ++ pausing :: between)) serverId =
        true :=
      every (earlier ++ pausing :: between) resuming later
        (by rw [split, List.append_assoc, List.cons_append]) serverId atStart recovered
    have whole : earlier ++ pausing :: between = (earlier ++ [pausing]) ++ between := by simp
    rw [whole, stays_inactive pauses.2] at before
    cases before

end Runs

/-! ### A server that recovers -/

def sampleAgentServers : Dict String RegisteredServer :=
  Dict.ofList [("node-1", ⟨"node-1", none, "unknown", true, none, none, false⟩)]

def sampleHeartbeats (status : String) (score : Rat) : Heartbeats := fun serverId =>
  if serverId = "node-1" then
    some ⟨some "amnezia-awg", none, none, none, none, none, none, none, none, some status, some score⟩
  else none

/-- A server that is unhealthy in one cycle and healthy in the next one stays paused. -/
theorem recovered_server_stays_paused :
    ¬ ResumesPaused (1 / 2) sampleAgentServers
      [sampleHeartbeats "unhealthy" (1 / 10), sampleHeartbeats "healthy" 1] := by
  intro resumes
  have resumed := resumes [] (sampleHeartbeats "unhealthy" (1 / 10)) [] (sampleHeartbeats "healthy" 1)
    [] "node-1" rfl (by unfold Pauses; decide +kernel)
    ⟨_, 1, rfl, Or.inl rfl, rfl, by decide +kernel⟩
  exact absurd resumed (by decide +kernel)

end VpnSuite.ControlPlane
