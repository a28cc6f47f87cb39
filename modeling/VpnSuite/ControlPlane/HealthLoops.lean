/-
The health checks and the automation side by side, with the agents' adapter
(`core/health_check_task.py`, `core/control_plane_automation_task.py`).

The health checks switch on whatever sends heartbeats; the automation switches off what says in
its heartbeat that it is sick, and never switches on what is off.  While every server reports, a
server is as the last step left it that had anything to say about it.

Steps of the two loops come in any order.  The heartbeats are those that Redis has at the step.
A cycle of the automation is one that rebuilds the topology, for want of a cached one.
-/

import VpnSuite.ControlPlane.HealthChecks

set_option autoImplicit false

namespace VpnSuite.ControlPlane

open Foundations
open Foundations.PythonText (orDefault orDefault_empty)

/-- A round of the health checks, or a cycle that finds no topology in the cache. -/
inductive LoopStep where
  | healthRound (instant : String → Int) (heartbeats : Heartbeats)
  | automation (heartbeats : Heartbeats)

def LoopStep.heartbeats : LoopStep → Heartbeats
  | healthRound _ heartbeats => heartbeats
  | automation heartbeats => heartbeats

def loopStep (limit : Nat) (threshold : Rat) (db : HealthDb) : LoopStep → HealthDb
  | .healthRound instant heartbeats =>
      runOnce limit db ⟨instant, fun serverId => some (agentHealthCheck heartbeats serverId)⟩
  | .automation heartbeats => ⟨automationCycle threshold db.servers heartbeats, db.logs⟩

/-- A heartbeat as the agents send it: with a status and a score. -/
def Reports (heartbeats : Heartbeats) (serverId : String) : Prop :=
  ∃ hb status score, heartbeats serverId = some hb ∧ hb.status = some status ∧ status ≠ "" ∧
    hb.healthScore = some score

/-- What a server says of itself is that it is sick. -/
def isSick (threshold : Rat) (heartbeats : Heartbeats) (serverId : String) : Bool :=
  (heartbeats serverId).any (fun hb =>
    decide (hb.status = some "unhealthy") || hb.healthScore.any (fun score => score < threshold))

/-- What a step has to say about a server that reports. -/
def verdict (threshold : Rat) (serverId : String) : LoopStep → Option Bool
  | .healthRound _ _ => some true
  | .automation heartbeats => if isSick threshold heartbeats serverId then some false else none

section Cycle

variable {threshold : Rat} {heartbeats : Heartbeats} {servers : Dict String RegisteredServer}

/-- What a cycle does to the row of a node. -/
def syncedRow (threshold : Rat) (node : DiscoveredNode) (row : Option RegisteredServer) :
    Option RegisteredServer :=
  row.map (fun server =>
    let pauses : Bool := isUnhealthy threshold node && server.isActive
    let active := if pauses then false else server.isActive
    let resumes : Bool :=
      !isUnhealthy threshold node && decide (node.status ∈ resumableStatuses) && !active
    { server with isActive := if resumes then true else active })

theorem syncNode_keyed :
    KeyedStep (fun (state : Provisioning) serverId => state.servers.get? serverId)
      DiscoveredNode.nodeId (syncedRow threshold) (syncNode threshold) where
  own := by
    intro state node
    unfold syncNode syncedRow
    cases stored : state.servers.get? node.nodeId with
    | none => exact stored
    | some server =>
        dsimp only
        rw [Dict.get?_set, if_pos rfl]
        rfl
  frame := by
    intro state node serverId apart
    exact syncNode_other apart

theorem discoverNode_id {serverId : String} {server : RegisteredServer}
    {hb : Option AgentHeartbeat} {node : DiscoveredNode}
    (read : discoverNode serverId server hb = .ok node) : node.nodeId = serverId := by
  cases hb with
  | none => cases read
  | some hb =>
      cases Except.ok.inj read
      rfl

/-- A discovery that succeeds has one node for each active server. -/
theorem discovered_nodes {nodes : List DiscoveredNode}
    (discovered : discoverNodes servers heartbeats = .ok nodes) :
    (nodes.map DiscoveredNode.nodeId).Nodup ∧
      ∀ serverId server, servers.get? serverId = some server → server.isActive = true →
        ∃ node ∈ nodes, discoverNode serverId server (heartbeats serverId) = .ok node := by
  unfold discoverNodes at discovered
  have related := mapM_eq_ok_iff.mp discovered
  have ids : nodes.map DiscoveredNode.nodeId =
      (servers.entries.filter (fun entry => entry.2.isActive)).map Prod.fst := by
    clear discovered
    generalize servers.entries.filter (fun entry => entry.2.isActive) = selected at related
    induction related with
    | nil => rfl
    | cons here later ih => rw [List.map_cons, List.map_cons, ih, discoverNode_id here]
  constructor
  · rw [ids]
    exact servers.map_filter_nodup _
  · intro serverId server stored active
    have listed : (serverId, server) ∈
        servers.entries.filter (fun entry => entry.2.isActive) :=
      List.mem_filter.mpr ⟨(servers.mem_entries_iff serverId server).mpr stored, active⟩
    clear discovered ids
    generalize servers.entries.filter (fun entry => entry.2.isActive) = selected at related listed
    induction related with
    | nil => cases listed
    | cons here later ih =>
        rcases List.mem_cons.mp listed with same | inside
        · rw [← same] at here
          exact ⟨_, List.mem_cons_self, here⟩
        · rcases ih inside with ⟨node, member, read⟩
          exact ⟨node, List.mem_cons_of_mem _ member, read⟩

theorem unhealthy_iff_sick {serverId : String} {server : RegisteredServer}
    {node : DiscoveredNode} (reports : Reports heartbeats serverId)
    (read : discoverNode serverId server (heartbeats serverId) = .ok node) :
    isUnhealthy threshold node = isSick threshold heartbeats serverId := by
  rcases reports with ⟨hb, status, score, found, said, nonempty, scored⟩
  unfold isSick
  rw [found] at read ⊢
  cases Except.ok.inj read
  have kept : orDefault (some status) (orDefault (some server.status) "unknown") = status :=
    if_neg nonempty
  unfold isUnhealthy
  simp only [said, scored, kept, Option.any_some, Option.getD_some, Option.some.injEq,
    Bool.decide_or]

/-- While every server reports, a cycle switches off the ones that are sick, and nothing else. -/
theorem isActiveIn_automationCycle {serverId : String}
    (reporting : ∀ other ∈ servers.keys, Reports heartbeats other) :
    isActiveIn (automationCycle threshold servers heartbeats) serverId =
      (isActiveIn servers serverId && !isSick threshold heartbeats serverId) := by
  cases active : isActiveIn servers serverId with
  | false => rw [inactive_stays active, Bool.false_and]
  | true =>
      rw [Bool.true_and]
      have reads : ∀ entry ∈ servers.entries.filter (fun entry => entry.2.isActive),
          ∃ node, discoverNode entry.1 entry.2 (heartbeats entry.1) = .ok node := by
        intro entry member
        have listed : entry.1 ∈ servers.keys :=
          List.mem_map_of_mem (List.mem_of_mem_filter member)
        rcases reporting entry.1 listed with ⟨hb, _, _, found, _, _, _⟩
        rw [found]
        exact ⟨_, rfl⟩
      rcases exists_mapM_ok reads with ⟨nodes, discovered⟩
      rcases discovered_nodes discovered with ⟨distinct, nodeOf⟩
      cases stored : servers.get? serverId with
      | none =>
          rw [isActiveIn, stored] at active
          cases active
      | some server =>
          rw [isActiveIn, stored] at active
          rcases nodeOf serverId server stored active with ⟨node, member, read⟩
          have row := (@syncNode_keyed threshold).foldl_own nodes distinct
            (⟨servers, 0, 0⟩ : Provisioning) member
          rw [discoverNode_id read] at row
          dsimp only at row
          have cycle : automationCycle threshold servers heartbeats =
              (syncServerProvisioningState threshold servers nodes).servers := by
            unfold automationCycle
            have found : discoverNodes servers heartbeats = .ok nodes := discovered
            rw [found]
          have switchedOn : server.isActive = true := active
          rw [isActiveIn, cycle, syncServerProvisioningState, row, stored]
          unfold syncedRow
          rw [unhealthy_iff_sick (reporting serverId (servers.mem_keys_of_get? stored)) read]
          cases isSick threshold heartbeats serverId with
          | false => simp [switchedOn]
          | true => simp

theorem keys_automationCycle :
    (automationCycle threshold servers heartbeats).keys = servers.keys := by
  have synced (nodes : List DiscoveredNode) (state : Provisioning) :
      (nodes.foldl (syncNode threshold) state).servers.keys = state.servers.keys := by
    induction nodes generalizing state with
    | nil => rfl
    | cons node rest ih =>
        rw [List.foldl_cons, ih]
        unfold syncNode
        cases stored : state.servers.get? node.nodeId with
        | none => rfl
        | some server =>
            dsimp only
            rw [Dict.keys_set, if_pos (Dict.mem_keys_of_get? stored)]
  unfold automationCycle
  cases discoverNodes servers heartbeats with
  | error error => rfl
  | ok nodes => exact synced nodes ⟨servers, 0, 0⟩

end Cycle

section Loops

variable {limit : Nat} {threshold : Rat}

theorem keys_runOnce {round : HealthRound} (db : HealthDb) :
    (runOnce limit db round).servers.keys = db.servers.keys := by
  have checked (serverIds : List String) (state : HealthDb) :
      (serverIds.foldl (checkServer limit round) state).servers.keys = state.servers.keys := by
    induction serverIds generalizing state with
    | nil => rfl
    | cons serverId rest ih =>
        rw [List.foldl_cons, ih]
        unfold checkServer
        cases stored : state.servers.get? serverId with
        | none => rfl
        | some server =>
            cases round.answer serverId with
            | none => rfl
            | some answer =>
                unfold runHealthCheck
                dsimp only
                rw [Dict.keys_set, if_pos (Dict.mem_keys_of_get? stored)]
  exact checked db.servers.keys db

theorem keys_loopStep (db : HealthDb) (step : LoopStep) :
    (loopStep limit threshold db step).servers.keys = db.servers.keys := by
  cases step with
  | healthRound instant heartbeats => exact keys_runOnce db
  | automation heartbeats => exact keys_automationCycle

theorem isActiveIn_healthRound {db : HealthDb} {serverId : String} (instant : String → Int)
    {heartbeats : Heartbeats} (registered : serverId ∈ db.servers.keys)
    (reports : Reports heartbeats serverId) :
    isActiveIn (loopStep limit threshold db (.healthRound instant heartbeats)).servers serverId =
      true := by
  rcases (db.servers.mem_keys_iff serverId).mp registered with ⟨server, stored⟩
  rcases reports with ⟨hb, _, _, found, _, _, _⟩
  have answered : (some (agentHealthCheck heartbeats serverId)) =
      some (⟨some "ok", none, some true⟩ : HealthAnswer) := by
    unfold agentHealthCheck
    rw [found]
  have row := congrArg Prod.fst (@runOnce_answered limit serverId db
    ⟨instant, fun other => some (agentHealthCheck heartbeats other)⟩ server _ stored answered)
  have after : (loopStep limit threshold db (.healthRound instant heartbeats)).servers.get?
      serverId = _ := row
  rw [isActiveIn, after]
  rfl

/-- A step leaves a server that reports as it says, or as it was. -/
theorem isActiveIn_loopStep {db : HealthDb} {serverId : String} (step : LoopStep)
    (registered : serverId ∈ db.servers.keys)
    (reporting : ∀ other ∈ db.servers.keys, Reports step.heartbeats other) :
    isActiveIn (loopStep limit threshold db step).servers serverId =
      (verdict threshold serverId step).getD (isActiveIn db.servers serverId) := by
  cases step with
  | healthRound instant heartbeats =>
      exact isActiveIn_healthRound instant registered (reporting serverId registered)
  | automation heartbeats =>
      have cycle := @isActiveIn_automationCycle threshold heartbeats db.servers serverId reporting
      unfold loopStep verdict
      dsimp only
      rw [cycle]
      cases isSick threshold heartbeats serverId with
      | false => rw [Bool.not_false, Bool.and_true]; rfl
      | true => rw [Bool.not_true, Bool.and_false]; rfl

/-- While every server reports, each is as the last verdict of the two loops left it. -/
theorem active_as_last_verdict {db : HealthDb} {serverId : String} (limit : Nat)
    (threshold : Rat) (steps : List LoopStep) (registered : serverId ∈ db.servers.keys)
    (reporting : ∀ step ∈ steps, ∀ other ∈ db.servers.keys, Reports step.heartbeats other) :
    isActiveIn (steps.foldl (loopStep limit threshold) db).servers serverId =
      ((steps.filterMap (verdict threshold serverId)).getLast?).getD
        (isActiveIn db.servers serverId) := by
  induction steps generalizing db with
  | nil => rfl
  | cons step rest ih =>
      have keys := @keys_loopStep limit threshold db step
      have here := reporting step List.mem_cons_self
      have later : ∀ other ∈ rest, ∀ key ∈ (loopStep limit threshold db step).servers.keys,
          Reports other.heartbeats key := by
        intro other member key listed
        rw [keys] at listed
        exact reporting other (List.mem_cons_of_mem step member) key listed
      rw [List.foldl_cons, ih (by rw [keys]; exact registered) later,
        isActiveIn_loopStep step registered here]
      cases said : verdict threshold serverId step with
      | none => rw [List.filterMap_cons_none said]; rfl
      | some active =>
          rw [List.filterMap_cons_some said, List.getLast?_cons]
          rfl

end Loops

/-! ### A sick server -/

def sampleHealthDb : HealthDb := ⟨sampleAgentServers, []⟩

/-- Paused by the automation, a sick server is back with the next health check. -/
theorem sick_server_is_switched_on :
    isActiveIn ([LoopStep.automation (sampleHeartbeats "unhealthy" 0),
        .healthRound (fun _ => 60) (sampleHeartbeats "unhealthy" 0)].foldl
          (loopStep 3 (1 / 2)) sampleHealthDb).servers "node-1" = true := by
  rw [active_as_last_verdict 3 (1 / 2) _ (by decide)]
  · rfl
  · intro step member other registered
    have own : other = "node-1" := List.mem_singleton.mp registered
    subst own
    have heartbeats : step.heartbeats = sampleHeartbeats "unhealthy" 0 := by
      rcases List.mem_pair.mp member with first | second
      · rw [first]
        rfl
      · rw [second]
        rfl
    rw [heartbeats]
    exact ⟨_, "unhealthy", 0, rfl, rfl, by decide, rfl⟩

end VpnSuite.ControlPlane
