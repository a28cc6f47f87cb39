/-
Runs of scans and requests over the registry of servers (`services/topology_engine.py`, with
`api/v1/servers_crud.py`).

Scans never decide what administrators set.  But a server of a container that was given another
endpoint makes every later scan fail, for all servers, until it is deleted or its container is
no longer discovered.
-/

import VpnSuite.Foundations.Latches
import VpnSuite.ControlPlane.DockerRegistry

set_option autoImplicit false

namespace VpnSuite.ControlPlane

open Foundations
open Foundations.PythonText

/-! ### Rows that scans lose -/

theorem foreign_set {registry : Registry} {key id : String} {row : RegistryRow} :
    ForeignRow (registry.set key row) id ↔
      if id = key then row.isDocker = false else ForeignRow registry id := by
  unfold ForeignRow
  rw [Dict.get?_set]
  split
  · constructor
    · intro foreign
      rcases foreign with ⟨other, same, plain⟩
      cases same
      exact plain
    · intro plain
      exact ⟨row, rfl, plain⟩
  · rfl

/-- A row that keeps its endpoint is as foreign as before. -/
theorem foreign_set_same {registry : Registry} {key id : String} {row after : RegistryRow}
    (present : registry.get? key = some row) (same : after.isDocker = row.isDocker) :
    ForeignRow (registry.set key after) id ↔ ForeignRow registry id := by
  rw [foreign_set]
  split
  · rename_i atKey
    rw [atKey, same]
    constructor
    · intro plain
      exact ⟨row, present, plain⟩
    · intro foreign
      rcases foreign with ⟨found, known, plain⟩
      rw [present] at known
      cases known
      exact plain
  · rfl

theorem foreign_map {registry written : Registry} {id : String} {change : RegistryRow → RegistryRow}
    (mapped : written.get? id = (registry.get? id).map change)
    (same : ∀ row, (change row).isDocker = row.isDocker) :
    ForeignRow written id ↔ ForeignRow registry id := by
  unfold ForeignRow
  rw [mapped]
  constructor
  · intro foreign
    rcases foreign with ⟨after, found, plain⟩
    rcases Option.map_eq_some_iff.mp found with ⟨row, present, changed⟩
    rw [← changed, same] at plain
    exact ⟨row, present, plain⟩
  · intro foreign
    rcases foreign with ⟨row, present, plain⟩
    rw [present]
    exact ⟨change row, rfl, (same row).trans plain⟩

theorem isDocker_bulk (action : BulkAction) (row : RegistryRow) :
    (action.apply row).isDocker = row.isDocker := by
  cases action with
  | markDraining => rfl
  | unmarkDraining => rfl
  | disableProvisioning => rfl
  | enableProvisioning => rfl

/-- The event gives the server another endpoint. -/
def MovesRow (rules : RegistryRules) (id : String) (registry : Registry) (event : RegistryEvent) :
    Prop :=
  ∃ editor body written, event = .update id editor body ∧ body.movesEndpoint ∧
    updateServer rules registry id editor body = .ok written

def DropsRow (id : String) (event : RegistryEvent) : Prop := event = .delete id 0 false

section Foreign

variable {rules : RegistryRules} {registry written : Registry} {event : RegistryEvent} {id : String}

theorem foreign_of_create {fresh : FreshId} {body : ServerCreate} (container : ':' ∈ id.toList)
    (created : createServer rules registry fresh body = .ok written) :
    ForeignRow written id ↔ ForeignRow registry id := by
  rcases createServer_ok created with ⟨key, row, same, _, plainKey, _⟩
  rw [same, foreign_set, if_neg]
  intro atKey
  rw [atKey] at container
  exact plainKey container

theorem foreign_of_update {target : String} {editor : Editor} {body : ServerUpdate}
    (updated : updateServer rules registry target editor body = .ok written) :
    ForeignRow written id ↔
      MovesRow rules id registry (.update target editor body) ∨ ForeignRow registry id := by
  rcases updateServer_ok updated with ⟨row, checked, present, valid, _, complete, same⟩
  rw [same, foreign_set]
  split
  · rename_i atKey
    subst atKey
    rw [rowAfter_isDocker valid complete]
    constructor
    · intro cases
      rcases cases with moves | plain
      · exact Or.inl ⟨editor, body, written, rfl, moves, updated⟩
      · exact Or.inr ⟨row, present, plain⟩
    · intro cases
      rcases cases with ⟨editor', body', written', same, moves, _⟩ | ⟨found, known, plain⟩
      · cases same
        exact Or.inl moves
      · rw [present] at known
        cases known
        exact Or.inr plain
  · rename_i elsewhere
    refine (or_iff_right ?_).symm
    intro moves
    rcases moves with ⟨editor', body', written', same, _⟩
    cases same
    exact elsewhere rfl

theorem foreign_of_delete {target : String} {devices : Nat} {logged : Bool}
    (deleted : deleteServer registry target devices logged = .ok written) :
    ForeignRow written id ↔
      ForeignRow registry id ∧ ¬ DropsRow id (.delete target devices logged) := by
  rcases deleteServer_ok deleted with ⟨free, plain, same⟩
  rw [same, free, plain]
  unfold ForeignRow DropsRow
  rw [Dict.get?_erase]
  split
  · rename_i atKey
    rw [atKey]
    apply iff_of_false
    · intro foreign
      rcases foreign with ⟨row, impossible, _⟩
      cases impossible
    · intro both
      exact both.2 rfl
  · rename_i elsewhere
    refine (and_iff_left ?_).symm
    intro dropped
    cases dropped
    exact elsewhere rfl

theorem foreign_of_limits {target : String} {body : ServerLimitsUpdate}
    (updated : updateServerLimits registry target body = .ok written) :
    ForeignRow written id ↔ ForeignRow registry id := by
  rcases updateServerLimits_ok updated with ⟨row, present, same⟩
  rw [same]
  exact foreign_set_same present rfl

theorem foreign_of_heartbeat (payload : RegistryHeartbeat) :
    ForeignRow (agentHeartbeat registry payload) id ↔ ForeignRow registry id := by
  cases present : registry.get? id with
  | none =>
      apply iff_of_false
      · intro foreign
        rcases foreign with ⟨row, added, plain⟩
        rw [agentHeartbeat_added present added] at plain
        cases plain
      · intro foreign
        rcases foreign with ⟨row, found, _⟩
        rw [present] at found
        cases found
  | some row =>
      refine @foreign_map registry _ id
        (fun row => if payload.serverId = id then keyedRow payload row else row) ?_ ?_
      · rw [agentHeartbeat_row present, present]
        rfl
      · intro row
        split
        · exact (keyedRow_same payload row).1
        · rfl

theorem foreign_of_bulk {action : BulkAction} {ids : List String}
    (updated : bulkUpdateServers registry action ids = .ok written) :
    ForeignRow written id ↔ ForeignRow registry id := by
  have after := bulkUpdateServers_ok updated id
  split at after
  · exact foreign_map after (isDocker_bulk action)
  · unfold ForeignRow
    rw [after]

theorem foreign_of_task {target : String} {write : TaskWrite}
    (done : writeServer registry target write = .ok written) :
    ForeignRow written id ↔ ForeignRow registry id := by
  rcases writeServer_ok done with ⟨row, present, same⟩
  rw [same]
  exact foreign_set_same present rfl

/-- What the events that are accepted make of a foreign row. -/
theorem foreign_of_outcome (container : ':' ∈ id.toList)
    (accepted : registryOutcome rules registry event = .ok written) :
    ForeignRow written id ↔
      MovesRow rules id registry event ∨ (ForeignRow registry id ∧ ¬ DropsRow id event) := by
  have other (different : ∀ editor body, event ≠ .update id editor body) :
      ¬ MovesRow rules id registry event := by
    intro moves
    rcases moves with ⟨editor, body, _, same, _⟩
    exact different editor body same
  cases event with
  | scan nodes =>
      have moved := other (fun editor body same => by cases same)
      have stays : ¬ DropsRow id (.scan nodes) := fun dropped => by cases dropped
      rw [or_iff_right moved, and_iff_left stays]
      exact foreign_of_scan accepted id
  | create fresh body =>
      have moved := other (fun editor body same => by cases same)
      have stays : ¬ DropsRow id (.create fresh body) := fun dropped => by cases dropped
      rw [or_iff_right moved, and_iff_left stays]
      exact foreign_of_create container accepted
  | update target editor body =>
      have stays : ¬ DropsRow id (.update target editor body) := fun dropped => by cases dropped
      rw [and_iff_left stays]
      exact foreign_of_update accepted
  | delete target devices logged =>
      have moved := other (fun editor body same => by cases same)
      rw [or_iff_right moved]
      exact foreign_of_delete accepted
  | limits target body =>
      have moved := other (fun editor body same => by cases same)
      have stays : ¬ DropsRow id (.limits target body) := fun dropped => by cases dropped
      rw [or_iff_right moved, and_iff_left stays]
      exact foreign_of_limits accepted
  | heartbeat payload =>
      have moved := other (fun editor body same => by cases same)
      have stays : ¬ DropsRow id (.heartbeat payload) := fun dropped => by cases dropped
      rw [or_iff_right moved, and_iff_left stays, ← Except.ok.inj accepted]
      exact foreign_of_heartbeat payload
  | bulk action ids =>
      have moved := other (fun editor body same => by cases same)
      have stays : ¬ DropsRow id (.bulk action ids) := fun dropped => by cases dropped
      rw [or_iff_right moved, and_iff_left stays]
      exact foreign_of_bulk accepted
  | task target write =>
      have moved := other (fun editor body same => by cases same)
      have stays : ¬ DropsRow id (.task target write) := fun dropped => by cases dropped
      rw [or_iff_right moved, and_iff_left stays]
      exact foreign_of_task accepted

theorem foreign_flag (container : ':' ∈ id.toList) :
    Flag (registryStep rules) (fun registry => ForeignRow registry id) (MovesRow rules id)
      (DropsRow id) := by
  constructor
  intro registry event
  unfold registryStep
  cases outcome : registryOutcome rules registry event with
  | ok written => exact foreign_of_outcome container outcome
  | error failure =>
      constructor
      · intro foreign
        refine Or.inr ⟨foreign, ?_⟩
        intro dropped
        unfold DropsRow at dropped
        rcases foreign with ⟨row, present, _⟩
        rw [dropped] at outcome
        have deleted : deleteServer registry id 0 false = .error failure := outcome
        unfold deleteServer at deleted
        rw [present] at deleted
        cases deleted
      · intro cases
        rcases cases with ⟨editor, body, written, same, _, updated⟩ | ⟨foreign, _⟩
        · rw [same] at outcome
          have failed : updateServer rules registry id editor body = .error failure := outcome
          rw [updated] at failed
          cases failed
        · exact foreign

end Foreign

/-- From an empty registry, a scan is lost exactly when an administrator gave the server of a
discovered container another endpoint and has not deleted it since. -/
theorem scan_lost_iff (rules : RegistryRules) (events : List RegistryEvent)
    (nodes : List ScannedNode) (containers : ∀ node ∈ nodes, ':' ∈ node.nodeId.toList) :
    (syncDiscoveredNodes "docker" (events.foldl (registryStep rules) Dict.empty) nodes).1 =
        .error .integrity ↔
      ∃ node ∈ nodes, ∃ earlier event later, events = earlier ++ event :: later ∧
        MovesRow rules node.nodeId (earlier.foldl (registryStep rules) Dict.empty) event ∧
        ∀ next ∈ later, ¬ DropsRow node.nodeId next := by
  rw [sync_lost_iff]
  have empty (id : String) : ¬ ForeignRow Dict.empty id := by
    intro foreign
    rcases foreign with ⟨row, impossible, _⟩
    cases impossible
  constructor
  · intro some
    rcases some with ⟨node, member, foreign⟩
    have flag := (foreign_flag (containers node member)).up_run.mp foreign
    exact ⟨node, member, flag.resolve_right (fun both => empty node.nodeId both.1)⟩
  · intro some
    rcases some with ⟨node, member, moved⟩
    exact ⟨node, member, (foreign_flag (containers node member)).up_run.mpr (Or.inl moved)⟩

section Overridden

def dockerRules : RegistryRules where
  nodeDiscovery := "docker"
  hasHost := fun url => url ≠ "http://"
  refusesHost := fun url => url = "http://localhost"
  isAlnum := Char.isAlphanum
  alnumColon := by decide

def sampleNode : ScannedNode where
  nodeId := "docker:0123456789ab"
  containerName := "amnezia-awg"
  publicKey := "key"
  listenPort := 47604
  endpointIp := "172.20.0.2"
  status := "healthy"
  healthScore := 1
  maxPeers := 1000
  isDraining := false

def sampleEditor : Editor := ⟨some "admin", 0⟩

def movingBody : ServerUpdate := { apiEndpoint := some (some "vpn.example.com") }

/-- The registry after a first scan of the container. -/
def scannedRegistry : Registry := registryStep dockerRules Dict.empty (.scan [sampleNode])

theorem moved_server_is_accepted :
    ∃ written, updateServer dockerRules scannedRegistry sampleNode.nodeId sampleEditor movingBody =
      .ok written :=
  ok_of_isSome (by decide +kernel)

theorem moved_container_loses_scans :
    (syncDiscoveredNodes "docker" ([.scan [sampleNode],
      .update sampleNode.nodeId sampleEditor movingBody].foldl (registryStep dockerRules) Dict.empty)
        [sampleNode]).1 = .error .integrity := by
  apply (scan_lost_iff dockerRules _ _ (by decide)).mpr
  rcases moved_server_is_accepted with ⟨written, updated⟩
  refine ⟨sampleNode, List.mem_singleton_self _, [.scan [sampleNode]], _, [], rfl, ?_, ?_⟩
  · exact ⟨sampleEditor, movingBody, written, rfl, ⟨_, rfl⟩, updated⟩
  · intro next member
    cases member

/-- Once the server of a container has another endpoint, and as long as every scan discovers
the container and nobody deletes the server, the scans decide nothing. -/
theorem scans_decide_nothing (rules : RegistryRules) (registry written : Registry) (id : String)
    (editor : Editor) (body : ServerUpdate) (docker : rules.nodeDiscovery = "docker")
    (container : ':' ∈ id.toList) (moves : body.movesEndpoint)
    (updated : updateServer rules registry id editor body = .ok written)
    (events : List RegistryEvent)
    (discovered : ∀ nodes, .scan nodes ∈ events → ∃ node ∈ nodes, node.nodeId = id)
    (kept : .delete id 0 false ∉ events) :
    events.foldl (registryStep rules) written =
      (events.filter (fun event => !event.isScan)).foldl (registryStep rules) written := by
  have foreign : ForeignRow written id := by
    have updating := @foreign_of_outcome rules registry written (.update id editor body) id
      container updated
    exact updating.mpr (Or.inl ⟨editor, body, written, rfl, moves, updated⟩)
  clear updated
  induction events generalizing written with
  | nil => rfl
  | cons event rest ih =>
      have scansLater : ∀ nodes, .scan nodes ∈ rest → ∃ node ∈ nodes, node.nodeId = id :=
        fun nodes member => discovered nodes (List.mem_cons_of_mem event member)
      have keptLater : .delete id 0 false ∉ rest :=
        fun member => kept (List.mem_cons_of_mem event member)
      have stays : ForeignRow (registryStep rules written event) id := by
        apply ((foreign_flag container).up_step written event).mpr
        refine Or.inr ⟨foreign, ?_⟩
        intro dropped
        unfold DropsRow at dropped
        rw [dropped] at kept
        exact kept List.mem_cons_self
      rw [List.foldl_cons, List.filter_cons]
      cases event with
      | scan nodes =>
          have lost : registryStep rules written (.scan nodes) = written := by
            rcases discovered nodes List.mem_cons_self with ⟨node, member, same⟩
            have failed := sync_lost_iff.mpr ⟨node, member, same.symm ▸ foreign⟩
            have outcome : registryOutcome rules written (.scan nodes) = .error .integrity := by
              change (syncDiscoveredNodes rules.nodeDiscovery written nodes).1 = .error .integrity
              rw [docker]
              exact failed
            unfold registryStep
            rw [outcome]
          have dropped : (!(RegistryEvent.scan nodes).isScan) ≠ true := Bool.false_ne_true
          rw [lost, if_neg dropped]
          exact ih written scansLater keptLater foreign
      | create fresh body => exact ih _ scansLater keptLater stays
      | update target editor body => exact ih _ scansLater keptLater stays
      | delete target devices logged => exact ih _ scansLater keptLater stays
      | limits target body => exact ih _ scansLater keptLater stays
      | bulk action ids => exact ih _ scansLater keptLater stays
      | heartbeat payload => exact ih _ scansLater keptLater stays
      | task target write => exact ih _ scansLater keptLater stays

theorem moved_container_freezes_registry :
    ∃ written, updateServer dockerRules scannedRegistry sampleNode.nodeId sampleEditor movingBody =
        .ok written ∧
      [.scan [sampleNode], .bulk .markDraining [sampleNode.nodeId], .scan [sampleNode]].foldl
          (registryStep dockerRules) written =
        [.bulk .markDraining [sampleNode.nodeId]].foldl (registryStep dockerRules) written := by
  rcases moved_server_is_accepted with ⟨written, updated⟩
  refine ⟨written, updated, ?_⟩
  refine scans_decide_nothing dockerRules scannedRegistry written sampleNode.nodeId sampleEditor
    movingBody rfl (by decide) ⟨_, rfl⟩ updated
    [.scan [sampleNode], .bulk .markDraining [sampleNode.nodeId], .scan [sampleNode]] ?_ ?_
  · intro nodes member
    refine ⟨sampleNode, ?_, rfl⟩
    simp only [List.mem_cons, RegistryEvent.scan.injEq, reduceCtorEq, List.not_mem_nil,
      or_false, false_or, or_self] at member
    rw [member]
    exact List.mem_singleton_self _
  · intro member
    simp at member

end Overridden

/-! ### What administrators set -/

section Settings

variable {rules : RegistryRules} {registry : Registry} {tracked : String → Prop}
  {event : RegistryEvent} {id : String} {row : RegistryRow}

/-- Where one row has a positive limit, the other has the same. -/
def KeepsLimit (here there : RegistryRow) : Prop :=
  ∀ limit, 0 < limit → there.maxConnections = some limit → here.maxConnections = some limit

theorem KeepsLimit.of_same {other newRow newOther : RegistryRow} (limits : KeepsLimit row other)
    (here : newRow.maxConnections = row.maxConnections)
    (there : newOther.maxConnections = other.maxConnections) : KeepsLimit newRow newOther := by
  intro limit positive known
  rw [there] at known
  rw [here]
  exact limits limit positive known

/-- A request that writes the limit writes the same into both rows. -/
theorem KeepsLimit.limits {other : RegistryRow} (limits : KeepsLimit row other)
    (body : ServerLimitsUpdate) : KeepsLimit (body.apply row) (body.apply other) := by
  intro limit positive known
  unfold ServerLimitsUpdate.apply BodyField.written at known ⊢
  dsimp only at known ⊢
  cases given : body.maxConnections with
  | none =>
      rw [given] at known
      exact limits limit positive known
  | some value =>
      rw [given] at known
      exact known

end Settings

end VpnSuite.ControlPlane
