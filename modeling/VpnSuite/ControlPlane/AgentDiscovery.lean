/-
The nodes that the agents report (`discover_nodes` and `get_node_for_sync` of
`AgentNodeRuntimeAdapter` in `services/node_runtime_agent.py`).

Both make the same record of a server and its heartbeat.  The lookup of one server guards every
field against a missing heartbeat, the discovery all but four.

Scores and confidences are rationals, and `datetime.fromisoformat` is any reader.
-/

import VpnSuite.ControlPlane.ServerProvisioning
import VpnSuite.Foundations.JsonValue

set_option autoImplicit false

namespace VpnSuite.ControlPlane

open Foundations
open Foundations.PythonText (orDefault)

/-! ### Stored heartbeats -/

/-- What a heartbeat says of its node, with the keys that it has. -/
structure AgentReport extends AgentHeartbeat where
  tsUtc : Option String
  classification : Option (List (String × Json))
  confidence : Option Rat
  evidence : Option (List String)

/-- The answer of `_get_heartbeat`; an empty dict is not truthy, but it has a `get`. -/
inductive StoredHeartbeat where
  | missing
  | empty
  | report (report : AgentReport)

namespace StoredHeartbeat

variable {α : Type}

/-- `hb.get(key)`. -/
def get (field : AgentReport → Option α) : StoredHeartbeat → Except String (Option α)
  | missing => .error "'NoneType' object has no attribute 'get'"
  | empty => .ok none
  | report hb => .ok (field hb)

/-- `hb.get(key) if hb else None`. -/
def getIfAny (field : AgentReport → Option α) : StoredHeartbeat → Option α
  | missing => none
  | empty => none
  | report hb => field hb

/-- `value if hb else other`. -/
def ifAny (value other : α) : StoredHeartbeat → α
  | missing => other
  | empty => other
  | report _ => value

@[simp] theorem get_report (field : AgentReport → Option α) (hb : AgentReport) :
    (report hb).get field = .ok (field hb) := rfl

@[simp] theorem getIfAny_report (field : AgentReport → Option α) (hb : AgentReport) :
    (report hb).getIfAny field = field hb := rfl

end StoredHeartbeat

/-! ### The two constructions -/

section Reading

variable {Instant : Type} (fromIsoformat : String → Option Instant)

/-- `_parse_dt`. -/
def parseDt : Option String → Option Instant
  | none => none
  | some text =>
      if text = "" then none
      else fromIsoformat (String.ofList (text.toList.flatMap (fun char =>
        if char = 'Z' then "+00:00".toList else [char])))

/-- `AgentNodeMetadata`, with the fields that the adapter fills in. -/
structure AgentNodeMetadata (Instant : Type) extends DiscoveredNode where
  classification : Option (List (String × Json))
  confidence : Option Rat
  evidence : Option (List String)
  endpointIp : String
  internalIp : String
  lastSeen : Option Instant

/-- The body of the loop of `discover_nodes`. -/
def discoveredMetadata (serverId : String) (server : RegisteredServer) (hb : StoredHeartbeat) :
    Except String (AgentNodeMetadata Instant) := do
  let status := orDefault (hb.getIfAny (fun report => report.status))
    (orDefault (some server.status) "unknown")
  let containerName ← hb.get (fun report => report.containerName)
  let containerId ← hb.get (fun report => report.containerId)
  let interfaceName ← hb.get (fun report => report.interfaceName)
  let publicKey ← hb.get (fun report => report.publicKey)
  return {
    nodeId := serverId
    containerName := orDefault containerName server.name
    containerId := orDefault containerId ""
    hostId := hb.ifAny (some (orDefault (hb.getIfAny (fun report => report.hostId)) "None")) none
    classification := hb.getIfAny (fun report => report.classification)
    confidence := hb.getIfAny (fun report => report.confidence)
    evidence := hb.getIfAny (fun report => report.evidence)
    interfaceName := orDefault interfaceName "awg0"
    publicKey := orDefault publicKey (orDefault server.publicKey "")
    listenPort := hb.ifAny (numberOr (hb.getIfAny (fun report => report.listenPort)) 0) 0
    endpointIp := ""
    internalIp := ""
    peerCount := hb.ifAny (numberOr (hb.getIfAny (fun report => report.peerCount)) 0) 0
    totalRxBytes := hb.ifAny (numberOr (hb.getIfAny (fun report => report.totalRxBytes)) 0) 0
    totalTxBytes := hb.ifAny (numberOr (hb.getIfAny (fun report => report.totalTxBytes)) 0) 0
    status := orDefault (some status) "unknown"
    lastSeen := parseDt fromIsoformat (hb.getIfAny (fun report => report.tsUtc))
    healthScore := (hb.getIfAny (fun report => report.healthScore)).getD
      (server.healthScore.getD 0)
    maxPeers := numberOr server.maxConnections 1000
    isDraining := server.isDraining }

/-- The record that `get_node_for_sync` makes of its server. -/
def syncMetadata (serverId : String) (server : RegisteredServer) (hb : StoredHeartbeat) :
    AgentNodeMetadata Instant :=
  let status := orDefault (hb.getIfAny (fun report => report.status))
    (orDefault (some server.status) "unknown")
  { nodeId := serverId
    containerName := hb.ifAny
      (orDefault (hb.getIfAny (fun report => report.containerName)) server.name) server.name
    containerId := hb.ifAny (orDefault (hb.getIfAny (fun report => report.containerId)) "") ""
    hostId := hb.ifAny (some (orDefault (hb.getIfAny (fun report => report.hostId)) "None")) none
    classification := hb.getIfAny (fun report => report.classification)
    confidence := hb.getIfAny (fun report => report.confidence)
    evidence := hb.getIfAny (fun report => report.evidence)
    interfaceName := hb.ifAny
      (orDefault (hb.getIfAny (fun report => report.interfaceName)) "awg0") "awg0"
    publicKey := hb.ifAny (orDefault (hb.getIfAny (fun report => report.publicKey))
      (orDefault server.publicKey "")) (orDefault server.publicKey "")
    listenPort := hb.ifAny (numberOr (hb.getIfAny (fun report => report.listenPort)) 0) 0
    endpointIp := ""
    internalIp := ""
    peerCount := hb.ifAny (numberOr (hb.getIfAny (fun report => report.peerCount)) 0) 0
    totalRxBytes := hb.ifAny (numberOr (hb.getIfAny (fun report => report.totalRxBytes)) 0) 0
    totalTxBytes := hb.ifAny (numberOr (hb.getIfAny (fun report => report.totalTxBytes)) 0) 0
    status := orDefault (some status) "unknown"
    lastSeen := parseDt fromIsoformat (hb.getIfAny (fun report => report.tsUtc))
    healthScore := (hb.getIfAny (fun report => report.healthScore)).getD
      (server.healthScore.getD 0)
    maxPeers := numberOr server.maxConnections 1000
    isDraining := server.isDraining }

variable (servers : Dict String RegisteredServer) (store : String → StoredHeartbeat)

/-- The rows of `select(Server).where(Server.is_active)`. -/
def activeServers : List (String × RegisteredServer) :=
  servers.entries.filter (fun entry => entry.2.isActive)

/-- `discover_nodes`. -/
def discoverMetadata : Except String (List (AgentNodeMetadata Instant)) :=
  (activeServers servers).mapM (fun entry =>
    discoveredMetadata fromIsoformat entry.1 entry.2 (store entry.1))

/-- `get_node_for_sync`. -/
def getNodeForSync (serverId : String) : Option (AgentNodeMetadata Instant) :=
  (servers.get? serverId).map (fun server =>
    syncMetadata fromIsoformat serverId server (store serverId))

/-- Every active server has its node, the one of the lookup, in the order of the servers. -/
def DiscoveryAgrees : Prop :=
  ∃ nodes, discoverMetadata fromIsoformat servers store = .ok nodes ∧
    List.Forall₂ (fun entry node => getNodeForSync fromIsoformat servers store entry.1 = some node)
      (activeServers servers) nodes

/-- A server without a heartbeat leaves the other nodes as any heartbeat of it would. -/
def MissingIsLocal : Prop :=
  ∀ serverId, store serverId = .missing → ∀ (hb : StoredHeartbeat) nodes,
    discoverMetadata fromIsoformat servers (Function.update store serverId hb) = .ok nodes →
      ∃ others, discoverMetadata fromIsoformat servers store = .ok others ∧
        others.filter (fun node => node.nodeId ≠ serverId) =
          nodes.filter (fun node => node.nodeId ≠ serverId)

end Reading

/-! ### When they agree -/

section Agreement

variable {Instant : Type} {fromIsoformat : String → Option Instant} {serverId : String}
  {server : RegisteredServer} {servers : Dict String RegisteredServer}
  {store : String → StoredHeartbeat}

theorem discoveredMetadata_missing :
    discoveredMetadata fromIsoformat serverId server .missing =
      .error "'NoneType' object has no attribute 'get'" := rfl

/-- With a heartbeat, an empty one too, the two constructions agree. -/
theorem discoveredMetadata_present {hb : StoredHeartbeat} (present : hb ≠ .missing) :
    discoveredMetadata fromIsoformat serverId server hb =
      .ok (syncMetadata fromIsoformat serverId server hb) := by
  cases hb with
  | missing => exact absurd rfl present
  | empty => rfl
  | report hb => rfl

theorem discoveredMetadata_ok_iff {hb : StoredHeartbeat} {node : AgentNodeMetadata Instant} :
    discoveredMetadata fromIsoformat serverId server hb = .ok node ↔
      hb ≠ .missing ∧ node = syncMetadata fromIsoformat serverId server hb := by
  constructor
  · intro made
    have present : hb ≠ .missing := by
      rintro rfl
      cases made
    rw [discoveredMetadata_present present] at made
    exact ⟨present, (Except.ok.inj made).symm⟩
  · rintro ⟨present, rfl⟩
    exact discoveredMetadata_present present

theorem orDefault_ne_empty (value : Option String) {default : String} (nonempty : default ≠ "") :
    orDefault value default ≠ "" := by
  cases value with
  | none => exact nonempty
  | some text =>
      by_cases blank : text = ""
      · rw [orDefault, if_pos blank]
        exact nonempty
      · rw [orDefault, if_neg blank]
        exact blank

/-- The nodes that the pausing of servers reads are these. -/
theorem discoveredMetadata_toDiscoveredNode (report : AgentReport) :
    (discoveredMetadata fromIsoformat serverId server (.report report)).map
        AgentNodeMetadata.toDiscoveredNode =
      discoverNode serverId server (some report.toAgentHeartbeat) := by
  have known : orDefault (some (orDefault report.status (orDefault (some server.status) "unknown")))
      "unknown" = orDefault report.status (orDefault (some server.status) "unknown") :=
    if_neg (orDefault_ne_empty _ (orDefault_ne_empty _ (by decide)))
  rw [discoveredMetadata_present (by nofun)]
  change Except.ok _ = Except.ok _
  rw [syncMetadata]
  simp only [StoredHeartbeat.getIfAny_report, StoredHeartbeat.ifAny, known]

theorem get?_of_active {entry : String × RegisteredServer}
    (active : entry ∈ activeServers servers) : servers.get? entry.1 = some entry.2 :=
  (servers.mem_entries_iff entry.1 entry.2).mp (List.mem_filter.mp active).1

theorem getNodeForSync_active {entry : String × RegisteredServer}
    (active : entry ∈ activeServers servers) :
    getNodeForSync fromIsoformat servers store entry.1 =
      some (syncMetadata fromIsoformat entry.1 entry.2 (store entry.1)) := by
  rw [getNodeForSync, get?_of_active active]
  rfl

/-- The discovery succeeds exactly when no active server misses its heartbeat. -/
theorem discoverMetadata_ok_iff {nodes : List (AgentNodeMetadata Instant)} :
    discoverMetadata fromIsoformat servers store = .ok nodes ↔
      (∀ entry ∈ activeServers servers, store entry.1 ≠ .missing) ∧
        nodes = (activeServers servers).map (fun entry =>
          syncMetadata fromIsoformat entry.1 entry.2 (store entry.1)) := by
  constructor
  · intro discovered
    have present : ∀ entry ∈ activeServers servers, store entry.1 ≠ .missing := by
      intro entry active
      obtain ⟨node, made⟩ := exists_read_of_mapM discovered entry active
      exact (discoveredMetadata_ok_iff.mp made).1
    refine ⟨present, ?_⟩
    have mapped : discoverMetadata fromIsoformat servers store = .ok _ :=
      mapM_ok (fun entry active => discoveredMetadata_present (present entry active))
    rw [mapped] at discovered
    exact (Except.ok.inj discovered).symm
  · rintro ⟨present, rfl⟩
    exact mapM_ok (fun entry active => discoveredMetadata_present (present entry active))

/-- A server that is not active plays no part. -/
theorem filter_update (hb : StoredHeartbeat) :
    ((activeServers servers).map (fun entry => syncMetadata fromIsoformat entry.1 entry.2
        (Function.update store serverId hb entry.1))).filter
          (fun node => node.nodeId ≠ serverId) =
      ((activeServers servers).map (fun entry => syncMetadata fromIsoformat entry.1 entry.2
        (store entry.1))).filter (fun node => node.nodeId ≠ serverId) := by
  rw [List.filter_map, List.filter_map]
  apply List.map_congr_left
  intro entry member
  have other : entry.1 ≠ serverId := of_decide_eq_true (List.mem_filter.mp member).2
  rw [Function.update_of_ne other]

/-- Discovery agrees with the lookup, and a missing heartbeat is a matter of its own server,
exactly when every active server has a heartbeat. -/
theorem discovery_agrees_iff {Instant : Type} (fromIsoformat : String → Option Instant)
    (servers : Dict String RegisteredServer) (store : String → StoredHeartbeat) :
    DiscoveryAgrees fromIsoformat servers store ∧ MissingIsLocal fromIsoformat servers store ↔
      ∀ serverId server, servers.get? serverId = some server → server.isActive = true →
        store serverId ≠ .missing := by
  constructor
  · rintro ⟨⟨nodes, discovered, _⟩, _⟩ serverId server stored active
    have listed : (serverId, server) ∈ activeServers servers :=
      List.mem_filter.mpr ⟨(servers.mem_entries_iff serverId server).mpr stored, active⟩
    exact (discoverMetadata_ok_iff.mp discovered).1 _ listed
  · intro condition
    have present : ∀ entry ∈ activeServers servers, store entry.1 ≠ .missing := by
      intro entry active
      exact condition entry.1 entry.2 (get?_of_active active) (List.mem_filter.mp active).2
    have discovered := (@discoverMetadata_ok_iff Instant fromIsoformat servers store _).mpr
      ⟨present, rfl⟩
    constructor
    · refine ⟨_, discovered, ?_⟩
      rw [List.forall₂_map_right_iff, List.forall₂_same]
      exact fun entry active => getNodeForSync_active active
    · intro absent _ hb nodes updated
      obtain ⟨_, rfl⟩ := discoverMetadata_ok_iff.mp updated
      exact ⟨_, discovered, (filter_update hb).symm⟩

end Agreement

/-! ### A server that reports nothing -/

def sampleStore : String → StoredHeartbeat := fun serverId =>
  if serverId = "node-1" then .empty else .missing

def sampleServerPair : Dict String RegisteredServer :=
  Dict.ofList [("node-1", ⟨"node-1", none, "unknown", true, none, none, false⟩),
    ("node-2", ⟨"node-2", none, "unknown", true, none, none, false⟩)]

/-- Of two active servers the second has no heartbeat, and the discovery raises. -/
theorem silent_server_breaks_discovery :
    ¬ (DiscoveryAgrees (fun _ => none : String → Option Nat) sampleServerPair sampleStore ∧
      MissingIsLocal (fun _ => none : String → Option Nat) sampleServerPair sampleStore) := by
  rintro ⟨⟨nodes, discovered, _⟩, _⟩
  have listed : ("node-2", ⟨"node-2", none, "unknown", true, none, none, false⟩) ∈
      activeServers sampleServerPair := by decide
  exact absurd rfl ((discoverMetadata_ok_iff.mp discovered).1 _ listed)

end VpnSuite.ControlPlane
