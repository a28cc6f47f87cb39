/-
Synchronising a server with its node (`services/server_sync_service.py`).

The node is looked up, a snapshot is made of what it says and of the server's row, and the
snapshot is written to the row.  A key that the node does not have is taken from the row; what
is written counts as verified at the instant of the snapshot all the same.

What the adapter answers is an input; `agentAdapter` is the one of the agent mode.  Floats are
rationals, and rounding to one decimal is a parameter.  Instants are in microseconds.
-/

import VpnSuite.ControlPlane.AgentDiscovery
import VpnSuite.Fleet.ConfigDerivation

set_option autoImplicit false

namespace VpnSuite.ControlPlane

open Foundations
open Foundations.PythonText
open VpnSuite.Fleet (FleetSettings isPrivateIp)

/-! ### Rows -/

/-- The columns of a server that a sync reads or writes. -/
structure SyncedServer extends RegisteredServer where
  region : String
  apiEndpoint : Option String
  vpnEndpoint : Option String
  publicKeySyncedAt : Option Int
  keyStatus : Option String
  lastSnapshotAt : Option Int

structure IpPool where
  cidr : String
  totalIps : Option Int
  usedIps : Option Int

structure SyncJob where
  serverId : String
  status : String
  startedAt : Option Int
  finishedAt : Option Int
  error : Option String

/-! ### Snapshots -/

inductive SnapshotHealthStatus where
  | online
  | offline
  | degraded
  | unknown
  deriving DecidableEq

def SnapshotHealthStatus.value : SnapshotHealthStatus → String
  | online => "online"
  | offline => "offline"
  | degraded => "degraded"
  | unknown => "unknown"

structure SnapshotEndpoints where
  vpnEndpoint : Option String
  publicKey : Option String

structure SnapshotResources where
  cpuPct : Option Rat
  ramUsedBytes : Option Int
  ramTotalBytes : Option Int
  ramPct : Option Rat
  unavailableReason : Option String

structure SnapshotUsers where
  activePeers : Nat
  totalPeers : Int
  lastHandshakeMaxAgeSec : Option Int

structure SnapshotIpPool where
  cidr : Option String
  totalIps : Option Int
  usedIps : Option Int
  freeIps : Option Int

structure SnapshotHealth where
  status : SnapshotHealthStatus
  healthScore : Option Rat
  isDraining : Bool

structure ServerSnapshot where
  serverId : String
  tsUtc : Int
  region : String
  endpoints : SnapshotEndpoints
  resources : SnapshotResources
  users : SnapshotUsers
  ipPool : SnapshotIpPool
  health : SnapshotHealth
  peersCapacity : Option Int

/-- A stored snapshot; only successful ones are stored. -/
structure SnapshotRow where
  snapshot : ServerSnapshot
  requestId : Option String

structure SyncDb where
  servers : Dict String SyncedServer
  /-- The active pool of a server. -/
  pools : Dict String IpPool
  jobs : Dict String SyncJob
  snapshots : List SnapshotRow

/-! ### The node -/

section Sync

variable {Instant : Type}

/-- What a call of the adapter would come to; a lookup that the adapter lacks is `none`. -/
structure SyncAdapter (Instant : Type) where
  getNodeForSync : Option (String → Except String (Option (AgentNodeMetadata Instant)))
  discoverNodes : Except String (List (AgentNodeMetadata Instant))
  listPeers : String → Except String (List (Option Int))
  getContainerStats : Option (String → Except String (Option SnapshotResources))

def activePeerAgeSec : Int := 180

def statusToSnapshotHealth (status : String) : SnapshotHealthStatus :=
  let s := lower status
  if s ∈ ["healthy", "ok"] then .online
  else if s = "degraded" then .degraded
  else if s ∈ ["unhealthy", "unreachable", "down", "error", "offline"] then .offline
  else .unknown

/-- The container that a `docker://` endpoint names. -/
def endpointContainer (server : SyncedServer) : Option String :=
  let endpoint := (orDefault server.apiEndpoint "").toList
  if dockerScheme.toList.isPrefixOf endpoint then
    orNone (String.ofList (((stripChars (endpoint.drop 9)).splitOn '/').headD []))
  else none

/-- The node of a server among the discovered ones: by its id, then by the names of its
container. -/
def discoveredNode (serverId : String) (server : SyncedServer)
    (nodes : List (AgentNodeMetadata Instant)) : Option (AgentNodeMetadata Instant) :=
  let named (name : String) := nodes.find? (fun node => node.containerName = name)
  (nodes.find? (fun node => node.nodeId = serverId)).or
    ((named serverId).or
      (((endpointContainer server).bind named).or ((orNone (strip server.name)).bind named)))

/-- The lookup of a single node, where the adapter has one, then the discovery. -/
def nodeOfServer (adapter : SyncAdapter Instant) (serverId : String) (server : SyncedServer) :
    Except String (Option (AgentNodeMetadata Instant)) := do
  let found ← match adapter.getNodeForSync with
    | none => pure none
    | some lookup => lookup serverId
  match found with
  | some node => pure (some node)
  | none => do
      let nodes ← adapter.discoverNodes
      pure (discoveredNode serverId server nodes)

/-! ### The snapshot -/

/-- The ages of the peers' handshakes in seconds. -/
def handshakeAges (nowTs : Int) (peers : List (Option Int)) : List Int :=
  (peers.filter (fun handshake => 0 < handshake.getD 0)).map (fun handshake =>
    nowTs - handshake.getD 0)

def snapshotUsers (now : Int) (peers : List (Option Int))
    (node : AgentNodeMetadata Instant) : SnapshotUsers :=
  let ages := handshakeAges (now.tdiv 1000000) peers
  let oldest := ages.foldl max 0
  ⟨ages.countP (fun age => age ≤ activePeerAgeSec),
    if peers = [] then node.peerCount else peers.length,
    if oldest = 0 then none else some oldest⟩

def snapshotIpPool (pool : Option IpPool) (usedIps : Int) : SnapshotIpPool :=
  match pool with
  | none => ⟨none, none, none, none⟩
  | some pool => ⟨some pool.cidr, pool.totalIps, some usedIps,
      pool.totalIps.map (fun total => total - usedIps)⟩

def statsUnavailable : SnapshotResources :=
  ⟨none, none, none, none, some "docker_stats_not_available"⟩

/-- Stats that cannot be read are passed over. -/
def snapshotResources (adapter : SyncAdapter Instant) (node : AgentNodeMetadata Instant) :
    SnapshotResources :=
  match adapter.getContainerStats with
  | none => statsUnavailable
  | some stats =>
      if node.containerName = "" then statsUnavailable
      else
        match stats node.containerName with
        | .ok (some resources) => { resources with unavailableReason := none }
        | _ => statsUnavailable

def nodeEndpoint (node : AgentNodeMetadata Instant) : Option String :=
  if node.endpointIp ≠ "" ∧ node.listenPort ≠ 0 ∧ !isPrivateIp node.endpointIp then
    some (node.endpointIp ++ ":" ++ toString node.listenPort)
  else none

/-- `build_snapshot_from_node`, once the node is found. -/
def snapshotOf (round1 : Rat → Rat) (adapter : SyncAdapter Instant) (serverId : String)
    (server : SyncedServer) (pool : Option IpPool) (now : Int)
    (node : AgentNodeMetadata Instant) : ServerSnapshot :=
  let nodeId := if node.nodeId ≠ "" then node.nodeId
    else orDefault (some node.containerName) serverId
  let peers := match adapter.listPeers nodeId with
    | .ok peers => peers
    | .error _ => []
  { serverId := serverId
    tsUtc := now
    region := server.region
    endpoints := ⟨(server.vpnEndpoint.bind orNone).or (nodeEndpoint node),
      (orNone node.publicKey).or (server.publicKey.bind orNone)⟩
    resources := snapshotResources adapter node
    users := snapshotUsers now peers node
    ipPool := snapshotIpPool pool peers.length
    health := ⟨statusToSnapshotHealth (orDefault (some node.status) "unknown"),
      some (round1 (node.healthScore * 100)), server.isDraining⟩
    peersCapacity := some (numberOr server.maxConnections node.maxPeers) }

/-! ### A sync -/

variable (round1 : Rat → Rat)

/-- What a successful sync writes to the row. -/
def syncedServer (snapshot : ServerSnapshot) (server : SyncedServer) : SyncedServer :=
  let keyed : SyncedServer := match snapshot.endpoints.publicKey with
    | none => server
    | some key => { server with
        publicKey := some key
        publicKeySyncedAt := some snapshot.tsUtc
        keyStatus := some "verified" }
  { keyed with
    status := snapshot.health.status.value
    healthScore := snapshot.health.healthScore.map (fun score => score / 100)
    lastSnapshotAt := some snapshot.tsUtc
    vpnEndpoint := snapshot.endpoints.vpnEndpoint.or server.vpnEndpoint }

def notFoundError : String := "node not found in discovery"

/-- `run_sync_for_server`; what the adapter raises undoes the sync. -/
def runSyncForServer (adapter : SyncAdapter Instant) (serverId jobId : String)
    (requestId : Option String) (now : Int) (db : SyncDb) : Except String (Option String × SyncDb) :=
  match db.jobs.get? jobId, db.servers.get? serverId with
  | some job, some server =>
      if job.serverId ≠ serverId then .ok (some "job or server not found", db)
      else
        match nodeOfServer adapter serverId server with
        | .error error => .error error
        | .ok none =>
            .ok (some notFoundError,
              { db with
                jobs := db.jobs.set jobId
                  ⟨serverId, "failed", some now, some now, some notFoundError⟩
                servers := db.servers.set serverId
                  { server with keyStatus := some "not_found" } })
        | .ok (some node) =>
            let pool := db.pools.get? serverId
            let snapshot := snapshotOf round1 adapter serverId server pool now node
            .ok (none,
              { servers := db.servers.set serverId (syncedServer snapshot server)
                pools := match pool with
                  | none => db.pools
                  | some row => db.pools.set serverId
                      { row with usedIps := snapshot.ipPool.usedIps.or row.usedIps }
                jobs := db.jobs.set jobId ⟨serverId, "completed", some now, some now, none⟩
                snapshots := db.snapshots ++ [⟨snapshot, requestId⟩] })
  | _, _ => .ok (some "job or server not found", db)

/-- A sync of the loop or of an administrator, with its job. -/
def syncServer (adapter : SyncAdapter Instant) (serverId jobId : String)
    (requestId : Option String) (now : Int) (db : SyncDb) : SyncDb :=
  let started : SyncDb :=
    { db with jobs := db.jobs.set jobId ⟨serverId, "pending", none, none, none⟩ }
  match runSyncForServer round1 adapter serverId jobId requestId now started with
  | .ok outcome => outcome.2
  | .error _ => started

end Sync

/-! ### The agents' adapter -/

section Agents

variable {Instant : Type} (fromIsoformat : String → Option Instant) (round1 : Rat → Rat)

/-- The agents' adapter looks a server up by its heartbeat, and lists no peers. -/
def agentAdapter (servers : Dict String SyncedServer) (store : String → StoredHeartbeat) :
    SyncAdapter Instant :=
  let registered := servers.mapValues SyncedServer.toRegisteredServer
  { getNodeForSync := some (fun serverId =>
      .ok (getNodeForSync fromIsoformat registered store serverId))
    discoverNodes := discoverMetadata fromIsoformat registered store
    listPeers := fun _ => .ok []
    getContainerStats := none }

/-- A sync of a server: its job, its instant and the heartbeat that Redis has of the server. -/
structure AgentSync where
  jobId : String
  now : Int
  heartbeat : StoredHeartbeat

def agentSync (serverId : String) (db : SyncDb) (sync : AgentSync) : SyncDb :=
  syncServer round1 (agentAdapter fromIsoformat db.servers (fun _ => sync.heartbeat)) serverId
    sync.jobId none sync.now db

/-- The key that a server is known by after a sync. -/
def learntKey (key : String) (sync : AgentSync) : String :=
  orDefault (sync.heartbeat.getIfAny (fun report => report.publicKey)) key

/-- The key that a row holds, empty for none. -/
def SyncedServer.key (server : SyncedServer) : String := orDefault server.publicKey ""

/-- The row, as the issue paths read it. -/
def SyncedServer.keyRow (serverId : String) (server : SyncedServer) : ServerRow :=
  ⟨serverId, server.apiEndpoint, server.publicKey, server.publicKeySyncedAt⟩

variable {fromIsoformat round1} {serverId : String}

theorem syncMetadata_key (server : RegisteredServer) (sync : AgentSync) :
    (syncMetadata fromIsoformat serverId server sync.heartbeat).publicKey =
      learntKey (orDefault server.publicKey "") sync := by
  unfold learntKey
  cases sync.heartbeat with
  | missing => rfl
  | empty => rfl
  | report hb => rfl

theorem nodeOfServer_agent {servers : Dict String SyncedServer} {server : SyncedServer}
    (store : String → StoredHeartbeat) (stored : servers.get? serverId = some server) :
    nodeOfServer (agentAdapter fromIsoformat servers store) serverId server =
      .ok (some (syncMetadata fromIsoformat serverId server.toRegisteredServer
        (store serverId))) := by
  have found : getNodeForSync fromIsoformat
        (servers.mapValues SyncedServer.toRegisteredServer) store serverId =
      some (syncMetadata fromIsoformat serverId server.toRegisteredServer (store serverId)) := by
    unfold getNodeForSync
    rw [Dict.get?_mapValues, stored]
    rfl
  unfold nodeOfServer agentAdapter
  dsimp only
  rw [found]
  rfl

/-- With the agents' adapter a sync of a server that is there succeeds. -/
theorem agentSync_servers {db : SyncDb} {server : SyncedServer} (sync : AgentSync)
    (stored : db.servers.get? serverId = some server) :
    ∃ snapshot : ServerSnapshot,
      (agentSync fromIsoformat round1 serverId db sync).servers =
          db.servers.set serverId (syncedServer snapshot server) ∧
        snapshot.tsUtc = sync.now ∧
        snapshot.endpoints.publicKey =
          (orNone (learntKey server.key sync)).or (server.publicKey.bind orNone) := by
  refine ⟨snapshotOf round1 (agentAdapter fromIsoformat db.servers (fun _ => sync.heartbeat))
    serverId server (db.pools.get? serverId) sync.now
    (syncMetadata fromIsoformat serverId server.toRegisteredServer sync.heartbeat), ?_, rfl, ?_⟩
  · have node := @nodeOfServer_agent _ fromIsoformat serverId db.servers server
      (fun _ => sync.heartbeat) stored
    unfold agentSync syncServer runSyncForServer
    dsimp only
    rw [Dict.get?_set, if_pos rfl, stored]
    dsimp only
    rw [if_neg (fun other => other rfl), node]
  · unfold snapshotOf
    dsimp only
    rw [syncMetadata_key]
    rfl

/-- A sync leaves the key that is known by then, as fresh as the sync. -/
theorem agentSync_row {db : SyncDb} {server : SyncedServer} (sync : AgentSync)
    (stored : db.servers.get? serverId = some server)
    (known : learntKey server.key sync ≠ "") :
    ∃ after, (agentSync fromIsoformat round1 serverId db sync).servers.get? serverId =
        some after ∧ after.publicKey = some (learntKey server.key sync) ∧
      after.publicKeySyncedAt = some sync.now ∧ after.keyStatus = some "verified" := by
  rcases @agentSync_servers _ fromIsoformat round1 serverId db server sync stored with
    ⟨snapshot, servers, instant, key⟩
  have learnt : snapshot.endpoints.publicKey = some (learntKey server.key sync) := by
    rw [key, orNone, if_neg known]
    rfl
  refine ⟨syncedServer snapshot server, ?_, ?_, ?_, ?_⟩
  · rw [servers, Dict.get?_set, if_pos rfl]
  · unfold syncedServer
    rw [learnt]
  · unfold syncedServer
    rw [learnt, ← instant]
  · unfold syncedServer
    rw [learnt]

/-- A sync that learns no key leaves the row without one. -/
theorem agentSync_unknown {db : SyncDb} {server : SyncedServer} (sync : AgentSync)
    (stored : db.servers.get? serverId = some server)
    (unknown : learntKey server.key sync = "") :
    ∃ after, (agentSync fromIsoformat round1 serverId db sync).servers.get? serverId =
        some after ∧ after.key = "" := by
  rcases @agentSync_servers _ fromIsoformat round1 serverId db server sync stored with
    ⟨snapshot, servers, instant, key⟩
  have rowless : server.key = "" := by
    unfold learntKey at unknown
    unfold orDefault at unknown
    split at unknown
    · exact unknown
    · split at unknown
      · exact unknown
      · contradiction
  have nothing : server.publicKey.bind orNone = none := by
    unfold SyncedServer.key orDefault at rowless
    cases given : server.publicKey with
    | none => rfl
    | some text =>
        rw [given] at rowless
        by_cases blank : text = ""
        · rw [Option.bind_some, orNone, if_pos blank]
        · simp only [if_neg blank] at rowless
          exact absurd rowless blank
  have keyless : snapshot.endpoints.publicKey = none := by
    rw [key, unknown, nothing]
    rfl
  refine ⟨syncedServer snapshot server, ?_, ?_⟩
  · rw [servers, Dict.get?_set, if_pos rfl]
  · have same : (syncedServer snapshot server).publicKey = server.publicKey := by
      unfold syncedServer
      rw [keyless]
    unfold SyncedServer.key
    rw [same]
    exact rowless

/-- The key of a row after a run is the one learnt last. -/
theorem key_after_syncs {db : SyncDb} {server : SyncedServer} (syncs : List AgentSync)
    (stored : db.servers.get? serverId = some server) :
    ∃ after, (syncs.foldl (agentSync fromIsoformat round1 serverId) db).servers.get? serverId =
        some after ∧ after.key = syncs.foldl learntKey server.key := by
  induction syncs generalizing db server with
  | nil => exact ⟨server, stored, rfl⟩
  | cons sync rest ih =>
      rw [List.foldl_cons, List.foldl_cons]
      by_cases known : learntKey server.key sync = ""
      · rcases @agentSync_unknown _ fromIsoformat round1 serverId db server sync stored known with
          ⟨after, found, keyless⟩
        rw [known, ← keyless]
        exact ih found
      · rcases @agentSync_row _ fromIsoformat round1 serverId db server sync stored known with
          ⟨after, found, key, _, _⟩
        have held : after.key = learntKey server.key sync := by
          unfold SyncedServer.key
          rw [key]
          exact if_neg known
        rw [← held]
        exact ih found

/-- No heartbeat that a fetch of the server's key would look at has a key. -/
def NoHeartbeatKey (store : HeartbeatStore) (server : ServerRow) : Prop :=
  firstKey store (idsToTry server.id server.fallbackIds) = .ok none ∧
    scanCandidates store store.scanned = .ok []

/-- The fallback of a row with a key of full length is usable for an hour from its sync. -/
theorem usableFallback_row {row : ServerRow} {key : String} {syncedAt : Int} (checkedAt : Int)
    (holds : row.publicKey = some key) (instant : row.publicKeySyncedAt = some syncedAt)
    (long : keyMinLength ≤ (strip key).toList.length) :
    usableFallback checkedAt row.fallback =
      if checkedAt - syncedAt ≤ fallbackKeyMaxAgeSeconds * 1000000 then some (strip key)
      else none := by
  have nonempty : strip key ≠ "" := by
    intro blank
    rw [blank] at long
    exact absurd long (by decide)
  have given : key ≠ "" := by
    intro blank
    rw [blank] at nonempty
    exact nonempty rfl
  have whole : orDefault (some key) "" = key := if_neg given
  have kept : orDefault (some (strip key)) "" = strip key := if_neg nonempty
  have stripped : row.strippedKey = strip key := by
    unfold ServerRow.strippedKey
    rw [holds, whole]
  have passed : strip (orDefault row.fallback.publicKey "") = strip key := by
    unfold ServerRow.fallback
    dsimp only
    rw [stripped, orNone, if_neg nonempty, kept, strip_strip]
  have age : row.fallback.syncedAt = some syncedAt := instant
  unfold usableFallback
  dsimp only
  rw [passed, age, Option.all_some]
  by_cases fresh : checkedAt - syncedAt ≤ fallbackKeyMaxAgeSeconds * 1000000
  · rw [if_pos ⟨long, decide_eq_true fresh⟩, if_pos fresh]
  · rw [if_neg (fun both => fresh (of_decide_eq_true both.2)), if_neg fresh]

/-- Without a key in Redis, the fallback decides. -/
theorem adminServerKey_keyless {settings : FleetSettings} {sources : LiveSources}
    {store : HeartbeatStore} {row : ServerRow}
    (agents : settings.nodeDiscovery = .agent ∨ settings.nodeMode = .agent)
    (named : row.id ≠ "") (redis : sources.redis = .ok store)
    (keyless : NoHeartbeatKey store row) :
    adminServerKey settings sources row =
      (usableFallback sources.checkedAt row.fallback).elim
        (.error (.liveKey (.serverNotSynced row.id .noHeartbeat))) .ok := by
  unfold adminServerKey fetchServerKey liveKeyFetch
  rw [if_neg named, if_pos agents]
  unfold liveKeyFetchAgent
  rw [redis]
  dsimp only
  rw [keyless.1, keyless.2]
  cases usableFallback sources.checkedAt row.fallback with
  | none => rfl
  | some key => rfl

/-- With no key in Redis, a server that was synced is issued with the key learnt last, however
long ago that was, as long as the last sync is an hour old at most. -/
theorem stale_key_is_issued_iff {db : SyncDb} {server after : SyncedServer}
    {settings : FleetSettings} {sources : LiveSources} {store : HeartbeatStore}
    (syncs : List AgentSync) (last : AgentSync)
    (stored : db.servers.get? serverId = some server)
    (synced : ((syncs ++ [last]).foldl (agentSync fromIsoformat round1 serverId) db).servers.get?
      serverId = some after)
    (agents : settings.nodeDiscovery = .agent ∨ settings.nodeMode = .agent)
    (named : serverId ≠ "") (redis : sources.redis = .ok store)
    (keyless : NoHeartbeatKey store (after.keyRow serverId))
    (long : keyMinLength ≤ (strip ((syncs ++ [last]).foldl learntKey server.key)).toList.length) :
    adminServerKey settings sources (after.keyRow serverId) =
      if sources.checkedAt - last.now ≤ fallbackKeyMaxAgeSeconds * 1000000 then
        .ok (strip ((syncs ++ [last]).foldl learntKey server.key))
      else .error (.liveKey (.serverNotSynced serverId .noHeartbeat)) := by
  rcases @key_after_syncs _ fromIsoformat round1 serverId db server syncs stored with
    ⟨before, found, key⟩
  have learnt : (syncs ++ [last]).foldl learntKey server.key = learntKey before.key last := by
    rw [List.foldl_append, key]
    rfl
  rw [learnt] at long ⊢
  have known : learntKey before.key last ≠ "" := by
    intro blank
    rw [blank] at long
    exact absurd long (by decide)
  rcases @agentSync_row _ fromIsoformat round1 serverId _ before last found known with
    ⟨row, atEnd, holds, instant, _⟩
  have same : row = after := by
    rw [List.foldl_append, List.foldl_cons, List.foldl_nil, atEnd] at synced
    exact Option.some.inj synced
  subst same
  rw [adminServerKey_keyless agents named redis keyless,
    @usableFallback_row (row.keyRow serverId) _ _ sources.checkedAt holds instant long]
  by_cases fresh : sources.checkedAt - last.now ≤ fallbackKeyMaxAgeSeconds * 1000000
  · rw [if_pos fresh, if_pos fresh]
    rfl
  · rw [if_neg fresh, if_neg fresh]
    rfl

end Agents

/-! ### A server whose agent is gone -/

/-- A row with a key of long ago. -/
def staleServer : SyncedServer :=
  { name := "node-1", publicKey := some sampleKey, status := "healthy", isActive := true
    maxConnections := none, healthScore := some 1, isDraining := false, region := "eu"
    apiEndpoint := none, vpnEndpoint := none, publicKeySyncedAt := some 0
    keyStatus := some "verified", lastSnapshotAt := some 0 }

def staleDb : SyncDb := ⟨Dict.ofList [("node-1", staleServer)], Dict.empty, Dict.empty, []⟩

/-- A day later, without a heartbeat. -/
def lateSync : AgentSync := ⟨"job-1", 86400000000, .missing⟩

def noHeartbeats : LiveSources := ⟨.ok ⟨fun _ => .blank, []⟩, none, 86401000000, 86401000000⟩

theorem stale_key_is_issued :
    ∃ after, ((([] : List AgentSync) ++ [lateSync]).foldl
          (agentSync (fun _ => (none : Option Unit)) id "node-1") staleDb).servers.get? "node-1" =
        some after ∧
      adminServerKey ⟨.real, .agent, false⟩ noHeartbeats (after.keyRow "node-1") =
        .ok sampleKey := by
  refine ⟨_, rfl, ?_⟩
  rw [@stale_key_is_issued_iff Unit (fun _ => none) id "node-1" staleDb staleServer _
    ⟨.real, .agent, false⟩ noHeartbeats ⟨fun _ => .blank, []⟩ [] lateSync rfl rfl (Or.inl rfl)
    (by decide) rfl ⟨by decide +kernel, rfl⟩ (by decide +kernel)]
  decide +kernel

end VpnSuite.ControlPlane
