/-
The registry of servers under docker discovery (`services/topology_engine.py`, with
`api/v1/servers.py`, `api/v1/servers_crud.py`, `api/v1/cluster.py`, `api/v1/agent.py` and
`schemas/server.py`).

A scan writes the discovered containers into the rows whose endpoint is a `docker://` one and
switches the other such rows off.  It adds a row for every node that has none among them, so
that a row of the same id with another endpoint breaks the commit, and with it the whole scan.
Administrators change rows at any time between the scans, and heartbeats of agents add some.
-/

import VpnSuite.Foundations.DictionaryPatches
import VpnSuite.Foundations.PythonNumbers
import VpnSuite.ControlPlane.LiveKey
import Mathlib.Data.Rat.Defs

set_option autoImplicit false

namespace VpnSuite.ControlPlane

open Foundations
open Foundations.PythonText

/-! ### Rows -/

/-- The columns that only administrators write. -/
structure OperatorSettings where
  region : String
  presharedKey : Option String := none
  amneziaH1 : Option Int := none
  amneziaH2 : Option Int := none
  amneziaH3 : Option Int := none
  amneziaH4 : Option Int := none
  isDraining : Bool := false
  autoSyncEnabled : Bool := false
  autoSyncIntervalSec : Int := 60
  opsNotes : Option String := none
  opsNotesUpdatedAt : Option Int := none
  opsNotesUpdatedBy : Option String := none
  trafficLimitGb : Option Rat := none
  speedLimitMbps : Option Rat := none

structure RegistryRow where
  name : String
  apiEndpoint : String
  vpnEndpoint : Option String
  publicKey : Option String
  status : String
  isActive : Bool
  maxConnections : Option Int
  healthScore : Option Rat
  settings : OperatorSettings

/-- The table `servers`, by primary key. -/
abbrev Registry := Dict String RegistryRow

/-- `api_endpoint LIKE 'docker://%'` -/
def RegistryRow.isDocker (row : RegistryRow) : Bool :=
  dockerScheme.toList.isPrefixOf row.apiEndpoint.toList

/-! ### A scan -/

/-- What the registry reads of a discovered node. -/
structure ScannedNode where
  nodeId : String
  containerName : String
  publicKey : String
  listenPort : Int
  endpointIp : String
  status : String
  healthScore : Rat
  maxPeers : Int
  isDraining : Bool

def deriveVpnEndpoint (node : ScannedNode) : Option String :=
  if node.endpointIp ≠ "" ∧ node.listenPort ≠ 0 then
    some (node.endpointIp ++ ":" ++ toString node.listenPort)
  else none

/-- The row of a node that has none. -/
def newServer (node : ScannedNode) : RegistryRow where
  name := node.containerName
  apiEndpoint := dockerScheme ++ node.containerName
  vpnEndpoint := deriveVpnEndpoint node
  publicKey := orNone node.publicKey
  status := if node.status = "" then "unknown" else node.status
  isActive := node.status ≠ "unhealthy"
  maxConnections := some node.maxPeers
  healthScore := some node.healthScore
  settings := { region := "docker" }

/-- A positive limit of the row is the node's, otherwise the node's is the row's. -/
def adoptedPeers (row : RegistryRow) (node : ScannedNode) : Int :=
  match row.maxConnections with
  | some limit => if 0 < limit then limit else node.maxPeers
  | none => node.maxPeers

def refreshedServer (row : RegistryRow) (node : ScannedNode) : RegistryRow :=
  { row with
    name := node.containerName
    apiEndpoint := dockerScheme ++ node.containerName
    vpnEndpoint := (deriveVpnEndpoint node).or row.vpnEndpoint
    publicKey := (orNone node.publicKey).or row.publicKey
    status := if node.status = "" then row.status else node.status
    isActive := node.status ≠ "unhealthy"
    maxConnections := some (adoptedPeers row node)
    healthScore := some node.healthScore }

def unreachableServer (row : RegistryRow) : RegistryRow :=
  { row with isActive := false, status := "unreachable", healthScore := some 0 }

/-- The node as the topology shows it from then on. -/
def reflectedNode (existing : Registry) (node : ScannedNode) : ScannedNode :=
  match existing.get? node.nodeId with
  | some row => { node with
      maxPeers := adoptedPeers row node
      isDraining := row.settings.isDraining }
  | none => node

inductive RegistryError where
  | notFound (resource identifier : String)
  | conflict (detail : String)
  | unprocessable (detail : String)
  | integrity

def discoveredNodes (nodes : List ScannedNode) : Dict String ScannedNode :=
  Dict.ofList (nodes.map (fun node => (node.nodeId, node)))

def dockerRows (registry : Registry) : Registry := registry.sift (fun entry => entry.2.isDocker)

/-- The row that the sync writes for a discovered node. -/
def scannedRow (existing : Registry) (node : ScannedNode) : RegistryRow :=
  match existing.get? node.nodeId with
  | some row => refreshedServer row node
  | none => newServer node

def scannedRows (registry : Registry) (nodes : List ScannedNode) : Registry :=
  (discoveredNodes nodes).mapValues (scannedRow (dockerRows registry))

/-- The docker rows of no discovered node. -/
def goneRows (registry : Registry) (nodes : List ScannedNode) : Registry :=
  ((dockerRows registry).sift (fun entry => entry.1 ∉ (discoveredNodes nodes).keys)).mapValues
    unreachableServer

/-- The primary keys that the sync adds although the table has them. -/
def takenKeys (registry : Registry) (nodes : List ScannedNode) : List String :=
  (discoveredNodes nodes).keys.filter (fun id =>
    (dockerRows registry).get? id = none ∧ registry.get? id ≠ none)

/-- `_sync_discovered_nodes`: what it commits, and the nodes as it leaves them. -/
def syncDiscoveredNodes (nodeDiscovery : String) (registry : Registry)
    (nodes : List ScannedNode) : Except RegistryError Registry × Dict String ScannedNode :=
  if nodeDiscovery ≠ "docker" then (.ok registry, discoveredNodes nodes)
  else
    let reflected := (discoveredNodes nodes).mapValues (reflectedNode (dockerRows registry))
    if takenKeys registry nodes ≠ [] then (.error .integrity, reflected)
    else
      (.ok ((registry.merge (scannedRows registry nodes)).merge (goneRows registry nodes)),
        reflected)

/-! ### Requests of administrators -/

/-- The characters that `urlsplit` takes off the front of a text. -/
def isControlOrSpace (char : Char) : Bool := char.toNat ≤ 32

def isSchemeChar (char : Char) : Bool :=
  isAsciiAlphanumeric char || char == '+' || char == '-' || char == '.'

/-- `urlparse(url).scheme` -/
def urlScheme (url : List Char) : List Char :=
  let cleaned := (url.dropWhile isControlOrSpace).filter (fun char =>
    char ≠ '\t' ∧ char ≠ '\n' ∧ char ≠ '\r')
  let head := cleaned.takeWhile (fun char => char ≠ ':')
  if ':' ∈ cleaned ∧ (head.head?.any Char.isAlpha) ∧ head.all isSchemeChar then
    head.map Char.toLower
  else []

/-- What the deployment fixes: which urls have a host, which have one that no server may have,
and what `str.isalnum` accepts. -/
structure RegistryRules where
  nodeDiscovery : String
  hasHost : String → Bool
  refusesHost : String → Bool
  isAlnum : Char → Bool
  alnumColon : isAlnum ':' = false

/-- A bare host is one over http. -/
def endpointUrl (value : String) : String :=
  if contains "://" (strip value) then strip value else "http://" ++ strip value

/-- The check of an endpoint, with what is said of one without a host. -/
def acceptedEndpoint (rules : RegistryRules) (hostless value : String) : Except String String :=
  if urlScheme (endpointUrl value).toList ≠ "https".toList ∧
      urlScheme (endpointUrl value).toList ≠ "http".toList then
    .error "api_endpoint must be https or http URL"
  else if !rules.hasHost (endpointUrl value) then .error hostless
  else if rules.refusesHost (endpointUrl value) then
    .error "api_endpoint must not point to private or localhost"
  else .ok (endpointUrl value)

/-- `api_endpoint_https_no_private` of a server to create. -/
def createdEndpoint (rules : RegistryRules) (value : String) : Except String String :=
  acceptedEndpoint rules "api_endpoint must have a host" value

/-- `api_endpoint_https_no_private` of a server to update. -/
def updatedEndpoint (rules : RegistryRules) (value : String) : Except String String :=
  acceptedEndpoint rules "api_endpoint must not point to private or localhost" value

/-- `_validate_vpn_endpoint` -/
def validateVpnEndpoint : Option String → Except String (Option String)
  | none => .ok none
  | some value =>
      let text := stripChars value.toList
      if text = [] then .ok none
      else if ':' ∉ text then
        .error "vpn_endpoint must be host:port (e.g. vpn.example.com:47604)"
      else if stripChars (rpartition ':' text).1 = [] then
        .error "vpn_endpoint must have a host"
      else
        match intOfChars (stripChars (rpartition ':' text).2) with
        | none => .error "vpn_endpoint port must be numeric"
        | some port =>
            if 1 ≤ port ∧ port ≤ 65535 then .ok (some (String.ofList text))
            else .error "vpn_endpoint port must be 1-65535"

def isIdChar (rules : RegistryRules) (char : Char) : Bool :=
  rules.isAlnum char || char == '-' || char == '_'

/-- `id_format` -/
def validateId (rules : RegistryRules) : Option String → Except String (Option String)
  | none => .ok none
  | some value =>
      if value = "" then .ok none
      else if (strip value).length < 1 ∨ 32 < (strip value).length then
        .error "id must be 1–32 characters"
      else if (strip value).toList.all (isIdChar rules) then .ok (some (strip value))
      else .error "id must be alphanumeric, hyphen, or underscore"

structure ServerCreate where
  id : Option String := none
  name : String
  region : String
  apiEndpoint : String
  vpnEndpoint : Option String := none
  publicKey : Option String := none
  presharedKey : Option String := none
  amneziaH1 : Option Int := none
  amneziaH2 : Option Int := none
  amneziaH3 : Option Int := none
  amneziaH4 : Option Int := none

/-- A `uuid4().hex`. -/
structure FreshId where
  text : String
  plain : ':' ∉ text.toList

/-- `create_server`, with the validators of its body. -/
def createServer (rules : RegistryRules) (registry : Registry) (fresh : FreshId)
    (body : ServerCreate) : Except RegistryError Registry := do
  let id ← (validateId rules body.id).mapError .unprocessable
  let apiEndpoint ← (createdEndpoint rules body.apiEndpoint).mapError .unprocessable
  let vpnEndpoint ← (validateVpnEndpoint body.vpnEndpoint).mapError .unprocessable
  if registry.get? (id.getD fresh.text) ≠ none then
    match id with
    | some taken => .error (.conflict ("Server with id='" ++ taken ++ "' already exists"))
    | none => .error .integrity
  else
    .ok (registry.set (id.getD fresh.text)
      { name := body.name
        apiEndpoint := apiEndpoint
        vpnEndpoint := vpnEndpoint
        publicKey := body.publicKey
        status := "unknown"
        isActive := true
        maxConnections := none
        healthScore := none
        settings :=
          { region := body.region
            presharedKey := body.presharedKey
            amneziaH1 := body.amneziaH1
            amneziaH2 := body.amneziaH2
            amneziaH3 := body.amneziaH3
            amneziaH4 := body.amneziaH4 } })

/-- A key of a body: left out, null or a value. -/
abbrev BodyField (α : Type) := Option (Option α)

/-- What a column that may be null holds afterwards. -/
def BodyField.written {α : Type} (field : BodyField α) (old : Option α) : Option α :=
  field.getD old

/-- What a column that may not be null holds afterwards, unless the key is null. -/
def BodyField.required {α : Type} (field : BodyField α) (old : α) : α := field.join.getD old

structure ServerUpdate where
  name : BodyField String := none
  region : BodyField String := none
  apiEndpoint : BodyField String := none
  vpnEndpoint : BodyField String := none
  publicKey : BodyField String := none
  presharedKey : BodyField String := none
  amneziaH1 : BodyField Int := none
  amneziaH2 : BodyField Int := none
  amneziaH3 : BodyField Int := none
  amneziaH4 : BodyField Int := none
  opsNotes : BodyField String := none
  isActive : BodyField Bool := none
  autoSyncEnabled : BodyField Bool := none
  autoSyncIntervalSec : BodyField Int := none

/-- The flush fails at a null in a column that may not be null. -/
def ServerUpdate.breaksNotNull (body : ServerUpdate) : Bool :=
  body.name = some none || body.region = some none || body.apiEndpoint = some none ||
    body.isActive = some none || body.autoSyncEnabled = some none ||
    body.autoSyncIntervalSec = some none

def validatedEndpoint (rules : RegistryRules) : BodyField String →
    Except RegistryError (BodyField String)
  | some (some value) =>
      ((updatedEndpoint rules value).map (fun url => some (some url))).mapError .unprocessable
  | field => .ok field

def validatedVpnEndpoint : BodyField String → Except RegistryError (BodyField String)
  | some value => ((validateVpnEndpoint value).map some).mapError .unprocessable
  | none => .ok none

/-- The validators run on the keys that are there. -/
def validatedUpdate (rules : RegistryRules) (body : ServerUpdate) :
    Except RegistryError ServerUpdate := do
  let apiEndpoint ← validatedEndpoint rules body.apiEndpoint
  let vpnEndpoint ← validatedVpnEndpoint body.vpnEndpoint
  .ok { body with apiEndpoint := apiEndpoint, vpnEndpoint := vpnEndpoint }

/-- Who changes a row, and when. -/
structure Editor where
  adminId : Option String
  now : Int

def settingsAfter (settings : OperatorSettings) (editor : Editor) (body : ServerUpdate) :
    OperatorSettings :=
  { settings with
    region := body.region.required settings.region
    presharedKey := body.presharedKey.written settings.presharedKey
    amneziaH1 := body.amneziaH1.written settings.amneziaH1
    amneziaH2 := body.amneziaH2.written settings.amneziaH2
    amneziaH3 := body.amneziaH3.written settings.amneziaH3
    amneziaH4 := body.amneziaH4.written settings.amneziaH4
    autoSyncEnabled := body.autoSyncEnabled.required settings.autoSyncEnabled
    autoSyncIntervalSec := body.autoSyncIntervalSec.required settings.autoSyncIntervalSec
    opsNotes := body.opsNotes.written settings.opsNotes
    opsNotesUpdatedAt :=
      if body.opsNotes = none then settings.opsNotesUpdatedAt else some editor.now
    opsNotesUpdatedBy :=
      if body.opsNotes = none then settings.opsNotesUpdatedBy else editor.adminId }

/-- The row with the keys of the body set on it. -/
def rowAfter (row : RegistryRow) (editor : Editor) (body : ServerUpdate) : RegistryRow :=
  { row with
    name := body.name.required row.name
    apiEndpoint := body.apiEndpoint.required row.apiEndpoint
    isActive := body.isActive.required row.isActive
    vpnEndpoint := body.vpnEndpoint.written row.vpnEndpoint
    publicKey := body.publicKey.written row.publicKey
    settings := settingsAfter row.settings editor body }

def updateServer (rules : RegistryRules) (registry : Registry) (id : String) (editor : Editor)
    (body : ServerUpdate) : Except RegistryError Registry := do
  let checked ← validatedUpdate rules body
  match registry.get? id with
  | none => .error (.notFound "Server" id)
  | some row =>
      if checked.autoSyncEnabled = some (some false) ∧ row.isActive = true then
        .error (.unprocessable "Auto-sync cannot be disabled for active servers")
      else if checked.breaksNotNull then .error .integrity
      else .ok (registry.set id (rowAfter row editor checked))

/-- `delete_server`, with the number of its devices.  The flush sets the server of its health
logs to null, so that a server that has any is kept. -/
def deleteServer (registry : Registry) (id : String) (devices : Nat) (logged : Bool) :
    Except RegistryError Registry :=
  match registry.get? id with
  | none => .error (.notFound "Server" id)
  | some _ =>
      if 0 < devices then
        .error (.conflict ("Cannot delete server: " ++ toString devices ++
          " device(s) reference it. Move or revoke devices first."))
      else if logged then .error .integrity
      else .ok (registry.erase id)

structure ServerLimitsUpdate where
  trafficLimitGb : BodyField Rat := none
  speedLimitMbps : BodyField Rat := none
  maxConnections : BodyField Int := none

def ServerLimitsUpdate.apply (body : ServerLimitsUpdate) (row : RegistryRow) : RegistryRow :=
  { row with
    maxConnections := body.maxConnections.written row.maxConnections
    settings :=
      { row.settings with
        trafficLimitGb := body.trafficLimitGb.written row.settings.trafficLimitGb
        speedLimitMbps := body.speedLimitMbps.written row.settings.speedLimitMbps } }

def updateServerLimits (registry : Registry) (id : String) (body : ServerLimitsUpdate) :
    Except RegistryError Registry :=
  match registry.get? id with
  | none => .error (.notFound "Server" id)
  | some row => .ok (registry.set id (body.apply row))

inductive BulkAction where
  | markDraining
  | unmarkDraining
  | disableProvisioning
  | enableProvisioning

def BulkAction.apply (action : BulkAction) (row : RegistryRow) : RegistryRow :=
  match action with
  | .markDraining => { row with settings := { row.settings with isDraining := true } }
  | .unmarkDraining => { row with settings := { row.settings with isDraining := false } }
  | .disableProvisioning => { row with isActive := false }
  | .enableProvisioning => { row with isActive := true }

/-- `bulk_update_servers` with an accepted token; a `drain_node`, an `undrain_node` and a drain
action are the requests of one id. -/
def bulkUpdateServers (registry : Registry) (action : BulkAction) (ids : List String) :
    Except RegistryError Registry :=
  match ids.find? (fun id => registry.get? id = none) with
  | some missing => .error (.notFound "Server" missing)
  | none => .ok (registry.merge
      ((registry.sift (fun entry => entry.1 ∈ ids)).mapValues action.apply))

/-- What background tasks write of a row: the health checks its state and activity, a sync of
the server its state, endpoint and key. -/
structure TaskWrite where
  status : Option String := none
  isActive : Option Bool := none
  healthScore : Option (Option Rat) := none
  vpnEndpoint : Option String := none
  publicKey : Option String := none

def TaskWrite.apply (write : TaskWrite) (row : RegistryRow) : RegistryRow :=
  { row with
    status := write.status.getD row.status
    isActive := write.isActive.getD row.isActive
    healthScore := write.healthScore.getD row.healthScore
    vpnEndpoint := write.vpnEndpoint.or row.vpnEndpoint
    publicKey := write.publicKey.or row.publicKey }

def writeServer (registry : Registry) (id : String) (write : TaskWrite) :
    Except RegistryError Registry :=
  match registry.get? id with
  | none => .error (.notFound "Server" id)
  | some row => .ok (registry.set id (write.apply row))

/-! ### Heartbeats of agents -/

/-- What the registry reads of a heartbeat. -/
structure RegistryHeartbeat where
  serverId : String
  containerName : String
  status : String
  publicKey : String

/-- `_heartbeat_public_key` -/
def heartbeatPublicKey (payload : RegistryHeartbeat) : Option String :=
  let key := strip payload.publicKey
  if keyMinLength ≤ key.toList.length then some key else none

/-- The row of a heartbeat from a server that has none. -/
def heartbeatServer (sid : String) (payload : RegistryHeartbeat) : RegistryRow where
  name :=
    let given := strip (if payload.containerName = "" then sid else payload.containerName)
    let named := if given = "(no container)" then sid else given
    slice 255 (if named = "" then sid else named)
  apiEndpoint :=
    let container := payload.containerName
    slice 512 (dockerScheme ++
      if container ≠ "" ∧ container ≠ "(no container)" then container else sid)
  vpnEndpoint := none
  publicKey := heartbeatPublicKey payload
  status := if payload.status = "" then "unknown" else payload.status
  isActive := true
  maxConnections := none
  healthScore := none
  settings := { region := "docker" }

/-- `_ensure_server_from_heartbeat` -/
def ensureServerFromHeartbeat (registry : Registry) (payload : RegistryHeartbeat) : Registry :=
  let sid := slice 32 payload.serverId
  if sid = "" then registry
  else
    match registry.get? sid with
    | some _ => registry
    | none => registry.set sid (heartbeatServer sid payload)

/-- The row of the server of a heartbeat, with its key. -/
def keyedRow (payload : RegistryHeartbeat) (row : RegistryRow) : RegistryRow :=
  match heartbeatPublicKey payload with
  | none => row
  | some key =>
      if strip (row.publicKey.getD "") ≠ key then { row with publicKey := some key } else row

/-- What `agent_heartbeat` makes of the registry once the heartbeat is stored. -/
def agentHeartbeat (registry : Registry) (payload : RegistryHeartbeat) : Registry :=
  let ensured := ensureServerFromHeartbeat registry payload
  match ensured.get? payload.serverId with
  | none => ensured
  | some row => ensured.set payload.serverId (keyedRow payload row)

/-! ### Runs -/

inductive RegistryEvent where
  | scan (nodes : List ScannedNode)
  | create (fresh : FreshId) (body : ServerCreate)
  | update (id : String) (editor : Editor) (body : ServerUpdate)
  | delete (id : String) (devices : Nat) (logged : Bool)
  | limits (id : String) (body : ServerLimitsUpdate)
  | bulk (action : BulkAction) (ids : List String)
  | heartbeat (payload : RegistryHeartbeat)
  | task (id : String) (write : TaskWrite)

def RegistryEvent.isScan : RegistryEvent → Bool
  | .scan _ => true
  | _ => false

def registryOutcome (rules : RegistryRules) (registry : Registry) :
    RegistryEvent → Except RegistryError Registry
  | .scan nodes => (syncDiscoveredNodes rules.nodeDiscovery registry nodes).1
  | .create fresh body => createServer rules registry fresh body
  | .update id editor body => updateServer rules registry id editor body
  | .delete id devices logged => deleteServer registry id devices logged
  | .limits id body => updateServerLimits registry id body
  | .bulk action ids => bulkUpdateServers registry action ids
  | .heartbeat payload => .ok (agentHeartbeat registry payload)
  | .task id write => writeServer registry id write

/-- What fails leaves the registry as it was. -/
def registryStep (rules : RegistryRules) (registry : Registry) (event : RegistryEvent) :
    Registry :=
  match registryOutcome rules registry event with
  | .ok written => written
  | .error _ => registry

/-! ### What a scan does to a row -/

/-- A row that scans leave out. -/
def ForeignRow (registry : Registry) (id : String) : Prop :=
  ∃ row, registry.get? id = some row ∧ row.isDocker = false

section Scans

variable {registry written : Registry} {nodes : List ScannedNode} {id : String}
  {node : ScannedNode}

theorem discovered_id (found : (discoveredNodes nodes).get? id = some node) :
    node.nodeId = id ∧ node ∈ nodes := by
  unfold discoveredNodes at found
  rw [Dict.get?_ofList] at found
  have member := List.mem_reverse.mp (mem_of_lookup found)
  rcases List.mem_map.mp member with ⟨listed, present, pair⟩
  rcases Prod.mk.inj pair with ⟨same, listedNode⟩
  subst listedNode
  exact ⟨same, present⟩

theorem mem_discovered : id ∈ (discoveredNodes nodes).keys ↔ ∃ node ∈ nodes, node.nodeId = id := by
  unfold discoveredNodes
  rw [Dict.mem_keys_ofList, List.map_map]
  exact List.mem_map

theorem dockerRows_none_of_foreign (foreign : ForeignRow registry id) :
    (dockerRows registry).get? id = none := by
  rcases foreign with ⟨row, present, plain⟩
  cases found : (dockerRows registry).get? id with
  | none => rfl
  | some other =>
      unfold dockerRows at found
      rw [Dict.get?_sift, present] at found
      rcases found with ⟨same, docker⟩
      cases same
      rw [plain] at docker
      cases docker

theorem foreign_iff_taken :
    ForeignRow registry id ↔
      (dockerRows registry).get? id = none ∧ registry.get? id ≠ none := by
  constructor
  · intro foreign
    refine ⟨dockerRows_none_of_foreign foreign, ?_⟩
    rcases foreign with ⟨row, present, _⟩
    rw [present]
    intro impossible
    cases impossible
  · intro both
    rcases both with ⟨missing, present⟩
    rcases Option.ne_none_iff_exists'.mp present with ⟨row, found⟩
    refine ⟨row, found, ?_⟩
    rw [← Bool.not_eq_true]
    intro docker
    have listed : (dockerRows registry).get? id = some row := by
      unfold dockerRows
      rw [Dict.get?_sift]
      exact ⟨found, docker⟩
    rw [missing] at listed
    cases listed

/-- The commit fails exactly when a discovered node has the id of a foreign row. -/
theorem takenKeys_ne_nil_iff :
    takenKeys registry nodes ≠ [] ↔ ∃ node ∈ nodes, ForeignRow registry node.nodeId := by
  constructor
  · intro some
    rcases List.exists_mem_of_ne_nil _ some with ⟨taken, member⟩
    unfold takenKeys at member
    rw [List.mem_filter, decide_eq_true_iff, mem_discovered, ← foreign_iff_taken] at member
    rcases member with ⟨⟨found, listed, same⟩, foreign⟩
    exact ⟨found, listed, same.symm ▸ foreign⟩
  · intro some
    rcases some with ⟨found, listed, foreign⟩
    apply List.ne_nil_of_mem (a := found.nodeId)
    unfold takenKeys
    rw [List.mem_filter, decide_eq_true_iff, mem_discovered, ← foreign_iff_taken]
    exact ⟨⟨found, listed, rfl⟩, foreign⟩

theorem sync_lost_iff :
    (syncDiscoveredNodes "docker" registry nodes).1 = .error .integrity ↔
      ∃ node ∈ nodes, ForeignRow registry node.nodeId := by
  rw [← takenKeys_ne_nil_iff]
  unfold syncDiscoveredNodes
  rw [if_neg (fun different => different rfl)]
  split
  · rename_i taken
    exact iff_of_true rfl taken
  · rename_i free
    refine iff_of_false ?_ free
    intro impossible
    cases impossible

theorem sync_eq_ok {nodeDiscovery : String}
    (committed : (syncDiscoveredNodes nodeDiscovery registry nodes).1 = .ok written) :
    written = registry ∨ (takenKeys registry nodes = [] ∧
      written = (registry.merge (scannedRows registry nodes)).merge (goneRows registry nodes)) := by
  unfold syncDiscoveredNodes at committed
  split at committed
  · cases committed
    exact Or.inl rfl
  · split at committed
    · cases committed
    · rename_i free
      cases committed
      exact Or.inr ⟨not_not.mp free, rfl⟩

theorem get?_goneRows {row : RegistryRow} :
    (goneRows registry nodes).get? id = some row ↔
      ∃ old, registry.get? id = some old ∧ old.isDocker = true ∧
        id ∉ (discoveredNodes nodes).keys ∧ row = unreachableServer old := by
  unfold goneRows dockerRows
  rw [Dict.get?_mapValues, Option.map_eq_some_iff]
  constructor
  · intro some
    rcases some with ⟨old, found, same⟩
    rw [Dict.get?_sift, Dict.get?_sift, decide_eq_true_iff] at found
    exact ⟨old, found.1.1, found.1.2, found.2, same.symm⟩
  · intro some
    rcases some with ⟨old, found, docker, missing, same⟩
    refine ⟨old, ?_, same.symm⟩
    rw [Dict.get?_sift, Dict.get?_sift, decide_eq_true_iff]
    exact ⟨⟨found, docker⟩, missing⟩

/-- What a committed scan leaves under a key. -/
inductive Scanned (registry : Registry) (nodes : List ScannedNode) (id : String) :
    Option RegistryRow → Prop where
  | found (node : ScannedNode) (member : node ∈ nodes) (same : node.nodeId = id) :
      Scanned registry nodes id (some (scannedRow (dockerRows registry) node))
  | gone (row : RegistryRow) (present : registry.get? id = some row)
      (docker : row.isDocker = true) (missing : id ∉ (discoveredNodes nodes).keys) :
      Scanned registry nodes id (some (unreachableServer row))
  | kept (missing : id ∉ (discoveredNodes nodes).keys)
      (other : ∀ row, registry.get? id = some row → row.isDocker = false) :
      Scanned registry nodes id (registry.get? id)

theorem scanned_merge :
    Scanned registry nodes id (((registry.merge (scannedRows registry nodes)).merge
      (goneRows registry nodes)).get? id) := by
  rw [Dict.get?_merge, Dict.get?_merge]
  cases gone : (goneRows registry nodes).get? id with
  | some row =>
      rcases get?_goneRows.mp gone with ⟨old, present, docker, missing, same⟩
      rw [same]
      exact .gone old present docker missing
  | none =>
      rw [Option.none_or]
      unfold scannedRows
      rw [Dict.get?_mapValues]
      cases found : (discoveredNodes nodes).get? id with
      | some node =>
          rcases discovered_id found with ⟨same, member⟩
          exact .found node member same
      | none =>
          have missing := (Dict.get?_eq_none_iff _ _).mp found
          refine .kept missing ?_
          intro row present
          rw [← Bool.not_eq_true]
          intro docker
          have listed := get?_goneRows.mpr ⟨row, present, docker, missing, rfl⟩
          rw [gone] at listed
          cases listed

end Scans

theorem isDocker_of_prefix {row : RegistryRow} (name : String)
    (endpoint : row.apiEndpoint = dockerScheme ++ name) : row.isDocker = true := by
  unfold RegistryRow.isDocker
  rw [endpoint, String.toList_append, List.isPrefixOf_iff_prefix]
  exact List.prefix_append _ _

theorem scannedRow_isDocker (existing : Registry) (node : ScannedNode) :
    (scannedRow existing node).isDocker = true := by
  apply isDocker_of_prefix node.containerName
  unfold scannedRow
  split
  · rfl
  · rfl

/-- Scans neither make rows foreign nor take foreign rows over. -/
theorem foreign_of_scan {rules : RegistryRules} {registry written : Registry}
    {nodes : List ScannedNode}
    (committed : (syncDiscoveredNodes rules.nodeDiscovery registry nodes).1 = .ok written)
    (id : String) : ForeignRow written id ↔ ForeignRow registry id := by
  rcases sync_eq_ok committed with same | ⟨free, same⟩
  · rw [same]
  · have scanned := @scanned_merge registry nodes id
    rw [← same] at scanned
    unfold ForeignRow
    generalize written.get? id = after at scanned
    cases scanned with
    | found node member atId =>
        apply iff_of_false
        · intro foreign
          rcases foreign with ⟨row, present, plain⟩
          cases present
          rw [scannedRow_isDocker] at plain
          cases plain
        · intro foreign
          apply takenKeys_ne_nil_iff.mpr ⟨node, member, ?_⟩ free
          rw [atId]
          exact foreign
    | gone row present docker missing =>
        rw [present]
        apply iff_of_false
        · intro foreign
          rcases foreign with ⟨other, same, plain⟩
          cases same
          exact absurd (docker.symm.trans plain) (by decide)
        · intro foreign
          rcases foreign with ⟨other, same, plain⟩
          cases same
          rw [docker] at plain
          cases plain
    | kept missing other => rfl

/-- No accepted endpoint is the one of a container. -/
theorem acceptedEndpoint_plain {rules : RegistryRules} {hostless value url : String}
    (accepted : acceptedEndpoint rules hostless value = .ok url) :
    dockerScheme.toList.isPrefixOf url.toList = false := by
  rw [← Bool.not_eq_true, List.isPrefixOf_iff_prefix]
  intro docker
  rcases docker with ⟨rest, whole⟩
  have scheme : urlScheme url.toList = "docker".toList := by
    rw [← whole]
    unfold urlScheme
    have clean : (dockerScheme.toList ++ rest).dropWhile isControlOrSpace =
        dockerScheme.toList ++ rest := rfl
    rw [clean, List.filter_append]
    have kept : dockerScheme.toList.filter (fun char =>
        char ≠ '\t' ∧ char ≠ '\n' ∧ char ≠ '\r') = dockerScheme.toList := by decide
    rw [kept]
    have head : (dockerScheme.toList ++ rest.filter (fun char =>
        char ≠ '\t' ∧ char ≠ '\n' ∧ char ≠ '\r')).takeWhile (fun char => char ≠ ':') =
        "docker".toList := rfl
    simp only [head]
    rw [if_pos]
    · decide
    · refine ⟨List.mem_append_left _ (by decide), ?_⟩
      decide
  unfold acceptedEndpoint at accepted
  split at accepted
  · cases accepted
  · rename_i known
    split at accepted
    · cases accepted
    · split at accepted
      · cases accepted
      · rw [Except.ok.inj accepted, scheme] at known
        exact known ⟨by decide, by decide⟩

theorem validateId_plain {rules : RegistryRules} {value : Option String} {id : String}
    (accepted : validateId rules value = .ok (some id)) : ':' ∉ id.toList := by
  intro member
  cases value with
  | none => cases accepted
  | some text =>
      unfold validateId at accepted
      dsimp only at accepted
      split at accepted
      · cases accepted
      · split at accepted
        · cases accepted
        · split at accepted
          · rename_i listed
            cases accepted
            have allowed := List.all_eq_true.mp listed ':' member
            unfold isIdChar at allowed
            rw [rules.alnumColon] at allowed
            exact absurd allowed (by decide)
          · cases accepted

section Requests

variable {rules : RegistryRules} {registry written : Registry} {id : String} {editor : Editor}
  {body : ServerUpdate}

/-- A created row has a key that was free and is no container's. -/
theorem createServer_ok {fresh : FreshId} {body : ServerCreate}
    (created : createServer rules registry fresh body = .ok written) :
    ∃ key row, written = registry.set key row ∧ registry.get? key = none ∧
      ':' ∉ key.toList ∧ row.isDocker = false := by
  unfold createServer at created
  rw [bind_eq_ok] at created
  rcases created with ⟨key, validKey, created⟩
  rw [bind_eq_ok] at created
  rcases created with ⟨endpoint, validEndpoint, created⟩
  rw [bind_eq_ok] at created
  rcases created with ⟨vpnEndpoint, validVpn, created⟩
  rw [mapError_eq_ok] at validKey validEndpoint
  split at created
  · split at created
    · cases created
    · cases created
  · rename_i free
    cases created
    refine ⟨_, _, rfl, not_not.mp free, ?_, acceptedEndpoint_plain validEndpoint⟩
    cases key with
    | none => exact fresh.plain
    | some name => exact validateId_plain validKey

theorem validatedUpdate_ok {checked : ServerUpdate}
    (valid : validatedUpdate rules body = .ok checked) :
    checked.autoSyncEnabled = body.autoSyncEnabled ∧
      ∃ endpoint vpnEndpoint, validatedEndpoint rules body.apiEndpoint = .ok endpoint ∧
        checked = { body with apiEndpoint := endpoint, vpnEndpoint := vpnEndpoint } := by
  unfold validatedUpdate at valid
  rw [bind_eq_ok] at valid
  rcases valid with ⟨endpoint, validEndpoint, valid⟩
  rw [bind_eq_ok] at valid
  rcases valid with ⟨vpnEndpoint, validVpn, valid⟩
  cases valid
  exact ⟨rfl, endpoint, vpnEndpoint, validEndpoint, rfl⟩

theorem updateServer_ok (updated : updateServer rules registry id editor body = .ok written) :
    ∃ row checked, registry.get? id = some row ∧ validatedUpdate rules body = .ok checked ∧
      ¬ (checked.autoSyncEnabled = some (some false) ∧ row.isActive = true) ∧
      checked.breaksNotNull = false ∧ written = registry.set id (rowAfter row editor checked) := by
  unfold updateServer at updated
  rw [bind_eq_ok] at updated
  rcases updated with ⟨checked, valid, updated⟩
  cases present : registry.get? id with
  | none =>
      rw [present] at updated
      cases updated
  | some row =>
      rw [present] at updated
      dsimp only at updated
      split at updated
      · cases updated
      · rename_i permitted
        split at updated
        · cases updated
        · rename_i complete
          cases updated
          exact ⟨row, checked, rfl, valid, permitted, Bool.not_eq_true _ ▸ complete, rfl⟩

/-- The request gives the server an endpoint. -/
def ServerUpdate.movesEndpoint (body : ServerUpdate) : Prop :=
  ∃ value, body.apiEndpoint = some (some value)

/-- A row with a new endpoint is foreign, any other keeps its endpoint. -/
theorem rowAfter_isDocker {row : RegistryRow} {checked : ServerUpdate}
    (valid : validatedUpdate rules body = .ok checked) (complete : checked.breaksNotNull = false) :
    (rowAfter row editor checked).isDocker = false ↔
      body.movesEndpoint ∨ row.isDocker = false := by
  rcases (validatedUpdate_ok valid).2 with ⟨endpoint, vpnEndpoint, validEndpoint, same⟩
  have after : (rowAfter row editor checked).apiEndpoint =
      BodyField.required endpoint row.apiEndpoint := by rw [same]; rfl
  unfold RegistryRow.isDocker
  rw [after]
  unfold ServerUpdate.movesEndpoint
  rcases given : body.apiEndpoint with _ | _ | value
  · rw [given] at validEndpoint
    cases validEndpoint
    constructor
    · intro plain
      exact Or.inr plain
    · intro cases
      rcases cases with ⟨value, impossible⟩ | plain
      · cases impossible
      · exact plain
  · rw [given] at validEndpoint
    cases validEndpoint
    rw [same] at complete
    simp [ServerUpdate.breaksNotNull] at complete
  · rw [given] at validEndpoint
    unfold validatedEndpoint at validEndpoint
    rw [mapError_eq_ok] at validEndpoint
    cases accepted : updatedEndpoint rules value with
    | error message =>
        rw [accepted] at validEndpoint
        cases validEndpoint
    | ok url =>
        rw [accepted] at validEndpoint
        cases validEndpoint
        exact iff_of_true (acceptedEndpoint_plain accepted) (Or.inl ⟨value, rfl⟩)

theorem deleteServer_ok {devices : Nat} {logged : Bool}
    (deleted : deleteServer registry id devices logged = .ok written) :
    devices = 0 ∧ logged = false ∧ written = registry.erase id := by
  unfold deleteServer at deleted
  split at deleted
  · cases deleted
  · split at deleted
    · cases deleted
    · split at deleted
      · cases deleted
      · rename_i free plain
        cases deleted
        exact ⟨by omega, Bool.not_eq_true _ ▸ plain, rfl⟩

theorem bulkUpdateServers_ok {action : BulkAction} {ids : List String}
    (updated : bulkUpdateServers registry action ids = .ok written) (id : String) :
    written.get? id =
      if id ∈ ids then (registry.get? id).map action.apply else registry.get? id := by
  unfold bulkUpdateServers at updated
  split at updated
  · cases updated
  · cases updated
    rw [Dict.get?_merge, Dict.get?_mapValues]
    cases listed : (registry.sift (fun entry => entry.1 ∈ ids)).get? id with
    | some row =>
        rw [Dict.get?_sift, decide_eq_true_iff] at listed
        rw [if_pos listed.2, listed.1]
        rfl
    | none =>
        rw [Option.map_none, Option.none_or]
        split
        · rename_i member
          cases present : registry.get? id with
          | none => rfl
          | some row =>
              have found : (registry.sift (fun entry => entry.1 ∈ ids)).get? id = some row := by
                rw [Dict.get?_sift, decide_eq_true_iff]
                exact ⟨present, member⟩
              rw [listed] at found
              cases found
        · rfl

theorem updateServerLimits_ok {body : ServerLimitsUpdate}
    (updated : updateServerLimits registry id body = .ok written) :
    ∃ row, registry.get? id = some row ∧ written = registry.set id (body.apply row) := by
  unfold updateServerLimits at updated
  split at updated
  · cases updated
  · rename_i row present
    cases updated
    exact ⟨row, present, rfl⟩

theorem writeServer_ok {write : TaskWrite}
    (done : writeServer registry id write = .ok written) :
    ∃ row, registry.get? id = some row ∧ written = registry.set id (write.apply row) := by
  unfold writeServer at done
  split at done
  · cases done
  · rename_i row present
    cases done
    exact ⟨row, present, rfl⟩

end Requests

/-! ### What a heartbeat does -/

section Heartbeats

variable {registry : Registry} {payload : RegistryHeartbeat} {id : String} {row : RegistryRow}

theorem heartbeatServer_isDocker (sid : String) (payload : RegistryHeartbeat) :
    (heartbeatServer sid payload).isDocker = true := by
  unfold RegistryRow.isDocker heartbeatServer slice
  dsimp only
  rw [String.toList_ofList, String.toList_append, List.take_append, List.isPrefixOf_iff_prefix]
  exact List.prefix_append _ _

theorem keyedRow_same (payload : RegistryHeartbeat) (row : RegistryRow) :
    (keyedRow payload row).isDocker = row.isDocker ∧
      (keyedRow payload row).settings = row.settings ∧
      (keyedRow payload row).maxConnections = row.maxConnections := by
  unfold keyedRow
  split
  · exact ⟨rfl, rfl, rfl⟩
  · split
    · exact ⟨rfl, rfl, rfl⟩
    · exact ⟨rfl, rfl, rfl⟩

theorem get?_agentHeartbeat :
    (agentHeartbeat registry payload).get? id =
      ((ensureServerFromHeartbeat registry payload).get? id).map
        (fun row => if payload.serverId = id then keyedRow payload row else row) := by
  unfold agentHeartbeat
  dsimp only
  cases found : (ensureServerFromHeartbeat registry payload).get? payload.serverId with
  | none =>
      by_cases own : payload.serverId = id
      · rw [← own, found]
        rfl
      · simp [own]
  | some row =>
      rw [Dict.get?_set]
      by_cases own : payload.serverId = id
      · rw [← own, found, if_pos rfl, Option.map_some, if_pos rfl]
      · rw [if_neg (Ne.symm own)]
        simp [own]

/-- A heartbeat leaves rows that are there as they are, but for the key of its own. -/
theorem agentHeartbeat_row (present : registry.get? id = some row) :
    (agentHeartbeat registry payload).get? id =
      some (if payload.serverId = id then keyedRow payload row else row) := by
  have kept : (ensureServerFromHeartbeat registry payload).get? id = some row := by
    unfold ensureServerFromHeartbeat
    dsimp only
    split
    · exact present
    · split
      · exact present
      · rename_i missing
        rw [Dict.get?_set, if_neg]
        · exact present
        · intro atKey
          rw [← atKey, present] at missing
          cases missing
  rw [get?_agentHeartbeat, kept, Option.map_some]

/-- A row that a heartbeat adds is the one of a container. -/
theorem agentHeartbeat_added (missing : registry.get? id = none)
    (added : (agentHeartbeat registry payload).get? id = some row) : row.isDocker = true := by
  rw [get?_agentHeartbeat, Option.map_eq_some_iff] at added
  rcases added with ⟨made, found, same⟩
  have docker : made.isDocker = true := by
    unfold ensureServerFromHeartbeat at found
    dsimp only at found
    split at found
    · rw [missing] at found
      cases found
    · split at found
      · rw [missing] at found
        cases found
      · rw [Dict.get?_set] at found
        split at found
        · rw [← Option.some.inj found]
          exact heartbeatServer_isDocker _ _
        · rw [missing] at found
          cases found
  rw [← same]
  split
  · exact (keyedRow_same payload made).1.trans docker
  · exact docker

end Heartbeats

end VpnSuite.ControlPlane
