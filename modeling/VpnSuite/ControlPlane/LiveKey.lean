/-
Which public key a server is issued with (`services/server_live_key_service.py`).

In agent mode the key comes from the heartbeats in Redis.  `live_key_fetch` tries the
heartbeats under the ids of the server, then the key of the server's row if it is not too
old, and as a last resort scans all heartbeats: for one under an id of the server, and
failing that for the only one there is.  The issue paths write what they get to the row.

Instants are in microseconds.
-/

import VpnSuite.Fleet.DeviceModel
import VpnSuite.Foundations.JsonValue

set_option autoImplicit false

namespace VpnSuite.ControlPlane

open Foundations
open Foundations.PythonText
open VpnSuite.Fleet (FleetSettings)

/-! ### Heartbeats -/

/-- What stands in Redis under the id of an agent; `unreadable` has the text of the exception
that reading or decoding it raises. -/
inductive Heartbeat where
  | blank
  | unreadable (error : String)
  | decoded (data : Json)

/-- The heartbeats by id, and the ids a scan of the keys yields. -/
structure HeartbeatStore where
  get : String → Heartbeat
  scanned : List String

/-- The stripped `public_key` of a heartbeat, empty if it has none. -/
def Heartbeat.publicKey : Heartbeat → Except String String
  | .blank => .ok ""
  | .unreadable error => .error error
  | .decoded (.dict entries _) =>
      match entries.lookup "public_key" with
      | none => .ok ""
      | some (.str text) => .ok (strip text)
      | some value =>
          if value.truthy then
            .error ("'" ++ value.typeName ++ "' object has no attribute 'strip'")
          else .ok ""
  | .decoded _ => .ok ""

/-! ### `live_key_fetch` -/

structure LiveKeyResult where
  publicKey : String
  nodeId : String
  syncedAt : Int
  fingerprint : String
  deriving DecidableEq, Repr

/-- `_fingerprint`. -/
def keyFingerprint (key : String) : String :=
  String.ofList ((slice 12 (strip key)).toList.map (fun char =>
    if char = '+' then '-' else if char = '/' then '_' else char))

inductive NotSyncedReason where
  | missingServerId
  | heartbeatReadFailed (error : String)
  | noHeartbeat
  | adapterRequired
  | nodeNotFound
  deriving DecidableEq, Repr

def NotSyncedReason.text : NotSyncedReason → String
  | .missingServerId => "missing server_id"
  | .heartbeatReadFailed error => "heartbeat read failed: " ++ error
  | .noHeartbeat =>
      "no heartbeat with public_key (try sync or check agent sends key for this server/container)"
  | .adapterRequired => "runtime adapter required for live key fetch"
  | .nodeNotFound =>
      "node not found in discovery or node has no public_key (run sync or fix discovery)"

/-- `ServerNotSyncedError`, or an exception of the adapter that is passed on. -/
inductive LiveKeyError where
  | serverNotSynced (serverId : String) (reason : NotSyncedReason)
  | adapterFailed (error : String)
  deriving DecidableEq, Repr

/-- The fields of a discovered node that the backend reads here. -/
structure NodeMetadata where
  nodeId : String
  publicKey : Option String
  listenPort : Option Int
  endpointIp : Option String
  deriving DecidableEq, Repr

/-- What the request finds outside: Redis or the text of its `RuntimeError`, the node as the
adapter discovers it if there is an adapter, and the readings of the clock. -/
structure LiveSources where
  redis : Except String HeartbeatStore
  adapter : Option (Except String (Option NodeMetadata))
  checkedAt : Int
  returnedAt : Int

/-- The key of the server's row, as the caller passes it on. -/
structure FallbackKey where
  publicKey : Option String
  syncedAt : Option Int
  deriving DecidableEq, Repr

def fallbackKeyMaxAgeSeconds : Int := 3600

def keyMinLength : Nat := 43

/-- `ids_to_try`: the fallback ids without repetition, then the server's own. -/
def idsToTry (serverId : String) (fallbackIds : List String) : List String :=
  let preferred := fallbackIds.foldl (fun ids id =>
    if id ≠ "" ∧ id ∉ ids then ids ++ [id] else ids) []
  if serverId ∈ preferred then preferred else preferred ++ [serverId]

/-- The first id with a key under it. -/
def firstKey (store : HeartbeatStore) : List String → Except String (Option (String × String))
  | [] => .ok none
  | id :: rest =>
      match (store.get id).publicKey with
      | .error error => .error error
      | .ok key => if key = "" then firstKey store rest else .ok (some (id, key))

/-- The key of the row, unless it is known to be too old. -/
def usableFallback (checkedAt : Int) (fallback : FallbackKey) : Option String :=
  let key := strip (orDefault fallback.publicKey "")
  if keyMinLength ≤ key.toList.length ∧
      fallback.syncedAt.all (fun syncedAt =>
        checkedAt - syncedAt ≤ fallbackKeyMaxAgeSeconds * 1000000) then
    some key
  else none

/-- The heartbeats of a scan with a key of full length. -/
def scanCandidates (store : HeartbeatStore) : List String → Except String (List (String × String))
  | [] => .ok []
  | id :: rest =>
      match (store.get id).publicKey with
      | .error error => .error error
      | .ok key =>
          match scanCandidates store rest with
          | .error error => .error error
          | .ok others =>
              .ok (if keyMinLength ≤ key.toList.length then (id, key) :: others else others)

/-- One under an id of the server, else the only one. -/
def scanChoice (ids : List String) (candidates : List (String × String)) :
    Option (String × String) :=
  match candidates.find? (fun candidate => candidate.1 ∈ ids) with
  | some candidate => some candidate
  | none =>
      match candidates with
      | [candidate] => some candidate
      | _ => none

section Fetch

variable (settings : FleetSettings) (sources : LiveSources)

def liveKey (key nodeId : String) : LiveKeyResult :=
  ⟨key, nodeId, sources.returnedAt, keyFingerprint key⟩

def liveKeyFetchAgent (serverId : String) (fallbackIds : List String) (fallback : FallbackKey) :
    Except LiveKeyError LiveKeyResult :=
  match sources.redis with
  | .error error =>
      let key := strip (orDefault fallback.publicKey "")
      if contains "not initialized" (lower error) ∧ keyMinLength ≤ key.toList.length then
        .ok (liveKey sources key serverId)
      else .error (.serverNotSynced serverId (.heartbeatReadFailed error))
  | .ok store =>
      match firstKey store (idsToTry serverId fallbackIds) with
      | .error error => .error (.serverNotSynced serverId (.heartbeatReadFailed error))
      | .ok (some (id, key)) => .ok (liveKey sources key id)
      | .ok none =>
          match usableFallback sources.checkedAt fallback with
          | some key => .ok (liveKey sources key serverId)
          | none =>
              match scanCandidates store store.scanned with
              | .error _ => .error (.serverNotSynced serverId .noHeartbeat)
              | .ok candidates =>
                  match scanChoice (idsToTry serverId fallbackIds) candidates with
                  | some (id, key) => .ok (liveKey sources key id)
                  | none => .error (.serverNotSynced serverId .noHeartbeat)

def liveKeyFetchDocker (serverId : String) (fallback : FallbackKey) :
    Except LiveKeyError LiveKeyResult :=
  match sources.adapter with
  | none => .error (.serverNotSynced serverId .adapterRequired)
  | some (.error error) => .error (.adapterFailed error)
  | some (.ok node) =>
      let nodeKey := strip (orDefault (node.bind NodeMetadata.publicKey) "")
      let rowKey := strip (orDefault fallback.publicKey "")
      if nodeKey ≠ "" then
        .ok (liveKey sources nodeKey (orDefault (node.map NodeMetadata.nodeId) serverId))
      else if keyMinLength ≤ rowKey.toList.length then .ok (liveKey sources rowKey serverId)
      else .error (.serverNotSynced serverId .nodeNotFound)

def liveKeyFetch (serverId : String) (fallbackIds : List String) (fallback : FallbackKey) :
    Except LiveKeyError LiveKeyResult :=
  if serverId = "" then .error (.serverNotSynced "" .missingServerId)
  else if settings.nodeDiscovery = .agent ∨ settings.nodeMode = .agent then
    liveKeyFetchAgent sources serverId fallbackIds fallback
  else liveKeyFetchDocker sources serverId fallback

end Fetch

/-! ### The issue paths -/

/-- The columns of a server that the issue paths read and write here. -/
structure ServerRow where
  id : String
  apiEndpoint : Option String
  publicKey : Option String
  publicKeySyncedAt : Option Int
  deriving DecidableEq, Repr

def dockerScheme : String := "docker://"

/-- `_heartbeat_container_id`. -/
def heartbeatContainerId (apiEndpoint : Option String) (serverId : String) : Option String :=
  let endpoint := strip (orDefault apiEndpoint "")
  if dockerScheme.toList.isPrefixOf (lower endpoint).toList then
    let name := strip (String.ofList (endpoint.toList.drop 9))
    if name = "" ∨ name = serverId then none else some (slice 32 name)
  else none

def ServerRow.fallbackIds (server : ServerRow) : List String :=
  ((heartbeatContainerId server.apiEndpoint server.id).filter (fun id => id ≠ "")).toList

def ServerRow.strippedKey (server : ServerRow) : String := strip (orDefault server.publicKey "")

def ServerRow.fallback (server : ServerRow) : FallbackKey :=
  ⟨orNone server.strippedKey, server.publicKeySyncedAt⟩

inductive ServerKeyError where
  | liveKey (error : LiveKeyError)
  | serverPublicKeyRequired
  deriving DecidableEq, Repr

/-- A key other than the stored one replaces it. -/
def ServerRow.withKey (server : ServerRow) (key : String) : ServerRow :=
  if key = server.strippedKey then server else { server with publicKey := some key }

def fetchServerKey (settings : FleetSettings) (sources : LiveSources) (server : ServerRow) :
    Except LiveKeyError String :=
  (liveKeyFetch settings sources server.id server.fallbackIds server.fallback).map
    LiveKeyResult.publicKey

/-- The key `issue_device` issues with; in mock mode without an adapter that of the row. -/
def issueServerKey (settings : FleetSettings) (sources : LiveSources) (server : ServerRow) :
    Except ServerKeyError String :=
  if settings.nodeMode = .mock ∧ sources.adapter.isNone then
    if server.strippedKey = "" then .error .serverPublicKeyRequired else .ok server.strippedKey
  else
    match fetchServerKey settings sources server with
    | .error error => .error (.liveKey error)
    | .ok key => .ok key

/-- The key `admin_issue_peer` and `admin_rotate_peer` issue with. -/
def adminServerKey (settings : FleetSettings) (sources : LiveSources) (server : ServerRow) :
    Except ServerKeyError String :=
  match fetchServerKey settings sources server with
  | .error error => .error (.liveKey error)
  | .ok key => .ok key

/-! ### Where a key comes from -/

section Sources

variable {settings : FleetSettings} {sources : LiveSources} {store : HeartbeatStore}
  {serverId : String} {fallbackIds : List String} {fallback : FallbackKey}

/-- A heartbeat under an id of the server has the key. -/
def OwnHeartbeat (store : HeartbeatStore) (serverId : String) (fallbackIds : List String)
    (key : String) : Prop :=
  ∃ id, (id = serverId ∨ id ∈ fallbackIds ∧ id ≠ "") ∧ (store.get id).publicKey = .ok key ∧
    key ≠ ""

/-- The key is the caller's, and not known to be too old. -/
def OwnRow (checkedAt : Int) (fallback : FallbackKey) (key : String) : Prop :=
  key = strip (orDefault fallback.publicKey "") ∧
    ∀ syncedAt, fallback.syncedAt = some syncedAt →
      checkedAt - syncedAt ≤ fallbackKeyMaxAgeSeconds * 1000000

/-- No heartbeat under an id of the server has a key, that of the row is of no use, and of all
heartbeats scanned one has a key of full length. -/
structure OnlyHeartbeat (store : HeartbeatStore) (checkedAt : Int) (serverId : String)
    (fallbackIds : List String) (fallback : FallbackKey) (key : String) : Prop where
  noOwn : ∀ other, ¬ OwnHeartbeat store serverId fallbackIds other
  noRow : usableFallback checkedAt fallback = none
  only : ∃ id ∈ store.scanned, scanCandidates store store.scanned = .ok [(id, key)]

theorem mem_foldl_ids (ids collected : List String) (id : String) :
    id ∈ ids.foldl (fun ids id => if id ≠ "" ∧ id ∉ ids then ids ++ [id] else ids) collected ↔
      id ∈ collected ∨ id ∈ ids ∧ id ≠ "" := by
  induction ids generalizing collected with
  | nil => simp
  | cons first rest ih =>
      rw [List.foldl_cons, ih]
      by_cases taken : first ≠ "" ∧ first ∉ collected
      · rw [if_pos taken, List.mem_append, List.mem_singleton, List.mem_cons]
        constructor
        · rintro ((known | rfl) | later)
          · exact Or.inl known
          · exact Or.inr ⟨Or.inl rfl, taken.1⟩
          · exact Or.inr ⟨Or.inr later.1, later.2⟩
        · rintro (known | ⟨rfl | later, nonempty⟩)
          · exact Or.inl (Or.inl known)
          · exact Or.inl (Or.inr rfl)
          · exact Or.inr ⟨later, nonempty⟩
      · rw [if_neg taken, List.mem_cons]
        constructor
        · rintro (known | later)
          · exact Or.inl known
          · exact Or.inr ⟨Or.inr later.1, later.2⟩
        · rintro (known | ⟨rfl | later, nonempty⟩)
          · exact Or.inl known
          · left
            by_contra absent
            exact taken ⟨nonempty, absent⟩
          · exact Or.inr ⟨later, nonempty⟩

theorem mem_idsToTry (id : String) :
    id ∈ idsToTry serverId fallbackIds ↔ id = serverId ∨ id ∈ fallbackIds ∧ id ≠ "" := by
  unfold idsToTry
  have preferred := mem_foldl_ids fallbackIds [] id
  have own := mem_foldl_ids fallbackIds [] serverId
  simp only [List.not_mem_nil, false_or] at preferred own
  dsimp only
  split
  · rename_i listed
    rw [preferred]
    constructor
    · exact Or.inr
    · rintro (rfl | wanted)
      · exact own.mp listed
      · exact wanted
  · rw [List.mem_append, List.mem_singleton, preferred, or_comm]

theorem firstKey_some {ids : List String} {id key : String}
    (found : firstKey store ids = .ok (some (id, key))) :
    id ∈ ids ∧ (store.get id).publicKey = .ok key ∧ key ≠ "" := by
  induction ids with
  | nil => cases found
  | cons first rest ih =>
      unfold firstKey at found
      split at found
      · cases found
      · rename_i read
        split at found
        · obtain ⟨listed, facts⟩ := ih found
          exact ⟨List.mem_cons_of_mem first listed, facts⟩
        · rename_i nonempty
          cases found
          exact ⟨List.mem_cons_self, read, nonempty⟩

theorem firstKey_none {ids : List String} (absent : firstKey store ids = .ok none) {id : String}
    (listed : id ∈ ids) : (store.get id).publicKey = .ok "" := by
  induction ids with
  | nil => cases listed
  | cons first rest ih =>
      unfold firstKey at absent
      split at absent
      · cases absent
      · rename_i key read
        split at absent
        · rename_i empty
          rcases List.mem_cons.mp listed with rfl | later
          · rw [read, empty]
          · exact ih absent later
        · cases absent

theorem scanCandidates_mem {ids : List String} {candidates : List (String × String)}
    (scanned : scanCandidates store ids = .ok candidates) {id key : String}
    (listed : (id, key) ∈ candidates) :
    id ∈ ids ∧ (store.get id).publicKey = .ok key ∧ keyMinLength ≤ key.toList.length := by
  induction ids generalizing candidates with
  | nil =>
      cases scanned
      cases listed
  | cons first rest ih =>
      unfold scanCandidates at scanned
      split at scanned
      · cases scanned
      · rename_i found read
        split at scanned
        · cases scanned
        · rename_i others earlier
          cases scanned
          have later (inRest : (id, key) ∈ others) :
              id ∈ first :: rest ∧ (store.get id).publicKey = .ok key ∧
                keyMinLength ≤ key.toList.length := by
            obtain ⟨there, facts⟩ := ih earlier inRest
            exact ⟨List.mem_cons_of_mem first there, facts⟩
          split at listed
          · rename_i long
            rcases List.mem_cons.mp listed with same | inRest
            · obtain ⟨rfl, rfl⟩ := Prod.mk.inj same
              exact ⟨List.mem_cons_self, read, long⟩
            · exact later inRest
          · exact later listed

theorem scanChoice_some {ids : List String} {candidates : List (String × String)}
    {chosen : String × String} (taken : scanChoice ids candidates = some chosen) :
    chosen ∈ candidates ∧ (chosen.1 ∈ ids ∨ candidates = [chosen]) := by
  unfold scanChoice at taken
  split at taken
  · rename_i candidate matched
    cases taken
    exact ⟨List.mem_of_find?_eq_some matched,
      Or.inl (by simpa using List.find?_some matched)⟩
  · split at taken
    · cases taken
      exact ⟨List.mem_singleton_self _, Or.inr rfl⟩
    · cases taken

theorem usableFallback_some {checkedAt : Int} {key : String}
    (usable : usableFallback checkedAt fallback = some key) : OwnRow checkedAt fallback key := by
  unfold usableFallback at usable
  dsimp only at usable
  split at usable
  · rename_i accepted
    cases usable
    refine ⟨rfl, ?_⟩
    intro syncedAt known
    simpa [known] using accepted.2
  · cases usable

/-- The stages of the agent path, one after the other. -/
theorem liveKeyFetchAgent_ok (available : sources.redis = .ok store) {result : LiveKeyResult}
    (returned : liveKeyFetchAgent sources serverId fallbackIds fallback = .ok result) :
    OwnHeartbeat store serverId fallbackIds result.publicKey ∨
      OwnRow sources.checkedAt fallback result.publicKey ∨
      OnlyHeartbeat store sources.checkedAt serverId fallbackIds fallback result.publicKey := by
  unfold liveKeyFetchAgent at returned
  rw [available] at returned
  dsimp only at returned
  split at returned
  · cases returned
  · rename_i id key found
    cases returned
    obtain ⟨tried, read, nonempty⟩ := firstKey_some found
    exact Or.inl ⟨id, (mem_idsToTry id).mp tried, read, nonempty⟩
  · rename_i absent
    split at returned
    · rename_i key usable
      cases returned
      exact Or.inr (Or.inl (usableFallback_some usable))
    · rename_i useless
      split at returned
      · cases returned
      · rename_i candidates scanned
        split at returned
        · rename_i id key chosen
          cases returned
          obtain ⟨listed, own | single⟩ := scanChoice_some chosen
          · obtain ⟨-, read, long⟩ := scanCandidates_mem scanned listed
            refine Or.inl ⟨id, (mem_idsToTry id).mp own, read, ?_⟩
            rintro rfl
            exact absurd long (by decide)
          · refine Or.inr (Or.inr ⟨?_, useless, id, (scanCandidates_mem scanned listed).1, ?_⟩)
            · rintro other ⟨own, tried, read, nonempty⟩
              have empty := firstKey_none absent ((mem_idsToTry own).mpr tried)
              rw [read] at empty
              exact nonempty (Except.ok.inj empty)
            · rw [scanned, single]
              rfl
        · cases returned

theorem liveKeyFetchAgent_error (available : sources.redis = .ok store) {error : LiveKeyError}
    (raised : liveKeyFetchAgent sources serverId fallbackIds fallback = .error error) :
    ∃ reason, error = .serverNotSynced serverId reason := by
  unfold liveKeyFetchAgent at raised
  rw [available] at raised
  dsimp only at raised
  split at raised
  · cases raised
    exact ⟨_, rfl⟩
  · cases raised
  · split at raised
    · cases raised
    · split at raised
      · cases raised
        exact ⟨_, rfl⟩
      · split at raised
        · cases raised
        · cases raised
          exact ⟨_, rfl⟩

theorem liveKeyFetch_agent (agent : settings.nodeDiscovery = .agent ∨ settings.nodeMode = .agent)
    (named : serverId ≠ "") :
    liveKeyFetch settings sources serverId fallbackIds fallback =
      liveKeyFetchAgent sources serverId fallbackIds fallback := by
  rw [liveKeyFetch, if_neg named, if_pos agent]

theorem liveKeyFetch_ok (agent : settings.nodeDiscovery = .agent ∨ settings.nodeMode = .agent)
    (available : sources.redis = .ok store) {result : LiveKeyResult}
    (returned : liveKeyFetch settings sources serverId fallbackIds fallback = .ok result) :
    OwnHeartbeat store serverId fallbackIds result.publicKey ∨
      OwnRow sources.checkedAt fallback result.publicKey ∨
      OnlyHeartbeat store sources.checkedAt serverId fallbackIds fallback result.publicKey := by
  by_cases named : serverId = ""
  · rw [liveKeyFetch, if_pos named] at returned
    cases returned
  · rw [liveKeyFetch_agent agent named] at returned
    exact liveKeyFetchAgent_ok available returned

theorem publicKey_stripped {heartbeat : Heartbeat} {key : String}
    (read : heartbeat.publicKey = .ok key) : strip key = key := by
  have blank : strip "" = "" := by decide
  unfold Heartbeat.publicKey at read
  split at read
  · cases read
    exact blank
  · cases read
  · split at read
    · cases read
      exact blank
    · cases read
      exact strip_strip _
    · split at read
      · cases read
      · cases read
        exact blank
  · cases read
    exact blank

/-- A fetched key has no white space around it. -/
theorem liveKeyFetch_stripped {result : LiveKeyResult}
    (returned : liveKeyFetch settings sources serverId fallbackIds fallback = .ok result) :
    strip result.publicKey = result.publicKey := by
  unfold liveKeyFetch at returned
  split at returned
  · cases returned
  · split at returned
    · cases available : sources.redis with
      | error error =>
          unfold liveKeyFetchAgent at returned
          rw [available] at returned
          dsimp only at returned
          split at returned
          · cases returned
            exact strip_strip _
          · cases returned
      | ok store =>
          obtain ⟨_, _, read, _⟩ | ⟨row, _⟩ | only := liveKeyFetchAgent_ok available returned
          · exact publicKey_stripped read
          · rw [row, strip_strip]
          · obtain ⟨_, _, scanned⟩ := only.only
            exact publicKey_stripped (scanCandidates_mem scanned (List.mem_singleton_self _)).2.1
    · unfold liveKeyFetchDocker at returned
      split at returned
      · cases returned
      · cases returned
      · dsimp only at returned
        split at returned
        · cases returned
          exact strip_strip _
        · split at returned
          · cases returned
            exact strip_strip _
          · cases returned

theorem fetchServerKey_ok {server : ServerRow} {key : String}
    (got : fetchServerKey settings sources server = .ok key) :
    ∃ result, liveKeyFetch settings sources server.id server.fallbackIds server.fallback =
      .ok result ∧ result.publicKey = key := by
  unfold fetchServerKey at got
  cases returned : liveKeyFetch settings sources server.id server.fallbackIds server.fallback with
  | error error =>
      rw [returned] at got
      cases got
  | ok result =>
      rw [returned] at got
      exact ⟨result, rfl, Except.ok.inj got⟩

theorem adminServerKey_ok {server : ServerRow} {key : String}
    (admin : adminServerKey settings sources server = .ok key) :
    fetchServerKey settings sources server = .ok key := by
  unfold adminServerKey at admin
  split at admin
  · cases admin
  · rename_i fetchedKey got
    cases admin
    exact got

/-- The key of an issue is the row's, or fetched. -/
theorem issueServerKey_ok {server : ServerRow} {key : String}
    (issued : issueServerKey settings sources server = .ok key) :
    key = server.strippedKey ∨ fetchServerKey settings sources server = .ok key := by
  unfold issueServerKey at issued
  split at issued
  · split at issued
    · cases issued
    · cases issued
      exact Or.inl rfl
  · split at issued
    · cases issued
    · rename_i fetchedKey got
      cases issued
      exact Or.inr got

theorem fetchServerKey_stripped {server : ServerRow} {key : String}
    (got : fetchServerKey settings sources server = .ok key) : strip key = key := by
  obtain ⟨result, returned, rfl⟩ := fetchServerKey_ok got
  exact liveKeyFetch_stripped returned

theorem issueServerKey_stripped {server : ServerRow} {key : String}
    (issued : issueServerKey settings sources server = .ok key) : strip key = key := by
  obtain rfl | got := issueServerKey_ok issued
  · exact strip_strip _
  · exact fetchServerKey_stripped got

theorem adminServerKey_stripped {server : ServerRow} {key : String}
    (admin : adminServerKey settings sources server = .ok key) : strip key = key :=
  fetchServerKey_stripped (adminServerKey_ok admin)

end Sources

/-- A row whose key an issue path has changed holds the key of a heartbeat under an id of its
own, or of the only one. -/
theorem stored_key_comes_from {settings : FleetSettings} {sources : LiveSources}
    {store : HeartbeatStore} (agent : settings.nodeDiscovery = .agent ∨ settings.nodeMode = .agent)
    (available : sources.redis = .ok store) (server : ServerRow) {key : String}
    (fetched : issueServerKey settings sources server = .ok key ∨
      adminServerKey settings sources server = .ok key)
    (changed : server.withKey key ≠ server) :
    (server.withKey key).publicKey = some key ∧
      (OwnHeartbeat store server.id server.fallbackIds key ∨
        OnlyHeartbeat store sources.checkedAt server.id server.fallbackIds server.fallback key) := by
  have other : key ≠ server.strippedKey := by
    intro same
    exact changed (if_pos same)
  have live : fetchServerKey settings sources server = .ok key := by
    obtain issued | admin := fetched
    · exact (issueServerKey_ok issued).resolve_left other
    · exact adminServerKey_ok admin
  obtain ⟨result, returned, rfl⟩ := fetchServerKey_ok live
  refine ⟨by rw [ServerRow.withKey, if_neg other], ?_⟩
  obtain own | ⟨row, -⟩ | only := liveKeyFetch_ok agent available returned
  · exact Or.inl own
  · rw [ServerRow.fallback, orDefault_orNone, ServerRow.strippedKey, strip_strip] at row
    exact absurd row other
  · exact Or.inr only

/-- In agent mode a fetched key is that of a heartbeat under an id of the server, that of its
row while not known to be too old, or, failing these, that of the only heartbeat with one;
anything else is `ServerNotSyncedError`.  What the issue paths store comes from the same
heartbeats. -/
theorem live_key_comes_from (settings : FleetSettings) (sources : LiveSources)
    (store : HeartbeatStore) (agent : settings.nodeDiscovery = .agent ∨ settings.nodeMode = .agent)
    (available : sources.redis = .ok store) :
    (∀ serverId fallbackIds fallback result,
      liveKeyFetch settings sources serverId fallbackIds fallback = .ok result →
        OwnHeartbeat store serverId fallbackIds result.publicKey ∨
          OwnRow sources.checkedAt fallback result.publicKey ∨
          OnlyHeartbeat store sources.checkedAt serverId fallbackIds fallback result.publicKey) ∧
    (∀ serverId fallbackIds fallback error,
      liveKeyFetch settings sources serverId fallbackIds fallback = .error error →
        ∃ reason, error = .serverNotSynced serverId reason) ∧
    ∀ server key, issueServerKey settings sources server = .ok key ∨
        adminServerKey settings sources server = .ok key →
      server.withKey key ≠ server →
        (server.withKey key).publicKey = some key ∧
          (OwnHeartbeat store server.id server.fallbackIds key ∨
            OnlyHeartbeat store sources.checkedAt server.id server.fallbackIds server.fallback
              key) := by
  refine ⟨?_, ?_, ?_⟩
  · intro serverId fallbackIds fallback result returned
    exact liveKeyFetch_ok agent available returned
  · intro serverId fallbackIds fallback error raised
    by_cases named : serverId = ""
    · rw [liveKeyFetch, if_pos named] at raised
      cases raised
      exact ⟨_, by rw [named]⟩
    · rw [liveKeyFetch_agent agent named] at raised
      exact liveKeyFetchAgent_error available raised
  · intro server key fetched changed
    exact stored_key_comes_from agent available server fetched changed

def sampleKey : String := "bm9kZS1iLXB1YmxpYy1rZXktb2YtdGhpcnR5LXR3bzE="

/-- Redis knows one agent, `node-b`, with a key. -/
def nodeBStore : HeartbeatStore where
  get id := if id = "node-b" then .decoded (.dict [("public_key", .str sampleKey)] "") else .blank
  scanned := ["node-b"]

def onlyNodeB : LiveSources := ⟨.ok nodeBStore, none, 0, 0⟩

def serverNodeA : ServerRow := ⟨"node-a", none, none, none⟩

/-- The key of `node-b` is issued and stored for `node-a`. -/
theorem other_node_key_is_stored :
    issueServerKey ⟨.real, .agent, false⟩ onlyNodeB serverNodeA = .ok sampleKey ∧
      adminServerKey ⟨.real, .agent, false⟩ onlyNodeB serverNodeA = .ok sampleKey ∧
      (serverNodeA.withKey sampleKey).publicKey = some sampleKey ∧
      serverNodeA.fallbackIds = [] ∧ serverNodeA.fallback.publicKey = none ∧
      (nodeBStore.get "node-a").publicKey = .ok "" := by
  decide +kernel

/-- The server under whose id the heartbeat stands gets its own key. -/
theorem own_heartbeat_key :
    ∃ result, liveKeyFetch ⟨.real, .agent, false⟩ onlyNodeB "node-b" [] ⟨none, none⟩ = .ok result ∧
      (OwnHeartbeat nodeBStore "node-b" [] result.publicKey ∨
        OwnRow 0 ⟨none, none⟩ result.publicKey ∨
        OnlyHeartbeat nodeBStore 0 "node-b" [] ⟨none, none⟩ result.publicKey) := by
  have returned : liveKeyFetch ⟨.real, .agent, false⟩ onlyNodeB "node-b" [] ⟨none, none⟩ =
      .ok (liveKey onlyNodeB sampleKey "node-b") := by decide +kernel
  exact ⟨_, returned, (live_key_comes_from ⟨.real, .agent, false⟩ onlyNodeB nodeBStore (Or.inl rfl)
    rfl).1 "node-b" [] ⟨none, none⟩ _ returned⟩

end VpnSuite.ControlPlane
