/-
The server ids under which the node agent reports its containers (`node-agent/agent.py`, `main`)
and what the backend files under them (`api/v1/agent.py`).

Each container reports under an id made of its name: the heartbeat is kept in Redis under that
id, a server is registered under it, and the container whose id is the agent's `SERVER_ID` is
the one that is reconciled.  Heartbeats may get lost, be repeated and come in any order, and a
stored one expires.  Of a heartbeat the fields are kept that say whose it is and those that
registering reads.
-/

import VpnSuite.Agent.ReconcileModel
import VpnSuite.Foundations.StepRuns
import Mathlib.Data.Rat.Defs

set_option autoImplicit false

namespace VpnSuite.Agent

open Foundations
open Foundations.PythonText

/-! ### Ids -/

section Ids

-- Which characters beyond ASCII are letters or digits.
variable (unicode : Char → Bool)

/-- `char.isalnum()`. -/
def isAlnum (char : Char) : Bool :=
  if char.toNat < 128 then isAsciiAlphanumeric char else unicode char

def idChar (char : Char) : Char :=
  if isAlnum unicode char || char == '-' || char == '_' then char else '_'

/-- `_server_id_from_container`. -/
def serverIdFromContainer (containerName : String) (maxLen : Nat) : String :=
  orDefault (some (String.ofList ((containerName.toList.map (idChar unicode)).take maxLen)))
    "container"

end Ids

structure ContainerCandidate where
  containerId : String
  name : String
  confidence : Rat
  evidence : List String
  deriving DecidableEq, Repr

/-- The id a container reports under. -/
def ContainerCandidate.serverId (unicode : Char → Bool) (container : ContainerCandidate) : String :=
  serverIdFromContainer unicode container.name 32

/-! ### The primary container -/

/-- The test of the loop that looks for the container of `SERVER_ID`. -/
def isPrimary (unicode : Char → Bool) (serverId : String) (container : ContainerCandidate) : Bool :=
  container.serverId unicode = serverId ∨ container.name = serverId

/-- The container that is reconciled: that of `SERVER_ID`, or else the first. -/
def primaryContainer (unicode : Char → Bool) (serverId : String)
    (containers : List ContainerCandidate) : Option ContainerCandidate :=
  (containers.find? (isPrimary unicode serverId)).or containers.head?

/-! ### Heartbeats -/

/-- What `awg show` says of a container. -/
structure RuntimeState where
  publicKey : String
  status : String
  deriving DecidableEq, Repr

structure AgentHeartbeatIn where
  serverId : String
  containerName : String
  containerId : String
  confidence : Rat
  evidence : List String
  publicKey : String
  status : String
  deriving DecidableEq, Repr

/-- The heartbeat of a container, without a key if its state could not be read. -/
def containerHeartbeat (unicode : Char → Bool) (container : ContainerCandidate) :
    Option RuntimeState → AgentHeartbeatIn
  | some runtime =>
      { serverId := container.serverId unicode
        containerName := orDefault (some container.name) container.containerId
        containerId := container.containerId
        confidence := container.confidence
        evidence := container.evidence
        publicKey := runtime.publicKey
        status := runtime.status }
  | none =>
      { serverId := container.serverId unicode
        containerName := container.name
        containerId := container.containerId
        confidence := container.confidence
        evidence := container.evidence
        publicKey := ""
        status := "unknown" }

/-! ### The backend -/

structure RegisteredServer where
  name : String
  region : String
  apiEndpoint : String
  status : String
  isActive : Bool
  publicKey : Option String
  publicKeySyncedAt : Option Int
  deriving DecidableEq, Repr

/-- The heartbeats in Redis by key, and the servers by id. -/
structure HeartbeatBooks where
  redis : Dict String AgentHeartbeatIn
  servers : Dict String RegisteredServer

/-- `REDIS_KEY_AGENT_HB_PREFIX` and the id. -/
def heartbeatRedisKey (serverId : String) : String := "agent:hb:" ++ serverId

/-- `_heartbeat_public_key`. -/
def heartbeatPublicKey (payload : AgentHeartbeatIn) : Option String :=
  let key := strip payload.publicKey
  if 43 ≤ key.length then some key else none

def registeredName (payload : AgentHeartbeatIn) (sid : String) : String :=
  let name := strip (orDefault (some payload.containerName) sid)
  let name := if name = "(no container)" then sid else name
  slice 255 (orDefault (some name) sid)

def registeredEndpoint (payload : AgentHeartbeatIn) (sid : String) : String :=
  slice 512 (if payload.containerName ≠ "" ∧ payload.containerName ≠ "(no container)" then
    "docker://" ++ payload.containerName else "docker://" ++ sid)

/-- `_ensure_server_from_heartbeat`. -/
def ensureServerFromHeartbeat (now : Int) (payload : AgentHeartbeatIn)
    (servers : Dict String RegisteredServer) : Dict String RegisteredServer :=
  let sid := slice 32 payload.serverId
  if sid = "" then servers
  else
    match servers.get? sid with
    | some _ => servers
    | none =>
        let key := heartbeatPublicKey payload
        servers.set sid
          { name := registeredName payload sid
            region := "docker"
            apiEndpoint := registeredEndpoint payload sid
            status := orDefault (some payload.status) "unknown"
            isActive := true
            publicKey := key
            publicKeySyncedAt := key.map (fun _ => now) }

/-- The server takes over the key of the heartbeat. -/
def persistPublicKey (now : Int) (payload : AgentHeartbeatIn)
    (servers : Dict String RegisteredServer) : Dict String RegisteredServer :=
  match heartbeatPublicKey payload, servers.get? payload.serverId with
  | some key, some server =>
      if strip (server.publicKey.getD "") = key then servers
      else servers.set payload.serverId
        { server with publicKey := some key, publicKeySyncedAt := some now }
  | _, _ => servers

/-- `agent_heartbeat`, after which the servers are as before if the commit fails. -/
def agentHeartbeat (now : Int) (commits : Bool) (payload : AgentHeartbeatIn)
    (books : HeartbeatBooks) : HeartbeatBooks :=
  { redis := books.redis.set (heartbeatRedisKey payload.serverId) payload
    servers :=
      if commits then
        persistPublicKey now payload (ensureServerFromHeartbeat now payload books.servers)
      else books.servers }

/-- What happens to the books: a heartbeat comes in, or a stored one expires. -/
inductive HeartbeatEvent where
  | received (container : ContainerCandidate) (runtime : Option RuntimeState) (now : Int)
      (commits : Bool)
  | expired (serverId : String)
  deriving DecidableEq, Repr

def heartbeatStep (unicode : Char → Bool) (books : HeartbeatBooks) :
    HeartbeatEvent → HeartbeatBooks
  | .received container runtime now commits =>
      agentHeartbeat now commits (containerHeartbeat unicode container runtime) books
  | .expired serverId => { books with redis := books.redis.erase (heartbeatRedisKey serverId) }

/-! ### The id of a name -/

section Names

variable {unicode : Char → Bool} {name left right : String}

def dotless (char : Char) : Char := if char = '.' then '_' else char

/-- The character is the same up to a dot for an underscore. -/
def Confused (left right : Option Char) : Prop := left.map dotless = right.map dotless

instance (left right : Option Char) : Decidable (Confused left right) :=
  inferInstanceAs (Decidable (_ = _))

/-- Two names that differ in the first 32 characters, not only in dots for underscores. -/
def ToldApart (left right : String) : Prop :=
  ∃ position < 32, ¬ Confused left.toList[position]? right.toList[position]?

instance (left right : String) : Decidable (ToldApart left right) :=
  inferInstanceAs (Decidable (∃ position, position < 32 ∧ _))

theorem idChar_of_name {char : Char} (inName : isContainerNameChar char = true) :
    idChar unicode char = dotless char := by
  have cases : isAsciiAlphanumeric char = true ∨ char = '_' ∨ char = '.' ∨ char = '-' := by
    simpa [isContainerNameChar, or_assoc] using inName
  rcases cases with token | rfl | rfl | rfl
  · have ascii : char.toNat < 128 := by
      simp only [isAsciiAlphanumeric, Bool.or_eq_true, Bool.and_eq_true, decide_eq_true_eq,
        Char.le_def, UInt32.le_iff_toNat_le] at token
      rcases token with (⟨-, high⟩ | ⟨-, high⟩) | ⟨-, high⟩
      · exact lt_of_le_of_lt high (by decide)
      · exact lt_of_le_of_lt high (by decide)
      · exact lt_of_le_of_lt high (by decide)
    have noDot : char ≠ '.' := by
      rintro rfl
      exact absurd token (by decide)
    rw [idChar, isAlnum, if_pos ascii, token, dotless, if_neg noDot]
    rfl
  · rfl
  · rfl
  · rfl

theorem chars_of_containerName (valid : containerNameRe name = true) :
    name.toList ≠ [] ∧ ∀ char ∈ name.toList, isContainerNameChar char = true := by
  unfold containerNameRe at valid
  split at valid
  · cases valid
  · rename_i first rest chars
    simp only [Bool.and_eq_true, List.all_eq_true] at valid
    refine ⟨by rw [chars]; exact List.cons_ne_nil _ _, ?_⟩
    intro char member
    rw [chars] at member
    rcases List.mem_cons.mp member with rfl | later
    · rw [isContainerNameChar, valid.1.1]
      rfl
    · exact valid.2 char later

theorem cutName_visible (valid : containerNameRe name = true) :
    String.ofList ((name.toList.map dotless).take 32) ≠ "" := by
  obtain ⟨nonempty, -⟩ := chars_of_containerName valid
  intro empty
  have none := congrArg String.toList empty
  rw [String.toList_ofList] at none
  cases letters : name.toList with
  | nil => exact nonempty letters
  | cons first rest =>
      rw [letters] at none
      cases none

theorem serverIdFromContainer_of_name (valid : containerNameRe name = true) :
    serverIdFromContainer unicode name 32 =
      String.ofList ((name.toList.map dotless).take 32) := by
  have renamed : name.toList.map (idChar unicode) = name.toList.map dotless :=
    List.map_congr_left (fun char member =>
      idChar_of_name ((chars_of_containerName valid).2 char member))
  rw [serverIdFromContainer, renamed]
  exact if_neg (cutName_visible valid)

/-- The ids of two names are equal unless the names are told apart. -/
theorem serverIdFromContainer_eq_iff (leftValid : containerNameRe left = true)
    (rightValid : containerNameRe right = true) :
    serverIdFromContainer unicode left 32 = serverIdFromContainer unicode right 32 ↔
      ¬ ToldApart left right := by
  rw [serverIdFromContainer_of_name leftValid, serverIdFromContainer_of_name rightValid,
    String.ofList_inj, ToldApart]
  constructor
  · rintro same ⟨position, early, differ⟩
    have here := congrArg (fun chars => chars[position]?) same
    simp only [List.getElem?_take, if_pos early, List.getElem?_map] at here
    exact differ here
  · intro confused
    apply List.ext_getElem?
    intro position
    rw [List.getElem?_take, List.getElem?_take]
    split
    · rename_i early
      rw [List.getElem?_map, List.getElem?_map]
      by_contra differ
      exact confused ⟨position, early, differ⟩
    · rfl

theorem serverIdFromContainer_length (name : String) :
    (serverIdFromContainer unicode name 32).length ≤ 32 := by
  rw [serverIdFromContainer, orDefault]
  split
  · decide
  · rw [← String.length_toList, String.toList_ofList, List.length_take]
    exact Nat.min_le_left _ _

theorem dotless_name {char : Char} (inName : isContainerNameChar char = true) :
    isContainerNameChar (dotless char) = true := by
  unfold dotless
  split
  · rfl
  · exact inName

/-- An id is the id of itself. -/
theorem serverIdFromContainer_again (valid : containerNameRe name = true) :
    serverIdFromContainer unicode (serverIdFromContainer unicode name 32) 32 =
      serverIdFromContainer unicode name 32 := by
  obtain ⟨-, chars⟩ := chars_of_containerName valid
  have own : ((name.toList.map dotless).take 32).map (idChar unicode) =
      (name.toList.map dotless).take 32 := by
    rw [List.map_take, List.map_map]
    congr 1
    apply List.map_congr_left
    intro char member
    rw [Function.comp_apply, idChar_of_name (dotless_name (chars char member)), dotless, dotless]
    split
    · rfl
    · rfl
  rw [serverIdFromContainer_of_name valid, serverIdFromContainer, String.toList_ofList, own,
    List.take_take, Nat.min_self]
  exact if_neg (cutName_visible valid)

end Names

/-! ### What one heartbeat touches -/

section Heartbeats

variable {unicode : Char → Bool} {servers others : Dict String RegisteredServer}
  {payload : AgentHeartbeatIn} {books left right : HeartbeatBooks} {sid : String}
  {container : ContainerCandidate}

@[simp] theorem containerHeartbeat_serverId (container : ContainerCandidate)
    (runtime : Option RuntimeState) :
    (containerHeartbeat unicode container runtime).serverId = container.serverId unicode := by
  cases runtime with
  | none => rfl
  | some state => rfl

theorem slice_serverId (container : ContainerCandidate) :
    slice 32 (container.serverId unicode) = container.serverId unicode := by
  have short : (container.serverId unicode).toList.length ≤ 32 := by
    rw [String.length_toList]
    exact serverIdFromContainer_length container.name
  rw [slice, List.take_of_length_le short, String.ofList_toList]

theorem heartbeatRedisKey_inj {left right : String} :
    heartbeatRedisKey left = heartbeatRedisKey right ↔ left = right := by
  rw [heartbeatRedisKey, heartbeatRedisKey, ← String.toList_inj, String.toList_append,
    String.toList_append, List.append_cancel_left_eq, String.toList_inj]

theorem ensureServerFromHeartbeat_frame (now : Int) (elsewhere : sid ≠ slice 32 payload.serverId) :
    (ensureServerFromHeartbeat now payload servers).get? sid = servers.get? sid := by
  unfold ensureServerFromHeartbeat
  dsimp only
  split
  · rfl
  · split
    · rfl
    · rw [Dict.get?_set, if_neg elsewhere]

theorem persistPublicKey_frame (now : Int) (elsewhere : sid ≠ payload.serverId) :
    (persistPublicKey now payload servers).get? sid = servers.get? sid := by
  unfold persistPublicKey
  split
  · split
    · rfl
    · rw [Dict.get?_set, if_neg elsewhere]
  · rfl

/-- Registering reads of the servers only the one of the id. -/
theorem ensureServerFromHeartbeat_local (now : Int) (own : slice 32 payload.serverId = sid)
    (same : servers.get? sid = others.get? sid) :
    (ensureServerFromHeartbeat now payload servers).get? sid =
      (ensureServerFromHeartbeat now payload others).get? sid := by
  unfold ensureServerFromHeartbeat
  dsimp only
  rw [own]
  split
  · exact same
  · cases known : others.get? sid with
    | none =>
        rw [known] at same
        rw [same]
        dsimp only
        rw [Dict.get?_set, Dict.get?_set, if_pos rfl, if_pos rfl]
    | some server =>
        rw [known] at same
        rw [same]
        exact same.trans known.symm

theorem persistPublicKey_local (now : Int) (own : payload.serverId = sid)
    (same : servers.get? sid = others.get? sid) :
    (persistPublicKey now payload servers).get? sid =
      (persistPublicKey now payload others).get? sid := by
  unfold persistPublicKey
  rw [own, same]
  split
  · split
    · exact same
    · rw [Dict.get?_set, Dict.get?_set, if_pos rfl, if_pos rfl]
  · exact same

/-- What the books hold under an id. -/
def HeartbeatBooks.under (books : HeartbeatBooks) (serverId : String) :
    Option AgentHeartbeatIn × Option RegisteredServer :=
  (books.redis.get? (heartbeatRedisKey serverId), books.servers.get? serverId)

/-- The events that concern a container: its heartbeats, and any expiry. -/
def concerns (container : ContainerCandidate) : HeartbeatEvent → Bool
  | .received sender _ _ _ => sender = container
  | .expired _ => true

/-- A heartbeat moves nothing but what is held under its id. -/
theorem under_of_other {sender : ContainerCandidate} (runtime : Option RuntimeState) (now : Int)
    (commits : Bool) (differ : container.serverId unicode ≠ sender.serverId unicode) :
    (heartbeatStep unicode books (.received sender runtime now commits)).under
        (container.serverId unicode) =
      books.under (container.serverId unicode) := by
  have redis : container.serverId unicode ≠
      (containerHeartbeat unicode sender runtime).serverId := by
    rw [containerHeartbeat_serverId]
    exact differ
  have sliced : container.serverId unicode ≠
      slice 32 (containerHeartbeat unicode sender runtime).serverId := by
    rw [containerHeartbeat_serverId, slice_serverId]
    exact differ
  simp only [heartbeatStep, agentHeartbeat, HeartbeatBooks.under, Dict.get?_set,
    heartbeatRedisKey_inj, if_neg redis]
  split
  · rw [persistPublicKey_frame now redis, ensureServerFromHeartbeat_frame now sliced]
  · rfl

/-- What an event leaves under an id depends on what was held there. -/
theorem under_of_own (event : HeartbeatEvent) (own : concerns container event = true)
    (same : left.under (container.serverId unicode) = right.under (container.serverId unicode)) :
    (heartbeatStep unicode left event).under (container.serverId unicode) =
      (heartbeatStep unicode right event).under (container.serverId unicode) := by
  obtain ⟨stored, registered⟩ := Prod.mk.inj same
  cases event with
  | received sender runtime now commits =>
      obtain rfl : sender = container := of_decide_eq_true own
      have ownId : (containerHeartbeat unicode sender runtime).serverId = sender.serverId unicode :=
        containerHeartbeat_serverId sender runtime
      have row := persistPublicKey_local now ownId
        (ensureServerFromHeartbeat_local now (by rw [ownId, slice_serverId]) registered)
      cases commits with
      | true =>
          simp only [heartbeatStep, agentHeartbeat, HeartbeatBooks.under, Dict.get?_set, ownId,
            if_true, row]
      | false =>
          simp only [heartbeatStep, agentHeartbeat, HeartbeatBooks.under, Dict.get?_set, ownId,
            if_true, Bool.false_eq_true, if_false, registered]
  | expired serverId =>
      simp only [heartbeatStep, HeartbeatBooks.under, Dict.get?_erase, stored, registered]

end Heartbeats

/-! ### Containers with ids of their own -/

section Containers

/-- Each container has an id of its own: what is held under it is what the heartbeats of this
container alone would leave, and it is the one that `SERVER_ID` selects. -/
structure OwnIds (unicode : Char → Bool) (containers : List ContainerCandidate) : Prop where
  distinct : (containers.map (ContainerCandidate.serverId unicode)).Nodup
  short : ∀ container ∈ containers, (container.serverId unicode).length ≤ 32
  undisturbed : ∀ (books : HeartbeatBooks) (events : List HeartbeatEvent),
    (∀ sender runtime now commits, .received sender runtime now commits ∈ events →
      sender ∈ containers) →
    ∀ container ∈ containers,
      (events.foldl (heartbeatStep unicode) books).under (container.serverId unicode) =
        ((events.filter (concerns container)).foldl (heartbeatStep unicode) books).under
          (container.serverId unicode)
  selected : ∀ serverId, ∀ container ∈ containers, isPrimary unicode serverId container = true →
    primaryContainer unicode serverId containers = some container

variable {unicode : Char → Bool} {containers : List ContainerCandidate}

theorem distinct_ids_iff
    (valid : ∀ container ∈ containers, containerNameRe container.name = true) :
    (containers.map (ContainerCandidate.serverId unicode)).Nodup ↔
      containers.Pairwise (fun left right => ToldApart left.name right.name) := by
  rw [List.Nodup, List.pairwise_map]
  apply List.Pairwise.iff_of_mem
  intro left right inLeft inRight
  rw [ContainerCandidate.serverId, ContainerCandidate.serverId, Ne,
    serverIdFromContainer_eq_iff (valid left inLeft) (valid right inRight), not_not]

/-- Two containers that `SERVER_ID` selects have one id. -/
theorem isPrimary_same {serverId : String} {left right : ContainerCandidate}
    (leftValid : containerNameRe left.name = true) (rightValid : containerNameRe right.name = true)
    (leftPrimary : isPrimary unicode serverId left = true)
    (rightPrimary : isPrimary unicode serverId right = true) :
    left.serverId unicode = right.serverId unicode := by
  have idOf {container : ContainerCandidate} (valid : containerNameRe container.name = true)
      (primary : isPrimary unicode serverId container = true) :
      container.serverId unicode = serverIdFromContainer unicode serverId 32 := by
    rcases of_decide_eq_true primary with byId | byName
    · rw [← byId]
      exact (serverIdFromContainer_again valid).symm
    · rw [← byName]
      rfl
  rw [idOf leftValid leftPrimary, idOf rightValid rightPrimary]

/-- Containers have ids of their own exactly when every two names differ in
their first 32 characters, in more than a dot for an underscore. -/
theorem ownIds_iff (unicode : Char → Bool) (containers : List ContainerCandidate)
    (valid : ∀ container ∈ containers, containerNameRe container.name = true) :
    OwnIds unicode containers ↔
      containers.Pairwise (fun left right => ToldApart left.name right.name) := by
  rw [← @distinct_ids_iff unicode _ valid]
  constructor
  · exact fun own => own.distinct
  · intro distinct
    refine ⟨distinct, fun container _ => serverIdFromContainer_length container.name, ?_, ?_⟩
    · intro books events senders container member
      refine view_foldl_filter (fun state : HeartbeatBooks =>
        state.under (container.serverId unicode)) (concerns container) ?_ ?_ rfl
      · intro state event inEvents unconcerned
        cases event with
        | received sender runtime now commits =>
            apply under_of_other
            intro same
            have one := List.inj_on_of_nodup_map distinct member
              (senders sender runtime now commits inEvents) same
            exact of_decide_eq_false unconcerned one.symm
        | expired serverId => cases unconcerned
      · exact fun left right event _ concerned same => under_of_own event concerned same
    · intro serverId container member primary
      cases found : containers.find? (isPrimary unicode serverId) with
      | none => exact absurd primary (List.find?_eq_none.mp found container member)
      | some first =>
          have inFirst := List.mem_of_find?_eq_some found
          have same := isPrimary_same (valid container member) (valid first inFirst) primary
            (List.find?_some found)
          rw [primaryContainer, found, List.inj_on_of_nodup_map distinct member inFirst same]
          rfl

def sampleContainer (name : String) : ContainerCandidate := ⟨"0123456789ab", name, 4 / 5, []⟩

/-- Names that differ early. -/
theorem plain_names_own :
    OwnIds (fun _ => false) [sampleContainer "amnezia-awg", sampleContainer "amnezia-awg.1"] :=
  (ownIds_iff (fun _ => false) [sampleContainer "amnezia-awg", sampleContainer "amnezia-awg.1"]
    (by decide)).mpr (by decide)

/-- A dot and an underscore give one id. -/
theorem dotted_name_shares_id :
    ¬ ∀ (unicode : Char → Bool) (containers : List ContainerCandidate),
      (∀ container ∈ containers, containerNameRe container.name = true) →
      (containers.map ContainerCandidate.name).Nodup → OwnIds unicode containers := by
  intro every
  have own := every (fun _ => false) [sampleContainer "amnezia.awg", sampleContainer "amnezia_awg"]
    (by decide) (by decide)
  exact absurd own.distinct (by decide)

end Containers

end VpnSuite.Agent
