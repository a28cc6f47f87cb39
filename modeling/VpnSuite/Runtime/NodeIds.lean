/-
The ids of docker nodes (`services/node_runtime_docker.py`, with
`services/topology_engine.py` and `core/telemetry_polling_task.py`).

A node is called after the id of its container.  Topology sync writes its name to the server as
`docker://name`, and telemetry polling derives an id from that: the first twelve characters of
a name that looks like a container id, else a digest of the name.

The classification of a container and what `wg show` made of it are part of the container; the
other fields of a node are left out.
-/

import VpnSuite.Foundations.OrderedDict
import VpnSuite.Runtime.DockerAddPeer
import Mathlib.Data.Rat.Defs

set_option autoImplicit false

namespace VpnSuite.Runtime

open Foundations
open Foundations.PythonText

/-! ### Containers and nodes -/

/-- What discovery finds out about a container: an exception, a `wg` that fails, or a score. -/
inductive Probe where
  | raised
  | refused
  | health (score : Rat)
  deriving DecidableEq, Repr

structure DockerContainer where
  id : String
  name : String
  status : String
  kind : String
  confidence : Rat
  probe : Probe
  deriving DecidableEq, Repr

structure DockerNode where
  nodeId : String
  containerName : String
  containerId : String
  status : String
  healthScore : Rat
  deriving DecidableEq, Repr

/-! ### Discovery -/

/-- The prefixes of the adapter. -/
def containerPrefixes (containerFilter : String) : List String :=
  let prefixes := ((containerFilter.toList.splitOn ',').map (fun chars =>
    String.ofList (stripChars chars))).filter (fun text => text ≠ "")
  if prefixes = [] then ["amnezia-awg"] else prefixes

def listedName (container : DockerContainer) : String :=
  String.ofList (container.name.toList.dropWhile (fun char => char = '/'))

def listedId (container : DockerContainer) : String := slice 12 container.id

/-- `_discover_containers` keeps the running containers with a known prefix. -/
def isListed (prefixes : List String) (container : DockerContainer) : Bool :=
  container.status = "running" ∧
    prefixes.any (fun start => start.toList.isPrefixOf (listedName container).toList) = true

/-- `discover_nodes` passes over containers without an id and unlikely ones. -/
def isCandidate (container : DockerContainer) : Bool :=
  listedId container ≠ "" ∧ ¬ (container.kind ≠ "awg" ∧ container.confidence < 3 / 5)

def nodeStatus (healthScore : Rat) : String :=
  if 9 / 10 ≤ healthScore then "healthy"
  else if 1 / 2 ≤ healthScore then "degraded"
  else "unhealthy"

/-- The node of a container. -/
def discoverOne (container : DockerContainer) : DockerNode :=
  let nodeId := "docker:" ++ listedId container
  let name := orDefault (some (listedName container)) (listedId container)
  match container.probe with
  | .raised => ⟨nodeId, listedName container, listedId container, "unhealthy", 0⟩
  | .refused => ⟨nodeId, name, listedId container, "unhealthy", 0⟩
  | .health score => ⟨nodeId, name, listedId container, nodeStatus score, score⟩

/-- One node for a name, that of the best health. -/
def keepBest (byName : Dict String DockerNode) (node : DockerNode) : Dict String DockerNode :=
  let name := orDefault (some node.containerName) node.nodeId
  match byName.get? name with
  | none => byName.set name node
  | some existing =>
      if existing.healthScore < node.healthScore then byName.set name node else byName

section Adapter

variable (containerFilter : String) (containers : List DockerContainer)

def candidates : List DockerContainer :=
  (containers.filter (isListed (containerPrefixes containerFilter))).filter isCandidate

/-- `discover_nodes`. -/
def discoverNodes : List DockerNode :=
  (((candidates containerFilter containers).map discoverOne).foldl keepBest Dict.empty).entries.map
    Prod.snd

/-- `_resolve_node`. -/
def resolveNode (nodeId : String) : Option DockerNode :=
  let nodes := discoverNodes containerFilter containers
  match nodes.find? (fun node => node.nodeId = nodeId) with
  | some node => some node
  | none =>
      match nodes.find? (fun node => node.containerName = nodeId) with
      | some node => some node
      | none =>
          match nodes with
          | [node] => some node
          | _ => none

end Adapter

/-! ### From a node to its endpoint and back -/

def isNameStart (char : Char) : Bool := isAsciiAlphanumeric char

def isNameChar (char : Char) : Bool :=
  isAsciiAlphanumeric char || char == '_' || char == '.' || char == '-'

/-- `_CONTAINER_NAME_PATTERN`. -/
def containerNamePattern (text : String) : Bool :=
  match text.toList with
  | [] => false
  | first :: rest => isNameStart first && rest.length ≤ 127 && rest.all isNameChar

def sanitizeContainerName : String → Except WireGuardCommandError String :=
  sanitizeText containerNamePattern "Invalid container name" "docker exec" 32

/-- What topology sync writes to the server of the node, whose id is that of the node. -/
def apiEndpoint (node : DockerNode) : String := "docker://" ++ node.containerName

/-- The sanitised name of a docker endpoint. -/
def endpointName (endpoint : String) : Option String :=
  let chars := stripChars endpoint.toList
  if "docker://".toList.isPrefixOf chars then
    let name := stripChars (chars.drop 9)
    if name = [] then none else (sanitizeContainerName (String.ofList name)).toOption
  else none

def isIdChar (char : Char) : Bool := ('a' ≤ char && char ≤ 'f') || ('0' ≤ char && char ≤ '9')

/-- A name that looks like a container id. -/
def isIdText (text : String) : Bool := fullmatchClass isIdChar 12 64 text

section Polling

variable (sha256Hex : String → String)

/-- `node_id_from_docker_api_endpoint`. -/
def nodeIdFromDockerApiEndpoint (endpoint : String) : Option String :=
  (endpointName endpoint).map (fun safe =>
    if isIdText safe then "docker:" ++ slice 12 safe else slice 32 (sha256Hex safe))

/-- The id that polling asks for. -/
def polledNodeId (node : DockerNode) : String :=
  (nodeIdFromDockerApiEndpoint sha256Hex (apiEndpoint node)).getD node.nodeId

end Polling

/-! ### One node for a container -/

section Discovered

variable {containerFilter : String} {containers : List DockerContainer}
  {container : DockerContainer}

theorem containerPrefixes_visible (containerFilter : String) :
    ∀ start ∈ containerPrefixes containerFilter, start ≠ "" := by
  intro start member
  unfold containerPrefixes at member
  dsimp only at member
  split at member
  · rw [List.mem_singleton.mp member]
    decide
  · exact of_decide_eq_true (List.mem_filter.mp member).2

/-- A container with a known prefix has a name. -/
theorem listedName_ne_empty (member : container ∈ candidates containerFilter containers) :
    listedName container ≠ "" := by
  obtain ⟨listed, -⟩ := List.mem_filter.mp member
  obtain ⟨-, isListed⟩ := List.mem_filter.mp listed
  obtain ⟨start, known, atStart⟩ := List.any_eq_true.mp (of_decide_eq_true isListed).2
  intro empty
  rw [empty] at atStart
  have noChars : start.toList = [] :=
    List.prefix_nil.mp (List.isPrefixOf_iff_prefix.mp atStart)
  exact containerPrefixes_visible containerFilter start known (String.toList_eq_nil_iff.mp noChars)

theorem discoverOne_id (container : DockerContainer) :
    (discoverOne container).nodeId = "docker:" ++ listedId container := by
  unfold discoverOne
  split
  · rfl
  · rfl
  · rfl

theorem discoverOne_name (named : listedName container ≠ "") :
    (discoverOne container).containerName = listedName container := by
  have given : orDefault (some (listedName container)) (listedId container) =
      listedName container := if_neg named
  unfold discoverOne
  split
  · rfl
  · exact given
  · exact given

/-- The key under which a node is kept. -/
def keptName (node : DockerNode) : String := orDefault (some node.containerName) node.nodeId

theorem keepBest_distinct {nodes : List DockerNode} (distinct : (nodes.map keptName).Nodup)
    (byName : Dict String DockerNode) (fresh : ∀ node ∈ nodes, keptName node ∉ byName.keys) :
    nodes.foldl keepBest byName =
      (nodes.map (fun node => (keptName node, node))).foldl
        (fun dict pair => dict.set pair.1 pair.2) byName := by
  induction nodes generalizing byName with
  | nil => rfl
  | cons node rest ih =>
      rw [List.map_cons, List.nodup_cons] at distinct
      have kept : keepBest byName node = byName.set (keptName node) node := by
        have absent := (byName.get?_eq_none_iff (keptName node)).mpr (fresh node List.mem_cons_self)
        rw [keptName] at absent
        unfold keepBest
        dsimp only
        rw [absent]
        rfl
      rw [List.foldl_cons, List.map_cons, List.foldl_cons, kept]
      refine ih distinct.2 _ ?_
      intro other member
      rw [Dict.mem_keys_set, not_or]
      refine ⟨?_, fresh other (List.mem_cons_of_mem node member)⟩
      intro same
      exact distinct.1 (List.mem_map.mpr ⟨other, member, same⟩)

/-- Containers of distinct names have a node each. -/
theorem discoverNodes_eq (names : ((candidates containerFilter containers).map listedName).Nodup) :
    discoverNodes containerFilter containers =
      (candidates containerFilter containers).map discoverOne := by
  have keys : ((candidates containerFilter containers).map discoverOne).map keptName =
      (candidates containerFilter containers).map listedName := by
    rw [List.map_map]
    apply List.map_congr_left
    intro container member
    have named := listedName_ne_empty member
    rw [Function.comp_apply, keptName, discoverOne_name named]
    exact if_neg named
  have pairs : (((candidates containerFilter containers).map discoverOne).map (fun node =>
      (keptName node, node))).map Prod.fst = (candidates containerFilter containers).map listedName := by
    rw [List.map_map]
    exact keys
  rw [discoverNodes, keepBest_distinct (keys ▸ names) Dict.empty (fun _ _ => List.not_mem_nil)]
  change (Dict.ofList _).entries.map Prod.snd = _
  rw [Dict.entries_ofList _ (pairs ▸ names), List.map_map]
  exact List.map_id _

end Discovered

/-! ### When the polled id finds its node -/

section Ids

theorem isSpace_of_idChar {char : Char} (isId : isIdChar char = true) : isSpace char = false := by
  simp only [isIdChar, Bool.or_eq_true, Bool.and_eq_true, decide_eq_true_eq, Char.le_def,
    UInt32.le_iff_toNat_le] at isId
  have bounds : 48 ≤ char.toNat ∧ char.toNat ≤ 102 := by
    rcases isId with ⟨least, greatest⟩ | ⟨least, greatest⟩
    · exact ⟨le_trans (by decide) least, greatest⟩
    · exact ⟨least, le_trans greatest (by decide)⟩
  unfold isSpace
  dsimp only
  simp only [Bool.or_eq_false_iff, Bool.and_eq_false_iff, decide_eq_false_iff_not,
    beq_eq_false_iff_ne]
  omega

/-- An endpoint of a name without white space is read back as that name, if the pattern accepts
it. -/
theorem endpointName_plain {name : String} (visible : name ≠ "")
    (plain : ∀ char ∈ name.toList, isSpace char = false) :
    endpointName ("docker://" ++ name) = if containerNamePattern name then some name else none := by
  have chars : name.toList ≠ [] := fun empty => visible (String.toList_eq_nil_iff.mp empty)
  have own : stripChars name.toList = name.toList := by
    refine (stripChars_of_ends ?_ ?_).2.2
    · exact fun char first => plain char (List.mem_of_mem_head? first)
    · exact fun char last => plain char (List.mem_of_mem_getLast? last)
  have whole : stripChars ("docker://" ++ name).toList = "docker://".toList ++ name.toList := by
    rw [String.toList_append]
    refine (stripChars_of_ends ?_ ?_).2.2
    · intro char first
      obtain rfl := Option.some.inj first
      decide
    · intro char last
      rw [List.getLast?_append_of_ne_nil _ chars] at last
      exact plain char (List.mem_of_mem_getLast? last)
  have after : ("docker://".toList ++ name.toList).drop 9 = name.toList := rfl
  have scheme : "docker://".toList.isPrefixOf ("docker://".toList ++ name.toList) = true :=
    List.isPrefixOf_iff_prefix.mpr (List.prefix_append _ _)
  have again : strip name = name := by rw [strip, own, String.ofList_toList]
  unfold endpointName
  dsimp only
  rw [whole, if_pos scheme, after, own, if_neg chars, String.ofList_toList, sanitizeContainerName,
    sanitizeText, again]
  split
  · rfl
  · rfl

theorem idText_plain {text : String} {low high : Nat}
    (isId : fullmatchClass isIdChar low high text = true) (count : Nat) :
    ∀ char ∈ (slice count text).toList, isIdChar char = true := by
  obtain ⟨-, -, all⟩ := (fullmatchClass_iff isIdChar low high text).mp isId
  rw [slice, String.toList_ofList]
  exact fun char member => all char (List.mem_of_mem_take member)

/-- The id of a container-like name is no name itself, for the colon in it. -/
theorem endpointName_nodeId {text : String}
    (isId : ∀ char ∈ text.toList, isIdChar char = true) :
    endpointName ("docker://" ++ ("docker:" ++ text)) = none := by
  have visible : "docker:" ++ text ≠ "" := by
    intro empty
    have chars := congrArg String.toList empty
    rw [String.toList_append] at chars
    cases chars
  have plain : ∀ char ∈ ("docker:" ++ text).toList, isSpace char = false := by
    intro char member
    rw [String.toList_append] at member
    rcases List.mem_append.mp member with scheme | inText
    · have all : "docker:".toList.all (fun char => !isSpace char) = true := by decide
      exact Bool.not_eq_true' _ |>.mp (List.all_eq_true.mp all char scheme)
    · exact isSpace_of_idChar (isId char inText)
  have refused : containerNamePattern ("docker:" ++ text) = false := by
    rw [containerNamePattern, String.toList_append]
    change (isNameStart 'd' && _ && ("ocker:".toList ++ text.toList).all isNameChar) = false
    have colon : ("ocker:".toList ++ text.toList).all isNameChar = false := by
      rw [List.all_append]
      rfl
    rw [colon, Bool.and_false]
  rw [endpointName_plain visible plain, refused]
  rfl

variable {sha256Hex : String → String} {containerFilter : String}
  {containers : List DockerContainer}

/-- The node of a container is found under its own id. -/
theorem resolveNode_own (names : ((candidates containerFilter containers).map listedName).Nodup)
    (ids : ((candidates containerFilter containers).map listedId).Nodup)
    {container : DockerContainer} (member : container ∈ candidates containerFilter containers) :
    resolveNode containerFilter containers ("docker:" ++ listedId container) =
      some (discoverOne container) := by
  have distinct : (((candidates containerFilter containers).map discoverOne).map
      DockerNode.nodeId).Nodup := by
    have scheme : ((candidates containerFilter containers).map discoverOne).map DockerNode.nodeId =
        ((candidates containerFilter containers).map listedId).map (fun id => "docker:" ++ id) := by
      rw [List.map_map, List.map_map]
      exact List.map_congr_left (fun other _ => discoverOne_id other)
    rw [scheme]
    refine ids.map ?_
    intro left right same
    have chars := congrArg String.toList same
    rw [String.toList_append, String.toList_append] at chars
    exact String.toList_inj.mp (List.append_cancel_left chars)
  have found := Dict.find?_key distinct (List.mem_map_of_mem (f := discoverOne) member)
  rw [discoverOne_id] at found
  rw [resolveNode, discoverNodes_eq names, found]

/-- Under another id only the single node is found, or a node of that name. -/
theorem resolveNode_other
    (names : ((candidates containerFilter containers).map listedName).Nodup)
    {container : DockerContainer} {nodeId : String}
    (otherId : (discoverOne container).nodeId ≠ nodeId)
    (otherName : (discoverOne container).containerName ≠ nodeId)
    (resolved : resolveNode containerFilter containers nodeId = some (discoverOne container)) :
    (candidates containerFilter containers).length = 1 := by
  rw [resolveNode, discoverNodes_eq names] at resolved
  split at resolved
  · rename_i found
    obtain rfl := Option.some.inj resolved
    have atId := List.find?_some found
    exact absurd (of_decide_eq_true atId) otherId
  · split at resolved
    · rename_i found
      obtain rfl := Option.some.inj resolved
      have atName := List.find?_some found
      exact absurd (of_decide_eq_true atName) otherName
    · split at resolved
      · rename_i single
        have length := congrArg List.length single
        rw [List.length_map] at length
        exact length
      · cases resolved

theorem resolveNode_single
    (names : ((candidates containerFilter containers).map listedName).Nodup)
    {container : DockerContainer} (member : container ∈ candidates containerFilter containers)
    (single : (candidates containerFilter containers).length = 1) (nodeId : String) :
    resolveNode containerFilter containers nodeId = some (discoverOne container) := by
  obtain ⟨only, isOnly⟩ := List.length_eq_one_iff.mp single
  rw [isOnly, List.mem_singleton] at member
  subst member
  rw [resolveNode, discoverNodes_eq names, isOnly, List.map_singleton]
  simp only [List.find?_cons, List.find?_nil]
  split
  · rename_i found
    split at found
    · exact found.symm
    · cases found
  · split
    · rename_i found
      split at found
      · exact found.symm
      · cases found
    · rfl

/-- The id that polling derives finds the node of the container exactly when it is the only one,
or its name is refused, or its name looks like an id and begins with that of the container. -/
theorem polled_id_resolves_iff (sha256Hex : String → String)
    (digests : ∀ text, fullmatchClass isIdChar 64 64 (sha256Hex text) = true)
    (containerFilter : String) (containers : List DockerContainer)
    (names : ((candidates containerFilter containers).map listedName).Nodup)
    (ids : ((candidates containerFilter containers).map listedId).Nodup)
    (container : DockerContainer) (member : container ∈ candidates containerFilter containers) :
    resolveNode containerFilter containers (polledNodeId sha256Hex (discoverOne container)) =
        some (discoverOne container) ↔
      (candidates containerFilter containers).length = 1 ∨
        endpointName (apiEndpoint (discoverOne container)) = none ∨
        ∃ safe, endpointName (apiEndpoint (discoverOne container)) = some safe ∧
          isIdText safe = true ∧ slice 12 safe = listedId container := by
  cases endpoint : endpointName (apiEndpoint (discoverOne container)) with
  | none =>
      -- polling falls back to the id of the server, which is that of the node
      have polled : polledNodeId sha256Hex (discoverOne container) =
          "docker:" ++ listedId container := by
        rw [polledNodeId, nodeIdFromDockerApiEndpoint, endpoint, ← discoverOne_id]
        rfl
      rw [polled]
      exact iff_of_true (resolveNode_own names ids member) (Or.inr (Or.inl rfl))
  | some safe =>
      by_cases isId : isIdText safe = true
      · have polled : polledNodeId sha256Hex (discoverOne container) =
            "docker:" ++ slice 12 safe := by
          rw [polledNodeId, nodeIdFromDockerApiEndpoint, endpoint, Option.map_some, if_pos isId]
          rfl
        rw [polled]
        by_cases own : slice 12 safe = listedId container
        · rw [own]
          exact iff_of_true (resolveNode_own names ids member)
            (Or.inr (Or.inr ⟨safe, rfl, isId, own⟩))
        · have otherId : (discoverOne container).nodeId ≠ "docker:" ++ slice 12 safe := by
            rw [discoverOne_id]
            intro same
            have chars := congrArg String.toList same
            rw [String.toList_append, String.toList_append] at chars
            exact own (String.toList_inj.mp (List.append_cancel_left chars)).symm
          have otherName : (discoverOne container).containerName ≠ "docker:" ++ slice 12 safe := by
            intro same
            rw [apiEndpoint, same, endpointName_nodeId (idText_plain isId 12)] at endpoint
            cases endpoint
          constructor
          · exact fun resolved => Or.inl (resolveNode_other names otherId otherName resolved)
          · rintro (single | impossible | ⟨other, isSafe, _, start⟩)
            · exact resolveNode_single names member single _
            · cases impossible
            · obtain rfl := Option.some.inj isSafe
              exact absurd start own
      · have polled : polledNodeId sha256Hex (discoverOne container) = slice 32 (sha256Hex safe) := by
          rw [polledNodeId, nodeIdFromDockerApiEndpoint, endpoint, Option.map_some, if_neg isId]
          rfl
        have digits := idText_plain (digests safe) 32
        have digestId : isIdText (slice 32 (sha256Hex safe)) = true := by
          obtain ⟨_, _, _⟩ := (fullmatchClass_iff isIdChar 64 64 (sha256Hex safe)).mp (digests safe)
          refine (fullmatchClass_iff isIdChar 12 64 _).mpr ⟨?_, ?_, digits⟩
          · rw [slice, String.toList_ofList, List.length_take]
            omega
          · rw [slice, String.toList_ofList, List.length_take]
            omega
        rw [polled]
        have otherId : (discoverOne container).nodeId ≠ slice 32 (sha256Hex safe) := by
          rw [discoverOne_id]
          intro same
          have colon : ':' ∈ (slice 32 (sha256Hex safe)).toList := by
            rw [← same, String.toList_append]
            exact List.mem_append_left _ (by decide)
          exact absurd (digits ':' colon) (by decide)
        have otherName : (discoverOne container).containerName ≠ slice 32 (sha256Hex safe) := by
          -- a name that is its own digest would look like an id
          intro same
          have visible : slice 32 (sha256Hex safe) ≠ "" := by
            intro empty
            rw [empty] at digestId
            exact absurd digestId (by decide)
          rw [apiEndpoint, same, endpointName_plain visible
            (fun char inDigest => isSpace_of_idChar (digits char inDigest))] at endpoint
          split at endpoint
          · rw [Option.some.inj endpoint] at digestId
            exact isId digestId
          · cases endpoint
        constructor
        · exact fun resolved => Or.inl (resolveNode_other names otherId otherName resolved)
        · rintro (single | impossible | ⟨other, isSafe, looksLikeId, _⟩)
          · exact resolveNode_single names member single _
          · cases impossible
          · obtain rfl := Option.some.inj isSafe
            exact absurd looksLikeId isId

end Ids

/-! ### Two containers -/

/-- The digests of the two names below. -/
def sampleSha256 (text : String) : String :=
  if text = "amnezia-awg" then "7cc92bf76ae2657bb3cddb26de229fcdd1812cfac0f3c8290a2ce5dd50a38483"
  else if text = "amnezia-awg2" then
    "3591339327a784b20312571f99bbc9e243ab9d73bc22d430e5618df5f999720d"
  else "e1d6a648350dbf62c8301df7bb7e744626e1c40ec1827d4781d564e7f79c26b5"

def sampleContainer (id name : String) : DockerContainer :=
  ⟨id, name, "running", "awg", 9 / 10, .health 1⟩

def sampleContainers : List DockerContainer :=
  [sampleContainer "0f1e2d3c4b5a69788796a5b4c3d2e1f0" "amnezia-awg",
    sampleContainer "a1b2c3d4e5f60718293a4b5c6d7e8f90" "amnezia-awg2"]

theorem sampleSha256_digests (text : String) :
    fullmatchClass isIdChar 64 64 (sampleSha256 text) = true := by
  unfold sampleSha256
  split
  · decide +kernel
  · split
    · decide +kernel
    · decide +kernel

/-- The only container is found under the digest of its name. -/
theorem single_container_resolves :
    resolveNode "amnezia-awg" [sampleContainer "0f1e2d3c4b5a69788796a5b4c3d2e1f0" "amnezia-awg"]
        (polledNodeId sampleSha256
          (discoverOne (sampleContainer "0f1e2d3c4b5a69788796a5b4c3d2e1f0" "amnezia-awg"))) =
      some (discoverOne (sampleContainer "0f1e2d3c4b5a69788796a5b4c3d2e1f0" "amnezia-awg")) :=
  (polled_id_resolves_iff sampleSha256 sampleSha256_digests "amnezia-awg"
    [sampleContainer "0f1e2d3c4b5a69788796a5b4c3d2e1f0" "amnezia-awg"] (by decide +kernel)
    (by decide +kernel) _ (by decide +kernel)).mpr (Or.inl (by decide +kernel))

/-- Of two healthy containers with names and ids of their own none is found. -/
theorem two_containers_unresolved :
    ((candidates "amnezia-awg" sampleContainers).map listedName).Nodup ∧
      ((candidates "amnezia-awg" sampleContainers).map listedId).Nodup ∧
      ∀ container ∈ candidates "amnezia-awg" sampleContainers,
        (discoverOne container).status = "healthy" ∧
          resolveNode "amnezia-awg" sampleContainers
            (polledNodeId sampleSha256 (discoverOne container)) = none := by
  decide +kernel

end VpnSuite.Runtime
