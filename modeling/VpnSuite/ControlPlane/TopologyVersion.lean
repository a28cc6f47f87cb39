/-
The version of the cluster topology (`services/topology_engine.py`).

`rebuild_topology` hashes the topology it has built and asks Redis for its version in four
commands.  So the rebuilds of several processes are the calls of `ContentVersions`, with the
hash for the content.

Redis answers and forgets nothing: the fallback to version 1 and the expiry are left out, and
so are the cached topology and the metrics.  The nodes are those the database sync leaves.
Numbers are exact but for the mean of the health scores, whose rounding depends on their order:
it is a parameter, like the JSON text and the digest.
-/

import VpnSuite.Foundations.ContentVersions
import VpnSuite.Foundations.JsonValue
import VpnSuite.Foundations.PythonText
import Mathlib.Algebra.BigOperators.Group.List.Basic
import Mathlib.Algebra.Order.Ring.Rat
import Mathlib.Data.List.Nodup
import Mathlib.Data.String.Basic
import Mathlib.Logic.Equiv.Basic

set_option autoImplicit false

namespace VpnSuite.ControlPlane

open Foundations
open Foundations.ContentVersions

/-! ### Topologies -/

/-- `NodeMetadata`, all of which goes into the hash. -/
structure TopologyNode where
  nodeId : String
  containerName : String
  containerId : String
  hostId : Option String
  classification : Option Json
  confidence : Option Rat
  evidence : Option (List String)
  interfaceName : String
  publicKey : String
  listenPort : Int
  endpointIp : String
  internalIp : String
  peerCount : Int
  activePeers : Option Int
  totalRxBytes : Int
  totalTxBytes : Int
  mtu : Int
  status : String
  lastSeen : Option Int
  capabilities : Json
  healthScore : Rat
  maxPeers : Int
  isDraining : Bool
  latencyMs : Option Rat

structure ClusterTopology where
  timestamp : Int
  nodes : List TopologyNode
  totalCapacity : Int
  currentLoad : Int
  loadFactor : Rat
  loadIndex : Rat
  healthScore : Rat
  healthIndex : Rat
  capacityScore : Rat
  topologyVersion : Nat

/-- What `model_dump` leaves without the timestamp and the version. -/
structure TopologyContent where
  nodes : List TopologyNode
  totalCapacity : Int
  currentLoad : Int
  loadFactor : Rat
  loadIndex : Rat
  healthScore : Rat
  healthIndex : Rat
  capacityScore : Rat

def nodeIdLe (left right : TopologyNode) : Bool := decide (left.nodeId ≤ right.nodeId)

def ClusterTopology.content (topology : ClusterTopology) : TopologyContent where
  nodes := topology.nodes.mergeSort nodeIdLe
  totalCapacity := topology.totalCapacity
  currentLoad := topology.currentLoad
  loadFactor := topology.loadFactor
  loadIndex := topology.loadIndex
  healthScore := topology.healthScore
  healthIndex := topology.healthIndex
  capacityScore := topology.capacityScore

/-- The active peers when they are known, else the peers. -/
def activePeerCount (node : TopologyNode) : Int := node.activePeers.getD node.peerCount

/-- What a rebuild finds: the clock, and the nodes after discovery and sync. -/
structure RebuildInputs where
  now : Int
  nodes : List TopologyNode

section Rebuild

variable (sha256Hex : String → String) (canonicalJson : TopologyContent → String)
  (mean : List Rat → Rat)

def computeTopologyHash (topology : ClusterTopology) : String :=
  sha256Hex (canonicalJson topology.content)

/-- The topology before it has a version. -/
def clusterTopology (inputs : RebuildInputs) : ClusterTopology :=
  let totalCapacity := (inputs.nodes.map TopologyNode.maxPeers).sum
  let currentLoad := (inputs.nodes.map activePeerCount).sum
  let loadFactor : Rat := if totalCapacity = 0 then 0 else currentLoad / totalCapacity
  let capacityScore : Rat :=
    if totalCapacity = 0 then 0 else (totalCapacity - currentLoad : Int) / totalCapacity
  let healthScores := inputs.nodes.map TopologyNode.healthScore
  let clusterHealth := if healthScores = [] then 0 else mean healthScores
  { timestamp := inputs.now, nodes := inputs.nodes, totalCapacity, currentLoad, loadFactor,
    loadIndex := loadFactor, healthScore := clusterHealth, healthIndex := clusterHealth,
    capacityScore, topologyVersion := 0 }

def rebuildHash (inputs : RebuildInputs) : String :=
  computeTopologyHash sha256Hex canonicalJson (clusterTopology mean inputs)

/-- The Redis commands of rebuilds with their inputs.  A missing hash reads as the empty text. -/
def rebuildStep (found : Nat → RebuildInputs) : System String → Command → System String :=
  step (fun call => rebuildHash sha256Hex canonicalJson mean (found call)) ""

/-- The topology a rebuild has returned. -/
def returnedTopology (found : Nat → RebuildInputs) (system : System String) (call : Nat) :
    Option ClusterTopology :=
  (system.calls call).answer.map (fun version =>
    { clusterTopology mean (found call) with topologyVersion := version })

/-! ### What a version promises -/

/-- Returned topologies with one version have one hash. -/
def SameVersionSameHash (found : Nat → RebuildInputs) (system : System String) : Prop :=
  ∀ left right leftTopology rightTopology,
    returnedTopology mean found system left = some leftTopology →
    returnedTopology mean found system right = some rightTopology →
    leftTopology.topologyVersion = rightTopology.topologyVersion →
    computeTopologyHash sha256Hex canonicalJson leftTopology =
      computeTopologyHash sha256Hex canonicalJson rightTopology

/-- The condition on the interleaving: a rebuild that stores a version has been undisturbed
since it read the keys. -/
def RebuildsUndisturbed (found : Nat → RebuildInputs) : System String → Command → Prop :=
  KeepsNames (fun call => rebuildHash sha256Hex canonicalJson mean (found call))

end Rebuild

variable {sha256Hex : String → String} {canonicalJson : TopologyContent → String}
  {mean : List Rat → Rat}

variable (sha256Hex canonicalJson mean) in
/-- The version is not part of the content. -/
theorem hash_versioned (inputs : RebuildInputs) (version : Nat) :
    computeTopologyHash sha256Hex canonicalJson
        { clusterTopology mean inputs with topologyVersion := version } =
      rebuildHash sha256Hex canonicalJson mean inputs := rfl

variable (sha256Hex canonicalJson) in
theorem returnedTopology_version {found : Nat → RebuildInputs} {system : System String}
    {call : Nat} {topology : ClusterTopology}
    (returned : returnedTopology mean found system call = some topology) :
    (system.calls call).taken = some topology.topologyVersion ∧
      computeTopologyHash sha256Hex canonicalJson topology =
        rebuildHash sha256Hex canonicalJson mean (found call) := by
  obtain ⟨version, answered, rfl⟩ := Option.map_eq_some_iff.mp returned
  refine ⟨?_, hash_versioned sha256Hex canonicalJson mean (found call) version⟩
  cases phase : system.calls call with
  | returned taken =>
      rw [phase] at answered
      exact answered
  | _ =>
      rw [phase] at answered
      cases answered

theorem NamesOne.sameHash {found : Nat → RebuildInputs} {system : System String}
    (names : NamesOne (fun call => rebuildHash sha256Hex canonicalJson mean (found call)) system) :
    SameVersionSameHash sha256Hex canonicalJson mean found system := by
  intro left right leftTopology rightTopology atLeft atRight sameVersion
  obtain ⟨tookLeft, hashLeft⟩ := returnedTopology_version sha256Hex canonicalJson atLeft
  obtain ⟨tookRight, hashRight⟩ := returnedTopology_version sha256Hex canonicalJson atRight
  rw [sameVersion] at tookLeft
  rw [hashLeft, hashRight]
  exact names left right _ tookLeft tookRight

/-! ### The order of the nodes -/

theorem sorted_nodes_eq {left right : List TopologyNode} (reordered : left.Perm right)
    (distinct : (left.map TopologyNode.nodeId).Nodup) :
    left.mergeSort nodeIdLe = right.mergeSort nodeIdLe := by
  have transitive : ∀ first second third : TopologyNode, nodeIdLe first second = true →
      nodeIdLe second third = true → nodeIdLe first third = true := by
    intro first second third lower upper
    exact decide_eq_true (le_trans (of_decide_eq_true lower) (of_decide_eq_true upper))
  have total : ∀ first second : TopologyNode,
      (nodeIdLe first second || nodeIdLe second first) = true := by
    intro first second
    rw [Bool.or_eq_true]
    exact (le_total first.nodeId second.nodeId).imp decide_eq_true decide_eq_true
  have antisymmetric : ∀ first second, first ∈ left.mergeSort nodeIdLe →
      second ∈ right.mergeSort nodeIdLe → nodeIdLe first second = true →
      nodeIdLe second first = true → first = second := by
    intro first second inLeft inRight lower upper
    have sameId := le_antisymm (of_decide_eq_true lower) (of_decide_eq_true upper)
    have fromLeft := (List.mergeSort_perm left nodeIdLe).mem_iff.mp inLeft
    have fromRight := reordered.mem_iff.mpr ((List.mergeSort_perm right nodeIdLe).mem_iff.mp inRight)
    exact List.inj_on_of_nodup_map distinct fromLeft fromRight sameId
  have sortedLeft := List.pairwise_mergeSort transitive total left
  have sortedRight := List.pairwise_mergeSort transitive total right
  exact List.Perm.eq_of_pairwise antisymmetric sortedLeft sortedRight
    ((List.mergeSort_perm left nodeIdLe).trans
      (reordered.trans (List.mergeSort_perm right nodeIdLe).symm))

/-- Nodes found in another order give the same hash, if their health has the same mean. -/
theorem rebuildHash_reordered {left right : RebuildInputs}
    (reordered : left.nodes.Perm right.nodes)
    (distinct : (left.nodes.map TopologyNode.nodeId).Nodup)
    (sameMean : mean (left.nodes.map TopologyNode.healthScore) =
      mean (right.nodes.map TopologyNode.healthScore)) :
    rebuildHash sha256Hex canonicalJson mean left =
      rebuildHash sha256Hex canonicalJson mean right := by
  have capacity := (reordered.map TopologyNode.maxPeers).sum_eq
  have load := (reordered.map activePeerCount).sum_eq
  have unhealthy : left.nodes.map TopologyNode.healthScore = [] ↔
      right.nodes.map TopologyNode.healthScore = [] := by
    rw [List.map_eq_nil_iff, List.map_eq_nil_iff]
    exact ⟨fun none => List.Perm.eq_nil (none ▸ reordered.symm),
      fun none => List.Perm.eq_nil (none ▸ reordered)⟩
  have sorted := sorted_nodes_eq reordered distinct
  simp only [rebuildHash, computeTopologyHash, clusterTopology, ClusterTopology.content, capacity,
    load, sorted, sameMean, unhealthy]

/-! ### One rebuild after the other -/

/-- The topologies of two rebuilds, one after the other: the version does not decrease, and it
increases exactly when the hash differs. -/
def VersionFollows (sha256Hex : String → String) (canonicalJson : TopologyContent → String)
    (earlier later : ClusterTopology) : Prop :=
  earlier.topologyVersion ≤ later.topologyVersion ∧
    (earlier.topologyVersion < later.topologyVersion ↔
      computeTopologyHash sha256Hex canonicalJson earlier ≠
        computeTopologyHash sha256Hex canonicalJson later)

theorem sequential_rebuilds (found : Nat → RebuildInputs) {system : System String}
    {first second : Nat} (different : first ≠ second) (idleFirst : system.calls first = .idle)
    (idleSecond : system.calls second = .idle) :
    let after := (alone first ++ alone second).foldl
      (rebuildStep sha256Hex canonicalJson mean found) system
    ∃ earlier later, returnedTopology mean found after first = some earlier ∧
      returnedTopology mean found after second = some later ∧
      VersionFollows sha256Hex canonicalJson earlier later := by
  obtain ⟨version, answerFirst, answerSecond⟩ :=
    alone_twice (fun call => rebuildHash sha256Hex canonicalJson mean (found call)) "" different
      idleFirst idleSecond
  refine ⟨{ clusterTopology mean (found first) with topologyVersion := version }, _,
    congrArg (Option.map _) answerFirst, congrArg (Option.map _) answerSecond, ?_⟩
  rw [VersionFollows, hash_versioned, hash_versioned]
  by_cases same : rebuildHash sha256Hex canonicalJson mean (found first) =
      rebuildHash sha256Hex canonicalJson mean (found second)
  · rw [if_pos same]
    exact ⟨Nat.le_refl _, iff_of_false (Nat.lt_irrefl _) (fun other => other same)⟩
  · rw [if_neg same]
    exact ⟨Nat.le_succ _, iff_of_true (Nat.lt_succ_self _) same⟩

/-- A topology version names one content, in every interleaving in which the rebuilds that store
a version have been undisturbed; one after the other, rebuilds count the changes of the hash; and
the hash does not depend on the order of the nodes beyond the mean of their health. -/
theorem topology_version_names_content (sha256Hex : String → String)
    (canonicalJson : TopologyContent → String) (mean : List Rat → Rat)
    (found : Nat → RebuildInputs) (commands : List Command) :
    (EveryStep (rebuildStep sha256Hex canonicalJson mean found) System.start commands
        (RebuildsUndisturbed sha256Hex canonicalJson mean found) →
      EveryState (rebuildStep sha256Hex canonicalJson mean found) System.start commands
        (SameVersionSameHash sha256Hex canonicalJson mean found)) ∧
    (∀ (system : System String) (first second : Nat), first ≠ second →
      system.calls first = .idle → system.calls second = .idle →
      let after := (alone first ++ alone second).foldl
        (rebuildStep sha256Hex canonicalJson mean found) system
      ∃ earlier later, returnedTopology mean found after first = some earlier ∧
        returnedTopology mean found after second = some later ∧
        VersionFollows sha256Hex canonicalJson earlier later) ∧
    ∀ left right : RebuildInputs, left.nodes.Perm right.nodes →
      (left.nodes.map TopologyNode.nodeId).Nodup →
      mean (left.nodes.map TopologyNode.healthScore) =
        mean (right.nodes.map TopologyNode.healthScore) →
      rebuildHash sha256Hex canonicalJson mean left =
        rebuildHash sha256Hex canonicalJson mean right := by
  refine ⟨?_, ?_, ?_⟩
  · intro undisturbed
    exact ((namesOne_run_iff commands).mpr undisturbed).2.imp NamesOne.sameHash
  · intro system first second different idleFirst idleSecond
    exact sequential_rebuilds found different idleFirst idleSecond
  · intro left right reordered distinct sameMean
    exact rebuildHash_reordered reordered distinct sameMean

/-! ### A cluster that gains a node -/

def sampleTopologyNode (nodeId : String) : TopologyNode where
  nodeId := nodeId
  containerName := "vpn"
  containerId := ""
  hostId := none
  classification := none
  confidence := none
  evidence := none
  interfaceName := "awg0"
  publicKey := ""
  listenPort := 0
  endpointIp := ""
  internalIp := ""
  peerCount := 0
  activePeers := none
  totalRxBytes := 0
  totalTxBytes := 0
  mtu := 1420
  status := "unknown"
  lastSeen := none
  capabilities := .dict [] "\x7b\x7d"
  healthScore := 0
  maxPeers := 0
  isDraining := false
  latencyMs := none

/-- The JSON text of a sample node before and after its id. -/
def sampleNodeHead : String :=
  "\x7b\"active_peers\": null, \"capabilities\": \x7b\x7d, \"classification\": null, " ++
  "\"confidence\": null, \"container_id\": \"\", \"container_name\": \"vpn\", " ++
  "\"endpoint_ip\": \"\", \"evidence\": null, \"health_score\": 0.0, \"host_id\": null, " ++
  "\"interface_name\": \"awg0\", \"internal_ip\": \"\", \"is_draining\": false, " ++
  "\"last_seen\": null, \"latency_ms\": null, \"listen_port\": 0, \"max_peers\": 0, " ++
  "\"mtu\": 1420, \"node_id\": \""

def sampleNodeTail : String :=
  "\", \"peer_count\": 0, \"public_key\": \"\", \"status\": \"unknown\", " ++
  "\"total_rx_bytes\": 0, \"total_tx_bytes\": 0\x7d"

def sampleNodeText (nodeId : String) : String := sampleNodeHead ++ nodeId ++ sampleNodeTail

/-- The JSON text of a topology of such nodes before and after them. -/
def sampleContentHead : String :=
  "\x7b\"capacity_score\": 0.0, \"current_load\": 0, \"health_index\": 0.0, " ++
  "\"health_score\": 0.0, \"load_factor\": 0.0, \"load_index\": 0.0, \"nodes\": ["

def sampleContentTail : String := "], \"total_capacity\": 0\x7d"

def sampleContentText (nodeIds : List String) : String :=
  sampleContentHead ++ PythonText.join ", " (nodeIds.map sampleNodeText) ++ sampleContentTail

/-- The JSON text of topologies whose nodes are such samples. -/
def sampleTopologyJson (content : TopologyContent) : String :=
  sampleContentText (content.nodes.map TopologyNode.nodeId)

/-- A digest without collisions that is SHA-256 on the texts of the three topologies below. -/
def sampleTopologyDigest : String → String :=
  ((Equiv.swap (sampleContentText [])
    "b89264acd6f4d0d6df5542c9d1c6d70815722c1ff5e022b36689a1ccf7d12ec6").trans
  (Equiv.swap (sampleContentText ["n1"])
    "5830de112574dbd49a40e99040a96e2c6321c3fce5f8ac0dba3192e117acb541")).trans
  (Equiv.swap (sampleContentText ["n1", "n2"])
    "aa21913232cef13e58f2c77b3a650cb2d1b3885d613a173a13b8cd2e417648d7")

theorem sampleTopologyDigest_injective : Function.Injective sampleTopologyDigest :=
  Equiv.injective _

def exactMean (scores : List Rat) : Rat := scores.sum / scores.length

/-- The first rebuild finds no node, and the others one. -/
def gainsNode (call : Nat) : RebuildInputs :=
  ⟨0, if call = 0 then [] else [sampleTopologyNode "n1"]⟩

/-- One after the other, the two rebuilds give two versions; and two nodes may be found in either
order. -/
theorem sample_topology_versions :
    EveryState (rebuildStep sampleTopologyDigest sampleTopologyJson exactMean gainsNode)
        System.start ([0, 1].flatMap alone)
        (SameVersionSameHash sampleTopologyDigest sampleTopologyJson exactMean gainsNode) ∧
      (let after := (alone 0 ++ alone 1).foldl
        (rebuildStep sampleTopologyDigest sampleTopologyJson exactMean gainsNode) System.start
      ∃ earlier later, returnedTopology exactMean gainsNode after 0 = some earlier ∧
        returnedTopology exactMean gainsNode after 1 = some later ∧
        VersionFollows sampleTopologyDigest sampleTopologyJson earlier later) ∧
      rebuildHash sampleTopologyDigest sampleTopologyJson exactMean
          ⟨0, [sampleTopologyNode "n1", sampleTopologyNode "n2"]⟩ =
        rebuildHash sampleTopologyDigest sampleTopologyJson exactMean
          ⟨1, [sampleTopologyNode "n2", sampleTopologyNode "n1"]⟩ := by
  obtain ⟨runs, sequential, reordered⟩ := topology_version_names_content sampleTopologyDigest
    sampleTopologyJson exactMean gainsNode ([0, 1].flatMap alone)
  refine ⟨runs ?_, sequential System.start 0 1 (by decide) rfl rfl, reordered _ _ ?_ ?_ ?_⟩
  · exact keepsNames_serial _ "" [0, 1] (by decide)
  · exact List.Perm.swap _ _ _
  · decide
  · rfl

/-- Two rebuilds read the keys before either stores. -/
def readTogether : List Command :=
  [.getContent 0, .getVersion 0, .getContent 1, .getVersion 1, .setVersion 0, .setContent 0,
    .setVersion 1, .setContent 1]

theorem readTogether_answers (own : Nat → String) (call : Nat) (member : call ∈ [0, 1]) :
    ((readTogether.foldl (step own "") System.start).calls call).answer = some 1 := by
  simp only [List.mem_cons, List.not_mem_nil, or_false] at member
  rcases member with rfl | rfl <;>
    simp [readTogether, step, System.start, System.setCall, System.stored, nextVersion,
      Phase.answer]

theorem sampleContentText_differs : sampleContentText [] ≠ sampleContentText ["n1"] := by
  intro same
  have nodes := (String.append_right_inj _).mp ((String.append_left_inj _).mp same)
  have none : "" = sampleNodeHead ++ "n1" ++ sampleNodeTail := nodes.trans (PythonText.join_singleton _ _)
  have lengths := congrArg String.length none
  rw [String.length_append, String.length_append] at lengths
  have two : "n1".length = 2 := rfl
  have zero : "".length = 0 := rfl
  omega

/-- The topology without a node and the one with a node both get version 1. -/
theorem two_topologies_share_a_version :
    (∀ call ∈ [0, 1], ((readTogether.foldl
        (rebuildStep sampleTopologyDigest sampleTopologyJson exactMean gainsNode)
        System.start).calls call).answer = some 1) ∧
      ¬ EveryState (rebuildStep sampleTopologyDigest sampleTopologyJson exactMean gainsNode)
        System.start readTogether
        (SameVersionSameHash sampleTopologyDigest sampleTopologyJson exactMean gainsNode) := by
  have answered := readTogether_answers (fun call =>
    rebuildHash sampleTopologyDigest sampleTopologyJson exactMean (gainsNode call))
  have returned : ∀ call ∈ [0, 1], returnedTopology exactMean gainsNode (readTogether.foldl
      (rebuildStep sampleTopologyDigest sampleTopologyJson exactMean gainsNode)
      System.start) call =
        some { clusterTopology exactMean (gainsNode call) with topologyVersion := 1 } := by
    intro call member
    exact congrArg (Option.map _) (answered call member)
  refine ⟨answered, ?_⟩
  intro every
  have promised := every readTogether [] (List.append_nil _).symm
  have same := promised 0 1 _ _ (returned 0 (by decide)) (returned 1 (by decide)) rfl
  rw [hash_versioned, hash_versioned, rebuildHash, rebuildHash, computeTopologyHash,
    computeTopologyHash] at same
  have texts := sampleTopologyDigest_injective same
  have noNode : (clusterTopology exactMean (gainsNode 0)).content.nodes.map
      TopologyNode.nodeId = [] := congrArg _ List.mergeSort_nil
  have oneNode : (clusterTopology exactMean (gainsNode 1)).content.nodes.map
      TopologyNode.nodeId = ["n1"] := congrArg _ (List.mergeSort_singleton _)
  rw [sampleTopologyJson, sampleTopologyJson, noNode, oneNode] at texts
  exact sampleContentText_differs texts

end VpnSuite.ControlPlane
