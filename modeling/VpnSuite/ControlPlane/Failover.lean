/-
The fallback of a failed node (`evaluate_failover` and `build_topology_graph` in
`services/control_plane_service.py`, `calculate_node_score` in `services/load_balancer.py`).

A node has failed when it is unhealthy or its health score is below one half.  A fallback may be
any node that is healthy or degraded by its status, and so also a degraded one that has failed
itself.  The choice is made twice, over two readings of the regions.

Health scores and latencies are the rationals their floats stand for; the arithmetic of a score
rounds the result of every operation.  The topology has every node once.
-/

import VpnSuite.ControlPlane.RebalancePlan
import Mathlib.Data.String.Basic

set_option autoImplicit false

namespace VpnSuite.ControlPlane

open Foundations

/-! ### The first of the best -/

section FirstBest

variable {α β : Type} [LinearOrder β] {score : α → β} {items : List α} {best : α}

theorem argmax_split (chosen : items.argmax score = some best) :
    ∃ earlier later, items = earlier ++ best :: later ∧
      (∀ other ∈ earlier, score other < score best) ∧
      ∀ other ∈ later, score other ≤ score best := by
  induction items with
  | nil => cases chosen
  | cons first rest ih =>
      rw [List.argmax_cons] at chosen
      cases restBest : rest.argmax score with
      | none =>
          rw [restBest] at chosen
          obtain rfl := Option.some.inj chosen
          obtain rfl := List.argmax_eq_none.mp restBest
          exact ⟨[], [], rfl, nofun, nofun⟩
      | some second =>
          rw [restBest] at chosen
          by_cases better : score first < score second
          · simp only [if_pos better] at chosen
            obtain rfl := Option.some.inj chosen
            obtain ⟨earlier, later, rfl, before, after⟩ := ih restBest
            refine ⟨first :: earlier, later, rfl, ?_, after⟩
            intro other member
            rcases List.mem_cons.mp member with rfl | inEarlier
            · exact better
            · exact before other inEarlier
          · simp only [if_neg better] at chosen
            obtain rfl := Option.some.inj chosen
            refine ⟨[], rest, rfl, nofun, ?_⟩
            intro other member
            exact (List.le_of_mem_argmax member restBest).trans (not_lt.mp better)

/-- The first of the best among the admitted is not bad exactly when every bad admitted item is
beaten: by an earlier one that is as good, or by a later one that is better. -/
theorem argmax_not_bad_iff (admitted : α → Bool) (bad : α → Prop)
    (chosen : (items.filter admitted).argmax score = some best) :
    ¬ bad best ↔ ∀ earlier item later, items = earlier ++ item :: later →
      admitted item = true → bad item →
        (∃ other ∈ earlier, admitted other = true ∧ score item ≤ score other) ∨
          ∃ other ∈ later, admitted other = true ∧ score item < score other := by
  obtain ⟨kept, others, filtered, worse, noBetter⟩ := argmax_split chosen
  obtain ⟨before, rest, rfl, rfl, atBest⟩ := List.filter_eq_append_iff.mp filtered
  obtain ⟨skipped, after, rfl, dropped, isAdmitted, rfl⟩ := List.filter_eq_cons_iff.mp atBest
  have worseBefore : ∀ other ∈ before ++ skipped, admitted other = true →
      score other < score best := by
    intro other member isIn
    rcases List.mem_append.mp member with inBefore | inSkipped
    · exact worse other (List.mem_filter.mpr ⟨inBefore, isIn⟩)
    · exact absurd isIn (dropped other inSkipped)
  have noneAfter : ∀ other ∈ after, admitted other = true → score other ≤ score best :=
    fun other member isIn => noBetter other (List.mem_filter.mpr ⟨member, isIn⟩)
  rw [← List.append_assoc]
  constructor
  · intro good earlier item later whole isIn isBad
    rcases List.append_eq_append_iff.mp whole with
      ⟨middle, isEarlier, rest⟩ | ⟨middle, isBefore, rest⟩
    · cases middle with
      | nil =>
          obtain ⟨rfl, -⟩ := List.cons.inj rest
          exact absurd isBad good
      | cons head others =>
          obtain ⟨rfl, rfl⟩ := List.cons.inj rest
          left
          refine ⟨best, isEarlier ▸ List.mem_append_right _ List.mem_cons_self, isAdmitted, ?_⟩
          exact noneAfter item (List.mem_append_right others List.mem_cons_self) isIn
    · cases middle with
      | nil =>
          obtain ⟨rfl, -⟩ := List.cons.inj rest
          exact absurd isBad good
      | cons head others =>
          obtain ⟨rfl, rfl⟩ := List.cons.inj rest
          right
          refine ⟨best, List.mem_append_right others List.mem_cons_self, isAdmitted, ?_⟩
          exact worseBefore item (isBefore ▸ List.mem_append_right earlier List.mem_cons_self) isIn
  · intro beaten isBad
    rcases beaten (before ++ skipped) best after rfl isAdmitted isBad with
      ⟨other, inBefore, isIn, asGood⟩ | ⟨other, inAfter, isIn, better⟩
    · exact absurd (worseBefore other inBefore isIn) (not_lt.mpr asGood)
    · exact absurd (noneAfter other inAfter isIn) (not_le.mpr better)

end FirstBest

/-! ### Nodes and their scores -/

/-- A node of the topology, with what the choice of a fallback reads. -/
structure HealthNode extends ClusterNode where
  containerName : String
  healthScore : Option Rat
  latencyMs : Option Rat
  deriving DecidableEq, Repr

/-- The weights of the load balancer that the score uses. -/
structure ScoreWeights where
  capacity : Rat
  latency : Rat
  deriving DecidableEq, Repr

/-- The arithmetic of the scores: the weights, and the float that an operation gives for its exact
result. -/
structure ScoreArithmetic where
  weights : ScoreWeights
  rounded : Rat → Rat

/-- `calculate_node_score`. -/
def floatNodeScore (arithmetic : ScoreArithmetic) (node : HealthNode) : Rat :=
  let rounded := arithmetic.rounded
  let cap := rounded (max (node.maxPeers - node.peerCount) 0 : Int)
  let health := max 0 (min 1 (node.healthScore.getD 0))
  let latencyPenalty :=
    rounded (rounded (node.latencyMs.getD 0 / 1000) * arithmetic.weights.latency)
  rounded (rounded (rounded (cap * arithmetic.weights.capacity) + health) - latencyPenalty)

/-- `calculate_node_score` over rationals, where nothing is rounded. -/
def calculateNodeScore (weights : ScoreWeights) (node : HealthNode) : Rat :=
  floatNodeScore { weights := weights, rounded := id } node

def isFailedNode (node : HealthNode) : Bool :=
  node.status = "unhealthy" ∨ node.healthScore.getD 0 < 1 / 2

def failedNodes (nodes : List HealthNode) : List HealthNode := nodes.filter isFailedNode

def isFallbackCandidate (node : HealthNode) : Bool :=
  node.status ∈ ["healthy", "degraded"] ∧ ¬ node.isDraining ∧ node.peerCount < node.maxPeers

def fallbackCandidates (nodes : List HealthNode) : List HealthNode :=
  nodes.filter isFallbackCandidate

section Choice

variable {κ : Type} [DecidableEq κ] (arithmetic : ScoreArithmetic) (region : String → κ)
  (nodes : List HealthNode) (failed : HealthNode)

/-- The candidates in the region of the failed node, or all if there are none. -/
def fallbackPool : List HealthNode :=
  let regional := (fallbackCandidates nodes).filter (fun candidate =>
    region candidate.nodeId = region failed.nodeId)
  if regional = [] then fallbackCandidates nodes else regional

def chosenFallback : Option HealthNode :=
  (fallbackPool region nodes failed).argmax (floatNodeScore arithmetic)

end Choice

/-! ### `evaluate_failover` -/

structure FailoverEvent where
  failedNodeId : String
  fallbackNodeId : String
  sameRegion : Bool
  deriving DecidableEq, Repr

structure FailoverEvaluation where
  failedNodes : List String
  fallbackNodes : List String
  mappings : Dict String (Option String)
  provisioningPausedNodes : List String
  events : List FailoverEvent

/-- `evaluate_failover`, with the events it adds. -/
def evaluateFailover (arithmetic : ScoreArithmetic) (regions : String → Option String)
    (nodes : List HealthNode) : FailoverEvaluation :=
  let failed := failedNodes nodes
  { failedNodes := failed.map (fun node => node.nodeId)
    fallbackNodes := (fallbackCandidates nodes).map (fun node => node.nodeId)
    mappings := Dict.ofList (failed.map (fun node =>
      (node.nodeId,
        (chosenFallback arithmetic regions nodes node).map (fun chosen => chosen.nodeId))))
    provisioningPausedNodes := failed.map (fun node => node.nodeId)
    events := failed.filterMap (fun node =>
      (chosenFallback arithmetic regions nodes node).map (fun chosen =>
        { failedNodeId := node.nodeId
          fallbackNodeId := chosen.nodeId
          sameRegion := (fallbackCandidates nodes).any (fun candidate =>
            regions candidate.nodeId = regions node.nodeId) })) }

/-! ### `build_topology_graph` -/

structure TopologyGraphNode where
  nodeId : String
  containerName : String
  region : String
  status : String
  healthScore : Option Rat
  peerCount : Nat
  maxPeers : Int
  loadRatio : Rat
  isDraining : Bool
  deriving DecidableEq, Repr

structure TopologyGraph where
  nodes : List TopologyGraphNode
  edges : List TopologyGraphEdge
  regions : List String

/-- `regions.get(node_id, "unknown")`. -/
def knownRegion (regions : String → Option String) (nodeId : String) : String :=
  (regions nodeId).getD "unknown"

def topologyGraphNode (regions : String → Option String) (node : HealthNode) : TopologyGraphNode :=
  { nodeId := node.nodeId
    containerName := node.containerName
    region := knownRegion regions node.nodeId
    status := node.status
    healthScore := node.healthScore
    peerCount := node.peerCount
    maxPeers := node.maxPeers
    loadRatio := if 0 < node.maxPeers then node.load else 0
    isDraining := node.isDraining }

/-- The rows, sorted by region and id. -/
def topologyGraphNodes (regions : String → Option String) (nodes : List HealthNode) :
    List TopologyGraphNode :=
  (nodes.insertionSort (fun left right =>
    knownRegion regions left.nodeId < knownRegion regions right.nodeId ∨
      (knownRegion regions left.nodeId = knownRegion regions right.nodeId ∧
        left.nodeId ≤ right.nodeId))).map (topologyGraphNode regions)

/-- The `defaultdict` of the rows by region. -/
def groupedByRegion (rows : List TopologyGraphNode) : Dict String (List TopologyGraphNode) :=
  rows.foldl (fun grouped row =>
    grouped.set row.region ((grouped.get? row.region).getD [] ++ [row])) Dict.empty

def intraRegionEdge (source target : TopologyGraphNode) : TopologyGraphEdge :=
  { sourceNodeId := source.nodeId
    targetNodeId := target.nodeId
    edgeType := "intra_region"
    weight := 1
    label := some "same region" }

/-- Every row of a region is linked to the next one. -/
def intraRegionEdges (rows : List TopologyGraphNode) : List TopologyGraphEdge :=
  (groupedByRegion rows).entries.flatMap (fun group =>
    let ordered := group.2.insertionSort (fun left right => left.nodeId ≤ right.nodeId)
    List.zipWith intraRegionEdge ordered ordered.tail)

def failoverEdge (failed chosen : HealthNode) : TopologyGraphEdge :=
  { sourceNodeId := failed.nodeId
    targetNodeId := chosen.nodeId
    edgeType := "failover_candidate"
    weight := 1
    label := some "failover" }

def failoverEdges (arithmetic : ScoreArithmetic) (region : String → String)
    (nodes : List HealthNode) : List TopologyGraphEdge :=
  (failedNodes nodes).filterMap (fun failed =>
    (chosenFallback arithmetic region nodes failed).map (failoverEdge failed))

/-- `build_topology_graph`; the request has the settings of the rebalancing. -/
def buildTopologyGraph (arithmetic : ScoreArithmetic) (request : RebalancePlanRequest)
    (regions : String → Option String) (nodes : List HealthNode) : TopologyGraph :=
  let rows := topologyGraphNodes regions nodes
  { nodes := rows
    edges := intraRegionEdges rows ++ failoverEdges arithmetic (knownRegion regions) nodes ++
      graphRebalanceEdges request.highWatermark request.targetWatermark request.maxMovesPerNode
        (nodes.map HealthNode.toClusterNode)
    regions := (groupedByRegion rows).keys.insertionSort (fun left right => left ≤ right) }

/-! ### The law of a fallback -/

/-- A node that has not failed, is not draining and has free capacity. -/
def IsUsable (node : HealthNode) : Prop :=
  isFailedNode node = false ∧ node.isDraining = false ∧ (node.peerCount : Int) < node.maxPeers

section Law

variable {κ : Type} (region : String → κ) (nodes : List HealthNode) (failed : HealthNode)

/-- A usable node of the region of the failed one. -/
def HasUsableNeighbour : Prop :=
  ∃ node ∈ nodes, IsUsable node ∧ region node.nodeId = region failed.nodeId

/-- The fallback is usable, in the region where there is such a node, and missing only where
there is none at all. -/
def ObeysFailoverLaw : Option String → Prop
  | none => ∀ node ∈ nodes, ¬ IsUsable node
  | some fallbackId => ∃ node ∈ nodes, node.nodeId = fallbackId ∧ IsUsable node ∧
      (HasUsableNeighbour region nodes failed → region node.nodeId = region failed.nodeId)

/-- Some candidate is of the region of the failed node. -/
def HasCandidateNeighbour : Prop :=
  ∃ node ∈ nodes, isFallbackCandidate node = true ∧ region node.nodeId = region failed.nodeId

/-- A candidate of the region, or any candidate where the region has none. -/
def Competes (node : HealthNode) : Prop :=
  isFallbackCandidate node = true ∧
    (HasCandidateNeighbour region nodes failed → region node.nodeId = region failed.nodeId)

variable (arithmetic : ScoreArithmetic)

/-- The condition on a failed node.  Every competing node that has failed is beaten by another
competing one, and nodes that are usable without being candidates, for their status, change
nothing. -/
structure FailoverCondition : Prop where
  failedBeaten : ∀ earlier candidate later, nodes = earlier ++ candidate :: later →
    Competes region nodes failed candidate → isFailedNode candidate = true →
      (∃ other ∈ earlier, Competes region nodes failed other ∧
        floatNodeScore arithmetic candidate ≤ floatNodeScore arithmetic other) ∨
      ∃ other ∈ later, Competes region nodes failed other ∧
        floatNodeScore arithmetic candidate < floatNodeScore arithmetic other
  neighbourListed : HasUsableNeighbour region nodes failed →
    HasCandidateNeighbour region nodes failed
  anyListed : (∃ node ∈ nodes, IsUsable node) → ∃ node ∈ nodes, isFallbackCandidate node = true

end Law

section Choice

variable {κ : Type} [DecidableEq κ] {arithmetic : ScoreArithmetic} {region : String → κ}
  {nodes : List HealthNode} {failed : HealthNode}

theorem isFallbackCandidate_iff {node : HealthNode} :
    isFallbackCandidate node = true ↔ node.status ∈ ["healthy", "degraded"] ∧
      node.isDraining = false ∧ (node.peerCount : Int) < node.maxPeers := by
  rw [isFallbackCandidate, decide_eq_true_eq, Bool.not_eq_true]

/-- The pool is made of the competing nodes, in their order. -/
theorem fallbackPool_eq_filter : ∃ competing : HealthNode → Bool,
    fallbackPool region nodes failed = nodes.filter competing ∧
      ∀ node, competing node = true ↔ Competes region nodes failed node := by
  unfold fallbackPool
  dsimp only
  split
  · rename_i nobody
    refine ⟨isFallbackCandidate, rfl, ?_⟩
    intro node
    constructor
    · intro candidate
      refine ⟨candidate, ?_⟩
      rintro ⟨neighbour, member, isCandidate, same⟩
      have absent := List.filter_eq_nil_iff.mp nobody neighbour
        (List.mem_filter.mpr ⟨member, isCandidate⟩)
      exact absurd (decide_eq_true same) absent
    · exact fun competes => competes.1
  · rename_i somebody
    obtain ⟨neighbour, listed⟩ := List.exists_mem_of_ne_nil _ somebody
    obtain ⟨isCandidate, same⟩ := List.mem_filter.mp listed
    obtain ⟨member, candidate⟩ := List.mem_filter.mp isCandidate
    refine ⟨fun node => decide (region node.nodeId = region failed.nodeId) &&
      isFallbackCandidate node, List.filter_filter, ?_⟩
    intro node
    rw [Bool.and_eq_true, decide_eq_true_eq]
    constructor
    · exact fun both => ⟨both.2, fun _ => both.1⟩
    · intro competes
      exact ⟨competes.2 ⟨neighbour, member, candidate, of_decide_eq_true same⟩, competes.1⟩

theorem mem_fallbackPool {node : HealthNode} :
    node ∈ fallbackPool region nodes failed ↔ node ∈ nodes ∧ Competes region nodes failed node := by
  obtain ⟨competing, isFilter, means⟩ := @fallbackPool_eq_filter κ _ region nodes failed
  rw [isFilter, List.mem_filter, means]

theorem fallbackPool_eq_nil (empty : fallbackPool region nodes failed = []) :
    ∀ node ∈ nodes, isFallbackCandidate node ≠ true := by
  intro node member candidate
  have outside : ∀ other ∈ nodes, ¬ Competes region nodes failed other := by
    intro other inNodes competes
    have inPool := mem_fallbackPool.mpr ⟨inNodes, competes⟩
    rw [empty] at inPool
    cases inPool
  refine outside node member ⟨candidate, ?_⟩
  rintro ⟨neighbour, inNodes, isCandidate, same⟩
  exact absurd ⟨isCandidate, fun _ => same⟩ (outside neighbour inNodes)

/-- The choice for a failed node obeys the law exactly when the condition holds. -/
theorem chosen_obeys_iff (distinct : (nodes.map (fun node => node.nodeId)).Nodup) :
    ObeysFailoverLaw region nodes failed
        ((chosenFallback arithmetic region nodes failed).map (fun chosen => chosen.nodeId)) ↔
      FailoverCondition region nodes failed arithmetic := by
  cases chosen : chosenFallback arithmetic region nodes failed with
  | none =>
      have nobody := fallbackPool_eq_nil (List.argmax_eq_none.mp chosen)
      constructor
      · intro noneUsable
        refine ⟨?_, ?_, ?_⟩
        · intro earlier candidate later split competes
          have member : candidate ∈ nodes := split ▸ List.mem_append_right _ List.mem_cons_self
          exact absurd competes.1 (nobody candidate member)
        · rintro ⟨node, member, usable, _⟩
          exact absurd usable (noneUsable node member)
        · rintro ⟨node, member, usable⟩
          exact absurd usable (noneUsable node member)
      · intro condition node member usable
        obtain ⟨candidate, inNodes, isCandidate⟩ := condition.anyListed ⟨node, member, usable⟩
        exact nobody candidate inNodes isCandidate
  | some best =>
      obtain ⟨inNodes, isCandidate, near⟩ := mem_fallbackPool.mp (List.argmax_mem chosen)
      obtain ⟨_, kept, free⟩ := isFallbackCandidate_iff.mp isCandidate
      obtain ⟨competing, isFilter, means⟩ := @fallbackPool_eq_filter κ _ region nodes failed
      rw [chosenFallback, isFilter] at chosen
      have notFailed := argmax_not_bad_iff competing (fun node => isFailedNode node = true) chosen
      simp only [means] at notFailed
      constructor
      · rintro ⟨node, member, same, usable, usableNear⟩
        have found := Dict.find?_key distinct member
        rw [same, Dict.find?_key distinct inNodes] at found
        obtain rfl := Option.some.inj found
        refine ⟨notFailed.mp (Bool.eq_false_iff.mp usable.1), ?_, ?_⟩
        · intro neighbour
          exact ⟨best, inNodes, isCandidate, usableNear neighbour⟩
        · exact fun _ => ⟨best, inNodes, isCandidate⟩
      · rintro ⟨beaten, neighbourListed, _⟩
        refine ⟨best, inNodes, rfl, ⟨Bool.eq_false_iff.mpr (notFailed.mpr beaten), kept, free⟩, ?_⟩
        exact fun neighbour => near (neighbourListed neighbour)

end Choice

/-! ### Both choices -/

section Laws

variable (arithmetic : ScoreArithmetic) (request : RebalancePlanRequest)
  (regions : String → Option String) (nodes : List HealthNode)

/-- The law of the entries of `mappings`. -/
def MappingsObey : Prop :=
  ∀ failedId choice,
    (evaluateFailover arithmetic regions nodes).mappings.get? failedId = some choice →
      ∃ failed ∈ nodes, isFailedNode failed = true ∧ failed.nodeId = failedId ∧
        ObeysFailoverLaw regions nodes failed choice

/-- The law of the `failover_candidate` edges; a failed node without one has no fallback. -/
structure GraphObeys : Prop where
  edges : ∀ edge ∈ (buildTopologyGraph arithmetic request regions nodes).edges,
    edge.edgeType = "failover_candidate" →
      ∃ failed ∈ nodes, isFailedNode failed = true ∧ failed.nodeId = edge.sourceNodeId ∧
        ObeysFailoverLaw (knownRegion regions) nodes failed (some edge.targetNodeId)
  missing : ∀ failed ∈ nodes, isFailedNode failed = true →
    (∀ edge ∈ (buildTopologyGraph arithmetic request regions nodes).edges,
      edge.edgeType = "failover_candidate" → edge.sourceNodeId ≠ failed.nodeId) →
    ObeysFailoverLaw (knownRegion regions) nodes failed none

variable {arithmetic request regions nodes}

theorem mappings_get?_iff (distinct : (nodes.map (fun node => node.nodeId)).Nodup)
    {failedId : String} {choice : Option String} :
    (evaluateFailover arithmetic regions nodes).mappings.get? failedId = some choice ↔
      ∃ failed ∈ nodes, isFailedNode failed = true ∧ failed.nodeId = failedId ∧
        choice = (chosenFallback arithmetic regions nodes failed).map
          (fun chosen => chosen.nodeId) := by
  have apart : (((failedNodes nodes).map (fun node => (node.nodeId,
      (chosenFallback arithmetic regions nodes node).map (fun chosen => chosen.nodeId)))).map
        Prod.fst).Nodup := by
    rw [List.map_map]
    exact distinct.sublist (List.filter_sublist.map _)
  rw [evaluateFailover, Dict.get?_ofList_iff apart, List.mem_map]
  constructor
  · rintro ⟨failed, member, same⟩
    obtain ⟨inNodes, isFailed⟩ := List.mem_filter.mp member
    obtain ⟨atId, atChoice⟩ := Prod.mk.inj same
    exact ⟨failed, inNodes, isFailed, atId, atChoice.symm⟩
  · rintro ⟨failed, inNodes, isFailed, rfl, rfl⟩
    exact ⟨failed, List.mem_filter.mpr ⟨inNodes, isFailed⟩, rfl⟩

theorem suggestEdges_type {targetWatermark : Rat} {maxMovesPerNode : Int}
    (sources : List ClusterNode) (slots : Dict String Nat) :
    ∀ edge ∈ suggestEdges targetWatermark maxMovesPerNode sources slots,
      edge.edgeType = "rebalance_suggested" := by
  induction sources generalizing slots with
  | nil => exact nofun
  | cons source rest ih =>
      intro edge member
      rw [suggestEdges] at member
      dsimp only at member
      generalize (min (max (source.peerCount - source.target targetWatermark) 0)
        maxMovesPerNode).toNat = pending at member
      have sameLoop : sendPeers suggestedEdge source.nodeId pending slots =
          ((sendPeers RebalanceMove.mk source.nodeId pending slots).1.map RebalanceMove.edge,
            (sendPeers RebalanceMove.mk source.nodeId pending slots).2) :=
        sendPeers_map RebalanceMove.mk RebalanceMove.edge source.nodeId pending slots
      rw [sameLoop] at member
      rcases List.mem_append.mp member with here | later
      · obtain ⟨move, _, rfl⟩ := List.mem_map.mp here
        rfl
      · exact ih _ edge later

/-- The `failover_candidate` edges are the chosen fallbacks. -/
theorem mem_failover_edges {edge : TopologyGraphEdge} :
    (edge ∈ (buildTopologyGraph arithmetic request regions nodes).edges ∧
        edge.edgeType = "failover_candidate") ↔
      ∃ failed ∈ nodes, isFailedNode failed = true ∧ ∃ chosen,
        chosenFallback arithmetic (knownRegion regions) nodes failed = some chosen ∧
          edge = failoverEdge failed chosen := by
  constructor
  · rintro ⟨member, isFailover⟩
    rcases List.mem_append.mp member with others | rebalance
    · rcases List.mem_append.mp others with intra | failover
      · obtain ⟨group, _, inGroup⟩ := List.mem_flatMap.mp intra
        obtain ⟨index, bound, rfl⟩ := List.mem_iff_getElem.mp inGroup
        rw [List.getElem_zipWith] at isFailover
        have intraType : "intra_region" = "failover_candidate" := isFailover
        exact absurd intraType (by decide)
      · obtain ⟨failed, isFailed, found⟩ := List.mem_filterMap.mp failover
        obtain ⟨chosen, choice, rfl⟩ := Option.map_eq_some_iff.mp found
        obtain ⟨inNodes, hasFailed⟩ := List.mem_filter.mp isFailed
        exact ⟨failed, inNodes, hasFailed, chosen, choice, rfl⟩
    · rw [suggestEdges_type _ _ edge rebalance] at isFailover
      exact absurd isFailover (by decide)
  · rintro ⟨failed, inNodes, hasFailed, chosen, choice, rfl⟩
    refine ⟨List.mem_append_left _ (List.mem_append_right _ ?_), rfl⟩
    rw [failoverEdges, List.mem_filterMap]
    exact ⟨failed, List.mem_filter.mpr ⟨inNodes, hasFailed⟩, by rw [choice]; rfl⟩

theorem mappingsObey_iff (distinct : (nodes.map (fun node => node.nodeId)).Nodup) :
    MappingsObey arithmetic regions nodes ↔
      ∀ failed ∈ nodes, isFailedNode failed = true →
        FailoverCondition regions nodes failed arithmetic := by
  constructor
  · intro obey failed inNodes hasFailed
    obtain ⟨other, member, _, same, law⟩ := obey failed.nodeId _
      ((mappings_get?_iff distinct).mpr ⟨failed, inNodes, hasFailed, rfl, rfl⟩)
    have found := Dict.find?_key distinct inNodes
    rw [← same, Dict.find?_key distinct member] at found
    obtain rfl := Option.some.inj found
    exact (chosen_obeys_iff distinct).mp law
  · intro conditions failedId choice stored
    obtain ⟨failed, inNodes, hasFailed, atId, rfl⟩ := (mappings_get?_iff distinct).mp stored
    exact ⟨failed, inNodes, hasFailed, atId,
      (chosen_obeys_iff distinct).mpr (conditions failed inNodes hasFailed)⟩

theorem graphObeys_iff (distinct : (nodes.map (fun node => node.nodeId)).Nodup) :
    GraphObeys arithmetic request regions nodes ↔
      ∀ failed ∈ nodes, isFailedNode failed = true →
        FailoverCondition (knownRegion regions) nodes failed arithmetic := by
  have sameNode : ∀ failed ∈ nodes, ∀ other ∈ nodes, other.nodeId = failed.nodeId →
      other = failed := by
    intro failed inNodes other member same
    have found := Dict.find?_key distinct inNodes
    rw [← same, Dict.find?_key distinct member] at found
    exact Option.some.inj found
  constructor
  · rintro ⟨edges, missing⟩ failed inNodes hasFailed
    rw [← chosen_obeys_iff distinct]
    cases choice : chosenFallback arithmetic (knownRegion regions) nodes failed with
    | some chosen =>
        obtain ⟨member, isFailover⟩ := (@mem_failover_edges arithmetic request regions nodes _).mpr
          ⟨failed, inNodes, hasFailed, chosen, choice, rfl⟩
        obtain ⟨other, otherIn, _, same, law⟩ := edges _ member isFailover
        obtain rfl := sameNode failed inNodes other otherIn same
        exact law
    | none =>
        apply missing failed inNodes hasFailed
        intro edge member isFailover same
        obtain ⟨other, otherIn, _, chosen, otherChoice, rfl⟩ :=
          mem_failover_edges.mp ⟨member, isFailover⟩
        obtain rfl := sameNode failed inNodes other otherIn same
        rw [choice] at otherChoice
        cases otherChoice
  · intro conditions
    constructor
    · intro edge member isFailover
      obtain ⟨failed, inNodes, hasFailed, chosen, choice, rfl⟩ :=
        mem_failover_edges.mp ⟨member, isFailover⟩
      have law := (chosen_obeys_iff distinct).mpr (conditions failed inNodes hasFailed)
      rw [choice] at law
      exact ⟨failed, inNodes, hasFailed, rfl, law⟩
    · intro failed inNodes hasFailed noEdge
      have law := (chosen_obeys_iff distinct).mpr (conditions failed inNodes hasFailed)
      cases choice : chosenFallback arithmetic (knownRegion regions) nodes failed with
      | none =>
          rw [choice] at law
          exact law
      | some chosen =>
          obtain ⟨member, isFailover⟩ :=
            (@mem_failover_edges arithmetic request regions nodes _).mpr
              ⟨failed, inNodes, hasFailed, chosen, choice, rfl⟩
          exact absurd rfl (noEdge _ member isFailover)

/-- Failover obeys its law exactly when, in both readings of the regions, every failed candidate
is beaten and every usable node is listed that has to be. -/
theorem failover_obeys_iff (arithmetic : ScoreArithmetic) (request : RebalancePlanRequest)
    (regions : String → Option String) (nodes : List HealthNode)
    (distinct : (nodes.map (fun node => node.nodeId)).Nodup) :
    MappingsObey arithmetic regions nodes ∧ GraphObeys arithmetic request regions nodes ↔
      ∀ failed ∈ nodes, isFailedNode failed = true →
        FailoverCondition regions nodes failed arithmetic ∧
          FailoverCondition (knownRegion regions) nodes failed arithmetic := by
  rw [mappingsObey_iff distinct, graphObeys_iff distinct]
  constructor
  · rintro ⟨mappings, graph⟩ failed inNodes hasFailed
    exact ⟨mappings failed inNodes hasFailed, graph failed inNodes hasFailed⟩
  · intro both
    exact ⟨fun failed inNodes hasFailed => (both failed inNodes hasFailed).1,
      fun failed inNodes hasFailed => (both failed inNodes hasFailed).2⟩

end Laws

/-! ### A degraded node -/

def sampleScoreArithmetic : ScoreArithmetic := ⟨⟨1, 1⟩, id⟩

def sampleHealthNode (nodeId status : String) (score : Rat) : HealthNode :=
  { nodeId := nodeId
    status := status
    isDraining := false
    maxPeers := 100
    peerCount := 10
    containerName := nodeId
    healthScore := some score
    latencyMs := none }

def sampleHealthNodes : List HealthNode :=
  [sampleHealthNode "node-a" "unhealthy" 0, sampleHealthNode "node-b" "healthy" 1]

theorem failover_obeys_iff_healthy :
    MappingsObey sampleScoreArithmetic (fun _ => some "eu") sampleHealthNodes ∧
        GraphObeys sampleScoreArithmetic sampleRebalanceRequest (fun _ => some "eu")
          sampleHealthNodes ↔
      ∀ failed ∈ sampleHealthNodes, isFailedNode failed = true →
        FailoverCondition (fun _ => some "eu") sampleHealthNodes failed sampleScoreArithmetic ∧
          FailoverCondition (knownRegion (fun _ => some "eu")) sampleHealthNodes failed
            sampleScoreArithmetic :=
  failover_obeys_iff sampleScoreArithmetic sampleRebalanceRequest (fun _ => some "eu")
    sampleHealthNodes (by decide)

/-- A degraded node with a score below one half has failed, and is its own fallback. -/
theorem degraded_node_falls_back_to_itself :
    ¬ (MappingsObey sampleScoreArithmetic (fun _ => some "eu")
        [sampleHealthNode "node-a" "degraded" (47 / 100)] ∧
      GraphObeys sampleScoreArithmetic sampleRebalanceRequest (fun _ => some "eu")
        [sampleHealthNode "node-a" "degraded" (47 / 100)]) := by
  rintro ⟨obey, _⟩
  obtain ⟨failed, _, _, _, node, member, _, usable, _⟩ :=
    obey "node-a" (some "node-a") (by decide +kernel)
  obtain rfl := List.mem_singleton.mp member
  exact absurd usable.1 (by decide +kernel)

end VpnSuite.ControlPlane
