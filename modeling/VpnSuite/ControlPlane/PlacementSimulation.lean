/-
The choice of a node for a new peer, and its simulation (`select_node` in
`services/load_balancer.py`, `simulate_placement` in `services/control_plane_service.py`).

Both take the eligible nodes and rank them by the score of the load balancer.  `select_node`
looks at the healthy ones alone if there are any and breaks ties by the id; the simulation ranks
all of them and breaks ties by the free slots first.

Scores and latencies are rationals.  The regions and the probed latencies are what the database
returns.
-/

import VpnSuite.ControlPlane.Failover
import Mathlib.Data.Prod.Lex

set_option autoImplicit false

namespace VpnSuite.ControlPlane

open Foundations

/-! ### Nodes and requests -/

/-- A node with its capabilities; a value is kept as whether it is true. -/
structure PlacementNode extends HealthNode where
  capabilities : Dict String Bool
  deriving DecidableEq

/-- `required_capabilities`, where none and an empty list ask for nothing. -/
abbrev RequiredCapabilities := Option (List String)

def hasCapabilities (required : RequiredCapabilities) (node : PlacementNode) : Bool :=
  (required.getD []).all (fun capability => (node.capabilities.get? capability).getD false)

structure PlacementSimulateRequest where
  preferredRegion : Option String
  sourceRegion : Option String
  useLatencyProbes : Bool
  requiredCapabilities : RequiredCapabilities
  topK : Nat
  topK_bounds : 1 ≤ topK ∧ topK ≤ 20

structure PlacementCandidateOut where
  nodeId : String
  containerName : String
  region : String
  status : String
  healthScore : Option Rat
  peerCount : Nat
  maxPeers : Int
  freeSlots : Int
  score : Rat
  effectiveLatencyMs : Option Rat
  latencySource : String
  deriving DecidableEq, Repr

structure PlacementSimulationOut where
  selectedNodeId : Option String
  fallbackUsed : Bool
  candidates : List PlacementCandidateOut
  deriving DecidableEq, Repr

/-! ### `select_node` -/

inductive LoadBalancerError where
  | noSuitableNode
  deriving DecidableEq, Repr

def LoadBalancerError.message : LoadBalancerError → String
  | .noSuitableNode => "No suitable node available for peer placement"

/-- A node with room for a peer. -/
def isEligible (node : PlacementNode) : Bool :=
  node.status ∈ ["healthy", "degraded", "unknown"] ∧ 1 / 2 ≤ node.healthScore.getD 0 ∧
    (node.peerCount : Int) < node.maxPeers ∧ ¬ node.isDraining

/-- `_eligible_candidates`. -/
def eligibleCandidates (nodes : List PlacementNode) (required : RequiredCapabilities) :
    List PlacementNode :=
  nodes.filter (fun node => isEligible node && hasCapabilities required node)

def isHealthyNode (node : PlacementNode) : Bool := 9 / 10 ≤ node.healthScore.getD 0

/-- The candidates `select_node` looks at: the healthy ones, or all if there are none. -/
def placementPool (nodes : List PlacementNode) (required : RequiredCapabilities) :
    List PlacementNode :=
  let candidates := (nodes.filter isEligible).filter (hasCapabilities required)
  if candidates.filter isHealthyNode = [] then candidates else candidates.filter isHealthyNode

section Choice

variable (weights : ScoreWeights)

/-- The key of the maximum. -/
def selectionKey (node : PlacementNode) : Rat ×ₗ String :=
  toLex (calculateNodeScore weights node.toHealthNode, node.nodeId)

/-- `select_node`. -/
def selectNode (nodes : List PlacementNode) (required : RequiredCapabilities) :
    Except LoadBalancerError PlacementNode :=
  match (placementPool nodes required).argmax (selectionKey weights) with
  | none => .error .noSuitableNode
  | some best => .ok best

end Choice

/-! ### `simulate_placement` -/

def freeSlots (node : PlacementNode) : Int := max (node.maxPeers - node.peerCount) 0

section Simulation

-- The bonus for the region of the source, the regions by node, and the probed latencies by
-- source region and node.
variable (weights : ScoreWeights) (regionAffinityBonus : Rat) (regions : String → Option String)
  (probes : String → String → Option Rat)

/-- The probed latency of a node, if the request has a source region and wants probes. -/
def probedLatency (request : PlacementSimulateRequest) (nodeId : String) : Option Rat :=
  match request.sourceRegion with
  | none => none
  | some source =>
      if request.useLatencyProbes ∧ source ≠ "" then probes source nodeId else none

def probeAdjustment (node : PlacementNode) : Option Rat → Rat
  | none => 0
  | some probed => node.latencyMs.getD 0 / 1000 * weights.latency - probed / 1000 * weights.latency

/-- The bonus of a node in the source region. -/
def affinityBonus (request : PlacementSimulateRequest) (nodeId : String) : Rat :=
  match request.sourceRegion with
  | none => 0
  | some source =>
      if source ≠ "" ∧ regions nodeId = some source then regionAffinityBonus else 0

/-- The row of a candidate. -/
def placementCandidate (request : PlacementSimulateRequest) (node : PlacementNode) :
    PlacementCandidateOut :=
  let probed := probedLatency probes request node.nodeId
  { nodeId := node.nodeId
    containerName := node.containerName
    region := (regions node.nodeId).getD "unknown"
    status := node.status
    healthScore := node.healthScore
    peerCount := node.peerCount
    maxPeers := node.maxPeers
    freeSlots := freeSlots node
    score := calculateNodeScore weights node.toHealthNode + probeAdjustment weights node probed +
      affinityBonus regionAffinityBonus regions request node.nodeId
    effectiveLatencyMs := probed.or node.latencyMs
    latencySource :=
      if probed.isSome then "probe" else if node.latencyMs.isSome then "runtime" else "none" }

/-- The candidates of the preferred region, or all, with whether that is a fallback. -/
def preferredCandidates (request : PlacementSimulateRequest) (candidates : List PlacementNode) :
    List PlacementNode × Bool :=
  match request.preferredRegion with
  | none => (candidates, false)
  | some preferred =>
      if preferred = "" then (candidates, false)
      else
        let regional := candidates.filter (fun node => regions node.nodeId = some preferred)
        if regional = [] ∧ candidates ≠ [] then (candidates, true) else (regional, false)

/-- The key of the ranking. -/
def rankingKey (row : PlacementCandidateOut) : Rat ×ₗ Int ×ₗ String :=
  toLex (row.score, toLex (row.freeSlots, row.nodeId))

/-- The rows from the best to the worst; equals keep their order. -/
def ranked (rows : List PlacementCandidateOut) : List PlacementCandidateOut :=
  rows.insertionSort (fun left right => rankingKey right ≤ rankingKey left)

/-- `simulate_placement`. -/
def simulatePlacement (nodes : List PlacementNode) (request : PlacementSimulateRequest) :
    PlacementSimulationOut :=
  let candidates := eligibleCandidates nodes request.requiredCapabilities
  let (regional, fallbackUsed) := preferredCandidates regions request candidates
  let top := (ranked (regional.map
    (placementCandidate weights regionAffinityBonus regions probes request))).take request.topK
  { selectedNodeId := top.head?.map (fun row => row.nodeId)
    fallbackUsed := fallbackUsed
    candidates := top }

end Simulation

/-! ### What each of them takes -/

section Takes

variable {weights : ScoreWeights} {regionAffinityBonus : Rat} {regions : String → Option String}
  {probes : String → String → Option Rat} {nodes : List PlacementNode}
  {request : PlacementSimulateRequest} {required : RequiredCapabilities}

/-- The key of the row of a node, where regions play no part. -/
def nodeRank (weights : ScoreWeights) (node : PlacementNode) : Rat ×ₗ Int ×ₗ String :=
  toLex (calculateNodeScore weights node.toHealthNode, toLex (freeSlots node, node.nodeId))

/-- No preferred region and no source region. -/
def PlacementSimulateRequest.IsRegionless (request : PlacementSimulateRequest) : Prop :=
  request.preferredRegion.getD "" = "" ∧ request.sourceRegion.getD "" = ""

theorem rankingKey_placementCandidate (regionless : request.IsRegionless) (node : PlacementNode) :
    rankingKey (placementCandidate weights regionAffinityBonus regions probes request node) =
      nodeRank weights node := by
  have noProbe : probedLatency probes request node.nodeId = none := by
    unfold probedLatency
    split
    · rfl
    · rename_i source isSource
      have empty : source = "" := by
        have given := regionless.2
        rw [isSource] at given
        exact given
      exact if_neg (fun both => both.2 empty)
  have noBonus : affinityBonus regionAffinityBonus regions request node.nodeId = 0 := by
    unfold affinityBonus
    split
    · rfl
    · rename_i source isSource
      have empty : source = "" := by
        have given := regionless.2
        rw [isSource] at given
        exact given
      exact if_neg (fun both => both.1 empty)
  unfold rankingKey placementCandidate nodeRank
  dsimp only
  rw [noProbe, noBonus, probeAdjustment, add_zero, add_zero]

theorem preferredCandidates_regionless (regionless : request.IsRegionless)
    (candidates : List PlacementNode) :
    preferredCandidates regions request candidates = (candidates, false) := by
  unfold preferredCandidates
  split
  · rfl
  · rename_i preferred isPreferred
    have given := regionless.1
    rw [isPreferred] at given
    exact if_pos given

theorem ranked_head {rows : List PlacementCandidateOut} {top : PlacementCandidateOut}
    (first : (ranked rows).head? = some top) :
    top ∈ rows ∧ ∀ row ∈ rows, rankingKey row ≤ rankingKey top := by
  have sorted : (ranked rows).Pairwise (fun left right => rankingKey right ≤ rankingKey left) :=
    List.pairwise_insertionSort _ rows
  have members (row : PlacementCandidateOut) : row ∈ ranked rows ↔ row ∈ rows :=
    List.mem_insertionSort _
  refine ⟨(members top).mp (List.mem_of_mem_head? first), ?_⟩
  intro row member
  cases order : ranked rows with
  | nil =>
      rw [order] at first
      cases first
  | cons head rest =>
      rw [order] at first sorted
      obtain rfl := Option.some.inj first
      rcases List.mem_cons.mp (order ▸ (members row).mpr member) with rfl | later
      · exact le_refl _
      · exact (List.pairwise_cons.mp sorted).1 row later

/-- The simulation selects a node of the greatest rank. -/
theorem simulatePlacement_selected (regionless : request.IsRegionless) :
    (eligibleCandidates nodes request.requiredCapabilities = [] ∧
      (simulatePlacement weights regionAffinityBonus regions probes nodes request).selectedNodeId =
        none) ∨
    ∃ node ∈ eligibleCandidates nodes request.requiredCapabilities,
      (simulatePlacement weights regionAffinityBonus regions probes nodes request).selectedNodeId =
          some node.nodeId ∧
        ∀ other ∈ eligibleCandidates nodes request.requiredCapabilities,
          nodeRank weights other ≤ nodeRank weights node := by
  have selected : (simulatePlacement weights regionAffinityBonus regions probes nodes
      request).selectedNodeId =
        (ranked ((eligibleCandidates nodes request.requiredCapabilities).map
          (placementCandidate weights regionAffinityBonus regions probes request))).head?.map
            (fun row => row.nodeId) := by
    unfold simulatePlacement
    dsimp only
    rw [preferredCandidates_regionless regionless]
    dsimp only
    rw [List.head?_take, if_neg (by have := request.topK_bounds.1; omega)]
  rw [selected]
  cases first : (ranked ((eligibleCandidates nodes request.requiredCapabilities).map
      (placementCandidate weights regionAffinityBonus regions probes request))).head? with
  | none =>
      left
      refine ⟨?_, rfl⟩
      have noRows := List.head?_eq_none_iff.mp first
      rw [← List.length_eq_zero_iff, ranked, List.length_insertionSort, List.length_map] at noRows
      exact List.length_eq_zero_iff.mp noRows
  | some top =>
      right
      obtain ⟨member, greatest⟩ := ranked_head first
      obtain ⟨node, isEligible, rfl⟩ := List.mem_map.mp member
      refine ⟨node, isEligible, rfl, ?_⟩
      intro other inCandidates
      have below := greatest _ (List.mem_map_of_mem inCandidates)
      rw [rankingKey_placementCandidate regionless, rankingKey_placementCandidate regionless]
        at below
      exact below

theorem placementPool_eq : placementPool nodes required =
    if (eligibleCandidates nodes required).filter isHealthyNode = [] then
      eligibleCandidates nodes required
    else (eligibleCandidates nodes required).filter isHealthyNode := by
  have same : (nodes.filter isEligible).filter (hasCapabilities required) =
      eligibleCandidates nodes required := by
    rw [List.filter_filter, eligibleCandidates]
    apply List.filter_congr
    intro node _
    exact Bool.and_comm _ _
  rw [placementPool, same]

theorem mem_placementPool {node : PlacementNode} : node ∈ placementPool nodes required ↔
    node ∈ eligibleCandidates nodes required ∧
      ((∃ other ∈ eligibleCandidates nodes required, isHealthyNode other = true) →
        isHealthyNode node = true) := by
  rw [placementPool_eq]
  split
  · rename_i noneHealthy
    refine (and_iff_left ?_).symm
    rintro ⟨other, member, healthy⟩
    exact absurd healthy (List.filter_eq_nil_iff.mp noneHealthy other member)
  · rename_i someHealthy
    obtain ⟨other, member⟩ := List.exists_mem_of_ne_nil _ someHealthy
    obtain ⟨inCandidates, healthy⟩ := List.mem_filter.mp member
    rw [List.mem_filter]
    exact ⟨fun both => ⟨both.1, fun _ => both.2⟩,
      fun both => ⟨both.1, both.2 ⟨other, inCandidates, healthy⟩⟩⟩

/-- `select_node` takes a node of the pool with the greatest key. -/
theorem selectNode_selected :
    (eligibleCandidates nodes required = [] ∧
      selectNode weights nodes required = .error .noSuitableNode) ∨
    ∃ best ∈ placementPool nodes required, selectNode weights nodes required = .ok best ∧
      ∀ other ∈ placementPool nodes required,
        selectionKey weights other ≤ selectionKey weights best := by
  unfold selectNode
  cases chosen : (placementPool nodes required).argmax (selectionKey weights) with
  | none =>
      left
      refine ⟨?_, rfl⟩
      have empty := List.argmax_eq_none.mp chosen
      rw [placementPool_eq] at empty
      split at empty
      · exact empty
      · rename_i someHealthy
        exact absurd empty someHealthy
  | some best =>
      right
      exact ⟨best, List.argmax_mem chosen, rfl,
        fun other member => List.le_of_mem_argmax member chosen⟩

end Takes

/-! ### When the simulation predicts the choice -/

section Prediction

/-- The simulation selects the node that `select_node` returns, and none exactly when that
raises. -/
structure PredictsPlacement (weights : ScoreWeights) (regionAffinityBonus : Rat)
    (regions : String → Option String) (probes : String → String → Option Rat)
    (nodes : List PlacementNode) (request : PlacementSimulateRequest) : Prop where
  same : ∀ node, selectNode weights nodes request.requiredCapabilities = .ok node →
    (simulatePlacement weights regionAffinityBonus regions probes nodes request).selectedNodeId =
      some node.nodeId
  noneIff :
    (simulatePlacement weights regionAffinityBonus regions probes nodes request).selectedNodeId =
        none ↔
      ∃ error, selectNode weights nodes request.requiredCapabilities = .error error

/-- Every eligible node that is not healthy is outranked by a healthy one, if there is one; and
among the nodes of the best score that `select_node` looks at, the one with the greatest id has
the most free slots. -/
structure RankingsAgree (weights : ScoreWeights) (nodes : List PlacementNode)
    (required : RequiredCapabilities) : Prop where
  healthyAhead : ∀ node ∈ eligibleCandidates nodes required, isHealthyNode node = false →
    (∃ other ∈ eligibleCandidates nodes required, isHealthyNode other = true) →
      ∃ other ∈ eligibleCandidates nodes required, isHealthyNode other = true ∧
        nodeRank weights node ≤ nodeRank weights other
  lastFreest : ∀ last ∈ placementPool nodes required,
    (∀ other ∈ placementPool nodes required,
      calculateNodeScore weights other.toHealthNode ≤
        calculateNodeScore weights last.toHealthNode) →
    (∀ other ∈ placementPool nodes required,
      calculateNodeScore weights other.toHealthNode = calculateNodeScore weights last.toHealthNode →
        other.nodeId ≤ last.nodeId) →
    ∀ other ∈ placementPool nodes required,
      calculateNodeScore weights other.toHealthNode = calculateNodeScore weights last.toHealthNode →
        freeSlots other ≤ freeSlots last

variable {weights : ScoreWeights} {nodes : List PlacementNode} {required : RequiredCapabilities}
  {left right : PlacementNode}

theorem selectionKey_le_iff : selectionKey weights left ≤ selectionKey weights right ↔
    calculateNodeScore weights left.toHealthNode < calculateNodeScore weights right.toHealthNode ∨
      (calculateNodeScore weights left.toHealthNode =
          calculateNodeScore weights right.toHealthNode ∧ left.nodeId ≤ right.nodeId) := by
  rw [selectionKey, selectionKey, Prod.Lex.toLex_le_toLex]

theorem nodeRank_le_iff : nodeRank weights left ≤ nodeRank weights right ↔
    calculateNodeScore weights left.toHealthNode < calculateNodeScore weights right.toHealthNode ∨
      (calculateNodeScore weights left.toHealthNode =
          calculateNodeScore weights right.toHealthNode ∧
        (freeSlots left < freeSlots right ∨
          (freeSlots left = freeSlots right ∧ left.nodeId ≤ right.nodeId))) := by
  rw [nodeRank, nodeRank, Prod.Lex.toLex_le_toLex, Prod.Lex.toLex_le_toLex]

theorem nodeId_of_ranks (below : nodeRank weights left ≤ nodeRank weights right)
    (above : nodeRank weights right ≤ nodeRank weights left) : left.nodeId = right.nodeId :=
  congrArg (fun rank => (ofLex (ofLex rank).2).2) (le_antisymm below above)

theorem nodeId_of_keys (below : selectionKey weights left ≤ selectionKey weights right)
    (above : selectionKey weights right ≤ selectionKey weights left) : left.nodeId = right.nodeId :=
  congrArg (fun key => (ofLex key).2) (le_antisymm below above)

/-- Where the rankings agree, the node of the greatest rank has the greatest key of the pool. -/
theorem RankingsAgree.nodeId_eq (agree : RankingsAgree weights nodes required)
    (distinct : (nodes.map (fun node => node.nodeId)).Nodup)
    {first best : PlacementNode} (inCandidates : first ∈ eligibleCandidates nodes required)
    (greatest : ∀ other ∈ eligibleCandidates nodes required,
      nodeRank weights other ≤ nodeRank weights first)
    (inPool : best ∈ placementPool nodes required)
    (greatestKey : ∀ other ∈ placementPool nodes required,
      selectionKey weights other ≤ selectionKey weights best) :
    first.nodeId = best.nodeId := by
  have firstInPool : first ∈ placementPool nodes required := by
    refine mem_placementPool.mpr ⟨inCandidates, ?_⟩
    intro someHealthy
    by_contra unhealthy
    obtain ⟨other, inOther, healthy, ahead⟩ := agree.healthyAhead first inCandidates
      ((Bool.not_eq_true _).mp unhealthy) someHealthy
    have same := List.inj_on_of_nodup_map distinct (List.mem_of_mem_filter inCandidates)
      (List.mem_of_mem_filter inOther) (nodeId_of_ranks ahead (greatest other inOther))
    exact unhealthy (same ▸ healthy)
  have bestInCandidates := (mem_placementPool.mp inPool).1
  have keyBelow := greatestKey first firstInPool
  have rankBelow := greatest best bestInCandidates
  have sameScore : calculateNodeScore weights first.toHealthNode =
      calculateNodeScore weights best.toHealthNode := by
    rcases selectionKey_le_iff.mp keyBelow with less | ⟨same, -⟩
    · rcases nodeRank_le_iff.mp rankBelow with more | ⟨same, -⟩
      · exact absurd less (lt_asymm more)
      · exact same.symm
    · exact same
  have freeBelow : freeSlots first ≤ freeSlots best := by
    apply agree.lastFreest best inPool ?_ ?_ first firstInPool sameScore
    · intro other member
      rcases selectionKey_le_iff.mp (greatestKey other member) with less | ⟨same, -⟩
      · exact less.le
      · exact same.le
    · intro other member same
      rcases selectionKey_le_iff.mp (greatestKey other member) with less | ⟨-, idBelow⟩
      · exact absurd same less.ne
      · exact idBelow
  have idBelow : first.nodeId ≤ best.nodeId := by
    rcases selectionKey_le_iff.mp keyBelow with less | ⟨-, below⟩
    · exact absurd sameScore less.ne
    · exact below
  have rankAbove : nodeRank weights first ≤ nodeRank weights best := by
    apply nodeRank_le_iff.mpr
    rcases lt_or_eq_of_le freeBelow with fewer | sameSlots
    · exact .inr ⟨sameScore, .inl fewer⟩
    · exact .inr ⟨sameScore, .inr ⟨sameSlots, idBelow⟩⟩
  exact nodeId_of_ranks rankAbove rankBelow

/-- A node that has the greatest rank and the greatest key makes the rankings agree. -/
theorem rankingsAgree_of_same (distinct : (nodes.map (fun node => node.nodeId)).Nodup)
    {best : PlacementNode}
    (greatest : ∀ other ∈ eligibleCandidates nodes required,
      nodeRank weights other ≤ nodeRank weights best)
    (inPool : best ∈ placementPool nodes required)
    (greatestKey : ∀ other ∈ placementPool nodes required,
      selectionKey weights other ≤ selectionKey weights best) :
    RankingsAgree weights nodes required := by
  obtain ⟨inCandidates, healthyIfAny⟩ := mem_placementPool.mp inPool
  constructor
  · intro node member _ someHealthy
    exact ⟨best, inCandidates, healthyIfAny someHealthy, greatest node member⟩
  · intro last inLast topScore topId other inOther sameScore
    have bestBelow : selectionKey weights best ≤ selectionKey weights last := by
      rcases lt_or_eq_of_le (topScore best inPool) with less | same
      · exact selectionKey_le_iff.mpr (.inl less)
      · exact selectionKey_le_iff.mpr (.inr ⟨same, topId best inPool same⟩)
    have sameId := nodeId_of_keys (greatestKey last inLast) bestBelow
    have isBest := List.inj_on_of_nodup_map distinct
      (List.mem_of_mem_filter (mem_placementPool.mp inLast).1)
      (List.mem_of_mem_filter inCandidates) sameId
    subst isBest
    rcases nodeRank_le_iff.mp (greatest other (mem_placementPool.mp inOther).1) with
      less | ⟨-, fewer | ⟨sameSlots, -⟩⟩
    · exact absurd sameScore less.ne
    · exact fewer.le
    · exact sameSlots.le

/-- Without regions the simulation predicts the choice exactly when the rankings agree. -/
theorem predictsPlacement_iff (weights : ScoreWeights) (regionAffinityBonus : Rat)
    (regions : String → Option String) (probes : String → String → Option Rat)
    (nodes : List PlacementNode) (request : PlacementSimulateRequest)
    (regionless : request.IsRegionless)
    (distinct : (nodes.map (fun node => node.nodeId)).Nodup) :
    PredictsPlacement weights regionAffinityBonus regions probes nodes request ↔
      RankingsAgree weights nodes request.requiredCapabilities := by
  rcases @selectNode_selected weights nodes request.requiredCapabilities with
    ⟨noneEligible, raised⟩ | ⟨best, inPool, chosen, greatestKey⟩
  · have selected := @simulatePlacement_selected weights regionAffinityBonus regions probes nodes
      request regionless
    rw [noneEligible] at selected
    obtain ⟨-, simulated⟩ := selected.resolve_right (fun ⟨_, member, _⟩ => by cases member)
    refine iff_of_true ⟨?_, ?_⟩ ⟨?_, ?_⟩
    · intro node returned
      rw [raised] at returned
      cases returned
    · exact iff_of_true simulated ⟨_, raised⟩
    · intro node member
      rw [noneEligible] at member
      cases member
    · intro last member
      rw [mem_placementPool, noneEligible] at member
      cases member.1
  · have inCandidates := (mem_placementPool.mp inPool).1
    rcases @simulatePlacement_selected weights regionAffinityBonus regions probes nodes request
        regionless with ⟨noneEligible, -⟩ | ⟨first, inFirst, simulated, greatest⟩
    · rw [noneEligible] at inCandidates
      cases inCandidates
    · constructor
      · intro predicts
        have sameId := Option.some.inj (simulated.symm.trans (predicts.same best chosen))
        have isBest := List.inj_on_of_nodup_map distinct (List.mem_of_mem_filter inFirst)
          (List.mem_of_mem_filter inCandidates) sameId
        subst isBest
        exact rankingsAgree_of_same distinct greatest inPool greatestKey
      · intro agree
        have sameId := agree.nodeId_eq distinct inFirst greatest inPool greatestKey
        constructor
        · intro node returned
          rw [chosen] at returned
          obtain rfl := Except.ok.inj returned
          rw [simulated, sameId]
        · rw [simulated, chosen]
          exact iff_of_false (fun none => by cases none) (fun ⟨_, raised⟩ => by cases raised)

end Prediction

/-! ### A degraded node with more room -/

def samplePlacementNode (nodeId status : String) (score : Rat) (peerCount : Nat) : PlacementNode :=
  { nodeId := nodeId
    status := status
    isDraining := false
    maxPeers := 100
    peerCount := peerCount
    containerName := nodeId
    healthScore := some score
    latencyMs := none
    capabilities := Dict.empty }

def samplePlacementRequest : PlacementSimulateRequest :=
  { preferredRegion := none
    sourceRegion := none
    useLatencyProbes := true
    requiredCapabilities := none
    topK := 5
    topK_bounds := by decide }

theorem predictsPlacement_iff_healthy :
    PredictsPlacement ⟨2 / 5, 1 / 5⟩ (1 / 20) (fun _ => none) (fun _ _ => none)
        [samplePlacementNode "node-a" "healthy" 1 10] samplePlacementRequest ↔
      RankingsAgree ⟨2 / 5, 1 / 5⟩ [samplePlacementNode "node-a" "healthy" 1 10] none :=
  predictsPlacement_iff ⟨2 / 5, 1 / 5⟩ (1 / 20) (fun _ => none) (fun _ _ => none)
    [samplePlacementNode "node-a" "healthy" 1 10] samplePlacementRequest ⟨rfl, rfl⟩ (by decide)

/-- A degraded node with more free slots is simulated, the healthy one is selected. -/
theorem roomy_degraded_node_is_simulated :
    ¬ PredictsPlacement ⟨2 / 5, 1 / 5⟩ (1 / 20) (fun _ => none) (fun _ _ => none)
      [samplePlacementNode "node-a" "degraded" (3 / 5) 10,
        samplePlacementNode "node-b" "healthy" (19 / 20) 50] samplePlacementRequest := by
  intro predicts
  have simulated := predicts.same (samplePlacementNode "node-b" "healthy" (19 / 20) 50)
    (by decide +kernel)
  exact absurd simulated (by decide +kernel)

end VpnSuite.ControlPlane
