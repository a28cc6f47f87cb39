/-
The rebalance plan and the edges of the topology graph (`plan_rebalance` and
`_graph_rebalance_edges` in `services/control_plane_service.py`).

Peers of the nodes above the high watermark go to the free slots of the nodes below the target,
the largest first.  The graph has a copy of the planner that knows of no pinned devices.

Watermarks and loads are rationals, and a peer count is what `len` or the heartbeat schema
lets through.
-/

import VpnSuite.Foundations.OrderedDict
import Mathlib.Data.List.MinMax
import Mathlib.Data.List.Sort
import Mathlib.Data.Rat.Floor

set_option autoImplicit false

namespace VpnSuite.ControlPlane

open Foundations

/-! ### Nodes and requests -/

/-- A node of the topology, as far as the planner reads it. -/
structure ClusterNode where
  nodeId : String
  status : String
  isDraining : Bool
  maxPeers : Int
  peerCount : Nat
  deriving DecidableEq, Repr

structure RebalancePlanRequest where
  highWatermark : Rat
  targetWatermark : Rat
  maxMovesPerNode : Int
  deriving DecidableEq, Repr

structure RebalanceMove where
  sourceNodeId : String
  targetNodeId : String
  peersToMove : Nat
  deriving DecidableEq, Repr

/-- The plan, with the nodes that the event names as held back by pinned devices. -/
structure RebalancePlan where
  overloadedNodes : List String
  underloadedNodes : List String
  totalPeersToMove : Nat
  moves : List RebalanceMove
  pinnedLimitedNodes : List String
  deriving DecidableEq, Repr

structure TopologyGraphEdge where
  sourceNodeId : String
  targetNodeId : String
  edgeType : String
  weight : Rat
  label : Option String
  deriving DecidableEq, Repr

/-- `int(value)`, which rounds towards zero. -/
def truncate (value : Rat) : Int := value.num.tdiv value.den

def ClusterNode.load (node : ClusterNode) : Rat := node.peerCount / node.maxPeers

/-- `int(node.max_peers * target_watermark)`. -/
def ClusterNode.target (node : ClusterNode) (targetWatermark : Rat) : Int :=
  truncate (node.maxPeers * targetWatermark)

def plannedStatuses : List String := ["healthy", "degraded", "unknown"]

/-! ### Free slots -/

def receiverSlots (targetWatermark : Rat) (underloaded : List ClusterNode) : Dict String Nat :=
  Dict.ofList (underloaded.map (fun node =>
    (node.nodeId, (max (node.target targetWatermark - node.peerCount) 0).toNat)))

def receivers (sourceId : String) (slots : Dict String Nat) : List (String × Nat) :=
  slots.entries.filter (fun entry => 0 < entry.2 ∧ entry.1 ≠ sourceId)

/-- The inner loop, with what it appends for a source, a target and a number of peers. -/
def sendPeers {α : Type} (emit : String → String → Nat → α) (sourceId : String) (pending : Nat)
    (slots : Dict String Nat) : List α × Dict String Nat :=
  if pending = 0 then ([], slots)
  else
    match (receivers sourceId slots).argmax Prod.snd with
    | none => ([], slots)
    | some (targetId, freeSlots) =>
        let moved := min pending freeSlots
        if moved = 0 then ([], slots)
        else
          let (sent, left) := sendPeers emit sourceId (pending - moved)
            (slots.set targetId (freeSlots - moved))
          (emit sourceId targetId moved :: sent, left)
termination_by pending

/-- `sorted(nodes, key=load, reverse=True)`, which keeps the order of equal loads. -/
def byLoad (nodes : List ClusterNode) : List ClusterNode :=
  nodes.insertionSort (fun left right => right.load ≤ left.load)

/-! ### `plan_rebalance` -/

section Plan

variable (request : RebalancePlanRequest) (pinnedCounts : String → Int)

def overloadedNodes (nodes : List ClusterNode) : List ClusterNode :=
  nodes.filter (fun node => ¬ node.maxPeers ≤ 0 ∧ request.highWatermark ≤ node.load ∧
    node.status ∈ plannedStatuses ∧ ¬ node.isDraining)

def underloadedNodes (nodes : List ClusterNode) : List ClusterNode :=
  nodes.filter (fun node => ¬ node.maxPeers ≤ 0 ∧ node.load < request.targetWatermark ∧
    node.status ∈ plannedStatuses ∧ ¬ node.isDraining)

/-- The peers above the target that are not pinned. -/
def movablePeers (source : ClusterNode) : Int :=
  max (source.peerCount - max (pinnedCounts source.nodeId) 0 -
    source.target request.targetWatermark) 0

def pendingPeers (source : ClusterNode) : Int :=
  min (movablePeers request pinnedCounts source) request.maxMovesPerNode

/-- The loop over the sources. -/
def planMoves : List ClusterNode → Dict String Nat → List RebalanceMove
  | [], _ => []
  | source :: rest, slots =>
      let pending := pendingPeers request pinnedCounts source
      if pending ≤ 0 then planMoves rest slots
      else
        let (moves, left) := sendPeers RebalanceMove.mk source.nodeId pending.toNat slots
        moves ++ planMoves rest left

def isPinnedLimited (source : ClusterNode) : Bool :=
  movablePeers request pinnedCounts source ≤ 0 ∧
    source.target request.targetWatermark < source.peerCount

/-- `plan_rebalance`. -/
def planRebalance (nodes : List ClusterNode) : Except String RebalancePlan :=
  if request.highWatermark ≤ request.targetWatermark then
    .error "target_watermark must be lower than high_watermark"
  else
    let overloaded := overloadedNodes request nodes
    let underloaded := underloadedNodes request nodes
    let sources := byLoad overloaded
    let moves := planMoves request pinnedCounts sources
      (receiverSlots request.targetWatermark underloaded)
    .ok { overloadedNodes := overloaded.map ClusterNode.nodeId
          underloadedNodes := underloaded.map ClusterNode.nodeId
          totalPeersToMove := (moves.map RebalanceMove.peersToMove).sum
          moves := moves
          pinnedLimitedNodes :=
            (sources.filter (isPinnedLimited request pinnedCounts)).map ClusterNode.nodeId }

end Plan

/-! ### `_graph_rebalance_edges` -/

section Graph

variable (highWatermark targetWatermark : Rat) (maxMovesPerNode : Int)

/-- The nodes that the graph does not pass over. -/
def isPlanned (node : ClusterNode) : Bool :=
  ¬ (node.maxPeers ≤ 0 ∨ node.isDraining) ∧ node.status ∈ plannedStatuses

def suggestedEdge (sourceId targetId : String) (moved : Nat) : TopologyGraphEdge :=
  { sourceNodeId := sourceId
    targetNodeId := targetId
    edgeType := "rebalance_suggested"
    weight := moved
    label := some (toString moved ++ " peers") }

def suggestEdges : List ClusterNode → Dict String Nat → List TopologyGraphEdge
  | [], _ => []
  | source :: rest, slots =>
      let pending := min (max (source.peerCount - source.target targetWatermark) 0) maxMovesPerNode
      let (edges, left) := sendPeers suggestedEdge source.nodeId pending.toNat slots
      edges ++ suggestEdges rest left

/-- `_graph_rebalance_edges`. -/
def graphRebalanceEdges (nodes : List ClusterNode) : List TopologyGraphEdge :=
  let overloaded := (nodes.filter isPlanned).filter (fun node => highWatermark ≤ node.load)
  let underloaded := (nodes.filter isPlanned).filter (fun node => node.load < targetWatermark)
  suggestEdges targetWatermark maxMovesPerNode (byLoad overloaded)
    (receiverSlots targetWatermark underloaded)

end Graph

/-! ### The inner loop -/

section Loop

variable {α β : Type} {sourceId targetId : String} {pending freeSlots : Nat}
  {slots : Dict String Nat}

/-- The chosen receiver has free slots and is not the source. -/
theorem chosen_receiver
    (chosen : (receivers sourceId slots).argmax Prod.snd = some (targetId, freeSlots)) :
    slots.get? targetId = some freeSlots ∧ 0 < freeSlots ∧ targetId ≠ sourceId := by
  obtain ⟨member, isReceiver⟩ := List.mem_filter.mp (List.argmax_mem chosen)
  exact ⟨(slots.mem_entries_iff targetId freeSlots).mp member, of_decide_eq_true isReceiver⟩

theorem sendPeers_done (emit : String → String → Nat → α) (sourceId : String)
    (slots : Dict String Nat) : sendPeers emit sourceId 0 slots = ([], slots) := by
  rw [sendPeers, if_pos rfl]

theorem sendPeers_stuck (emit : String → String → Nat → α) (pending : Nat)
    (nobody : (receivers sourceId slots).argmax Prod.snd = none) :
    sendPeers emit sourceId pending slots = ([], slots) := by
  rw [sendPeers, nobody]
  split
  · rfl
  · rfl

theorem sendPeers_step (emit : String → String → Nat → α) (more : pending ≠ 0)
    (chosen : (receivers sourceId slots).argmax Prod.snd = some (targetId, freeSlots)) :
    sendPeers emit sourceId pending slots =
      (emit sourceId targetId (min pending freeSlots) ::
          (sendPeers emit sourceId (pending - min pending freeSlots)
            (slots.set targetId (freeSlots - min pending freeSlots))).1,
        (sendPeers emit sourceId (pending - min pending freeSlots)
            (slots.set targetId (freeSlots - min pending freeSlots))).2) := by
  have moved : min pending freeSlots ≠ 0 := by
    have free := (chosen_receiver chosen).2.1
    omega
  rw [sendPeers, if_neg more, chosen]
  simp only [if_neg moved]

/-- What the loop appends does not matter for what it sends. -/
theorem sendPeers_map (emit : String → String → Nat → α) (change : α → β) (sourceId : String)
    (pending : Nat) (slots : Dict String Nat) :
    sendPeers (fun source target moved => change (emit source target moved)) sourceId pending slots =
      ((sendPeers emit sourceId pending slots).1.map change,
        (sendPeers emit sourceId pending slots).2) := by
  induction pending using Nat.strong_induction_on generalizing slots with
  | _ pending ih =>
      by_cases more : pending = 0
      · rw [more, sendPeers_done, sendPeers_done]
        rfl
      · cases chosen : (receivers sourceId slots).argmax Prod.snd with
        | none =>
            rw [sendPeers_stuck _ pending chosen, sendPeers_stuck _ pending chosen]
            rfl
        | some receiver =>
            have free := (chosen_receiver chosen).2.1
            rw [sendPeers_step _ more chosen, sendPeers_step _ more chosen, ih _ (by omega)]
            rfl

end Loop

/-! ### The graph shows the plan -/

theorem isPlanned_overloaded (request : RebalancePlanRequest) (nodes : List ClusterNode) :
    (nodes.filter isPlanned).filter (fun node => request.highWatermark ≤ node.load) =
      overloadedNodes request nodes := by
  rw [List.filter_filter, overloadedNodes]
  apply List.filter_congr
  intro node _
  rw [isPlanned, ← Bool.decide_and, decide_eq_decide, not_or]
  constructor
  · rintro ⟨high, ⟨capable, active⟩, status⟩
    exact ⟨capable, high, status, active⟩
  · rintro ⟨capable, high, status, active⟩
    exact ⟨high, ⟨capable, active⟩, status⟩

theorem isPlanned_underloaded (request : RebalancePlanRequest) (nodes : List ClusterNode) :
    (nodes.filter isPlanned).filter (fun node => node.load < request.targetWatermark) =
      underloadedNodes request nodes := by
  rw [List.filter_filter, underloadedNodes]
  apply List.filter_congr
  intro node _
  rw [isPlanned, ← Bool.decide_and, decide_eq_decide, not_or]
  constructor
  · rintro ⟨low, ⟨capable, active⟩, status⟩
    exact ⟨capable, low, status, active⟩
  · rintro ⟨capable, low, status, active⟩
    exact ⟨low, ⟨capable, active⟩, status⟩

def RebalanceMove.edge (move : RebalanceMove) : TopologyGraphEdge :=
  suggestedEdge move.sourceNodeId move.targetNodeId move.peersToMove

/-- Without pinned devices the two loops send the same peers. -/
theorem suggestEdges_eq (request : RebalancePlanRequest) (sources : List ClusterNode)
    (slots : Dict String Nat) :
    suggestEdges request.targetWatermark request.maxMovesPerNode sources slots =
      (planMoves request (fun _ => 0) sources slots).map RebalanceMove.edge := by
  induction sources generalizing slots with
  | nil => rfl
  | cons source rest ih =>
      have samePending : pendingPeers request (fun _ => 0) source =
          min (max (source.peerCount - source.target request.targetWatermark) 0)
            request.maxMovesPerNode := by
        rw [pendingPeers, movablePeers, max_self, sub_zero]
      rw [suggestEdges, planMoves, samePending]
      by_cases nothing : min (max (source.peerCount - source.target request.targetWatermark) 0)
          request.maxMovesPerNode ≤ 0
      · -- the plan goes on to the next source where the graph runs its loop no time
        rw [if_pos nothing, Int.toNat_of_nonpos nothing, sendPeers_done]
        exact ih slots
      · rw [if_neg nothing]
        generalize (min (max (source.peerCount - source.target request.targetWatermark) 0)
          request.maxMovesPerNode).toNat = pending
        have sameLoop : sendPeers suggestedEdge source.nodeId pending slots =
            ((sendPeers RebalanceMove.mk source.nodeId pending slots).1.map RebalanceMove.edge,
              (sendPeers RebalanceMove.mk source.nodeId pending slots).2) :=
          sendPeers_map RebalanceMove.mk RebalanceMove.edge source.nodeId pending slots
        rw [sameLoop]
        simp only [List.map_append, ih]

/-- Without pinned devices the suggested edges of the graph are the moves of the plan, in order. -/
theorem graph_edges_eq_plan (request : RebalancePlanRequest) (nodes : List ClusterNode)
    (lower : request.targetWatermark < request.highWatermark) :
    ∃ plan, planRebalance request (fun _ => 0) nodes = .ok plan ∧
      graphRebalanceEdges request.highWatermark request.targetWatermark request.maxMovesPerNode
        nodes = plan.moves.map RebalanceMove.edge := by
  refine ⟨_, if_neg (not_le.mpr lower), ?_⟩
  rw [graphRebalanceEdges, isPlanned_overloaded, isPlanned_underloaded]
  exact suggestEdges_eq request _ _

def sampleRebalanceRequest : RebalancePlanRequest := ⟨17 / 20, 13 / 20, 200⟩

def sampleClusterNode (nodeId : String) (peerCount : Nat) : ClusterNode :=
  ⟨nodeId, "healthy", false, 100, peerCount⟩

def sampleCluster : List ClusterNode :=
  [sampleClusterNode "node-a" 95, sampleClusterNode "node-b" 10, sampleClusterNode "node-c" 40]

theorem sample_graph_edges :
    ∃ plan, planRebalance sampleRebalanceRequest (fun _ => 0) sampleCluster = .ok plan ∧
      graphRebalanceEdges (17 / 20) (13 / 20) 200 sampleCluster =
        plan.moves.map RebalanceMove.edge :=
  graph_edges_eq_plan sampleRebalanceRequest sampleCluster (by decide +kernel)

-- the emptier node has more free slots
example : (planRebalance sampleRebalanceRequest (fun _ => 0) sampleCluster).toOption.map
    RebalancePlan.moves = some [⟨"node-a", "node-b", 30⟩] := by decide +kernel

end VpnSuite.ControlPlane
