/-
What a rebalance plan moves at most, and that it moves all it can.

A source sends its pending peers or finds no free slots.  As an overloaded node is never a
receiver, one source that is held back has left no free slots to anybody, and the total is the
lesser of what the sources may send and what the receivers have free.
-/

import VpnSuite.ControlPlane.RebalanceRounds
import Mathlib.Algebra.BigOperators.Ring.Finset

set_option autoImplicit false

namespace VpnSuite.ControlPlane

open Foundations
open Foundations.Transfers

/-! ### The bounds of a node -/

section Bounds

variable (request : RebalancePlanRequest) (pinnedCounts : String → Int)

/-- `max_peers * target_watermark`, rounded down. -/
def flooredTarget (node : ClusterNode) : Int := ⌊(node.maxPeers : Rat) * request.targetWatermark⌋

/-- What may be moved out of an overloaded node. -/
def outflowBound (source : ClusterNode) : Int :=
  min (max (source.peerCount - max (pinnedCounts source.nodeId) 0 - flooredTarget request source) 0)
    request.maxMovesPerNode

/-- What may be moved into an underloaded node. -/
def inflowBound (node : ClusterNode) : Int := max (flooredTarget request node - node.peerCount) 0

variable {request pinnedCounts} {node source : ClusterNode}

theorem target_eq_floored (capable : 0 < node.maxPeers) (positive : 0 ≤ request.targetWatermark) :
    node.target request.targetWatermark = flooredTarget request node := by
  have capacity : (0 : Rat) < node.maxPeers := by exact_mod_cast capable
  exact truncate_eq_floor (by positivity)

theorem floored_le_target (node : ClusterNode) :
    flooredTarget request node ≤ node.target request.targetWatermark := by
  rw [flooredTarget, ClusterNode.target, truncate, Rat.floor_def', Int.tdiv_eq_ediv]
  split
  · omega
  · have denominator : (0 : Int) <
        (((node.maxPeers : Rat) * request.targetWatermark).den : Int) :=
      Int.natCast_pos.mpr (Rat.den_pos _)
    rw [Int.sign_eq_one_of_pos denominator]
    omega

theorem pending_le_outflow (source : ClusterNode) :
    pendingPeers request pinnedCounts source ≤ outflowBound request pinnedCounts source := by
  have floored : flooredTarget request source ≤ source.target request.targetWatermark :=
    floored_le_target source
  rw [pendingPeers, movablePeers, outflowBound]
  omega

theorem pending_eq_outflow (capable : 0 < source.maxPeers)
    (positive : 0 ≤ request.targetWatermark) :
    pendingPeers request pinnedCounts source = outflowBound request pinnedCounts source := by
  rw [pendingPeers, movablePeers, outflowBound, target_eq_floored capable positive]

theorem outflow_nonneg (limit : 0 ≤ request.maxMovesPerNode) :
    0 ≤ outflowBound request pinnedCounts source := by
  rw [outflowBound]
  omega

theorem inflow_nonneg : 0 ≤ inflowBound request node := le_max_right _ _

/-- An underloaded node has no more peers than its target. -/
theorem inflow_of_underloaded (capable : 0 < node.maxPeers)
    (low : node.load < request.targetWatermark) :
    inflowBound request node = flooredTarget request node - node.peerCount := by
  have within : (node.peerCount : Int) ≤ flooredTarget request node := by
    rw [flooredTarget, Int.le_floor]
    have lower := (@le_load_iff node request.targetWatermark capable).not.mp (not_le.mpr low)
    exact_mod_cast (not_le.mp lower).le
  rw [inflowBound]
  omega

end Bounds

/-! ### The loops send all they can -/

section Loops

theorem slotsOf_eq_zero_of_stuck {sourceId : String} {slots : Dict String Nat}
    (nobody : (receivers sourceId slots).argmax Prod.snd = none) {key : String}
    (other : key ≠ sourceId) : slotsOf slots key = 0 := by
  have none_free : receivers sourceId slots = [] := List.argmax_eq_none.mp nobody
  cases stored : slots.get? key with
  | none =>
      rw [slotsOf, stored]
      rfl
  | some free =>
      by_contra some
      rw [slotsOf, stored, Option.getD_some] at some
      have member : (key, free) ∈ receivers sourceId slots :=
        List.mem_filter.mpr ⟨(slots.mem_entries_iff key free).mpr stored,
          decide_eq_true ⟨Nat.pos_of_ne_zero some, other⟩⟩
      rw [none_free] at member
      cases member

/-- A source that sends less than is pending leaves no free slots to others. -/
theorem sendPeers_exhausts (sourceId : String) (pending : Nat) (slots : Dict String Nat) :
    sent (sendPeers Transfer.mk sourceId pending slots).1 sourceId = pending ∨
      ∀ key, key ≠ sourceId →
        slotsOf (sendPeers Transfer.mk sourceId pending slots).2 key = 0 := by
  induction pending using Nat.strong_induction_on generalizing slots with
  | _ pending ih =>
      by_cases more : pending = 0
      · left
        rw [more, sendPeers_done]
        rfl
      · cases chosen : (receivers sourceId slots).argmax Prod.snd with
        | none =>
            right
            intro key other
            rw [sendPeers_stuck _ pending chosen]
            exact slotsOf_eq_zero_of_stuck chosen other
        | some receiver =>
            obtain ⟨targetId, freeSlots⟩ := receiver
            have free := (chosen_receiver chosen).2.1
            rw [sendPeers_step _ more chosen]
            rcases ih (pending - min pending freeSlots) (by omega)
              (slots.set targetId (freeSlots - min pending freeSlots)) with all | full
            · left
              rw [sent_cons, if_pos rfl, all]
              dsimp only
              omega
            · exact Or.inr full

variable (request : RebalancePlanRequest) (pinnedCounts : String → Int)

/-- Every source has sent what was pending, or every receiver is full. -/
theorem planMoves_exhausts {sources : List ClusterNode}
    (distinct : (sources.map ClusterNode.nodeId).Nodup) {slots : Dict String Nat}
    (idle : ∀ source ∈ sources, slotsOf slots source.nodeId = 0) :
    (∀ source ∈ sources,
      sent ((planMoves request pinnedCounts sources slots).map RebalanceMove.transfer)
        source.nodeId = (pendingPeers request pinnedCounts source).toNat) ∨
    ∀ key, received ((planMoves request pinnedCounts sources slots).map RebalanceMove.transfer) key =
      slotsOf slots key := by
  induction sources generalizing slots with
  | nil =>
      left
      intro source member
      cases member
  | cons source rest ih =>
      rw [List.map_cons, List.nodup_cons] at distinct
      have restIdle : ∀ other ∈ rest, slotsOf slots other.nodeId = 0 :=
        fun other member => idle other (List.mem_cons_of_mem source member)
      have silent : ∀ left, sent ((planMoves request pinnedCounts rest left).map
          RebalanceMove.transfer) source.nodeId = 0 := by
        intro left
        apply sent_eq_zero
        intro transfer member atSource
        obtain ⟨-, other, inRest, same⟩ :=
          (planMoves_sends request pinnedCounts distinct.2 left).fromSource transfer member
        exact distinct.1 (List.mem_map.mpr ⟨other, inRest, same.symm.trans atSource⟩)
      rcases @planMoves_cons request pinnedCounts source rest slots with
        ⟨nothing, skipped⟩ | ⟨moves, left, sends, planned⟩
      · rw [skipped]
        rcases ih distinct.2 restIdle with all | full
        · left
          intro other member
          rcases List.mem_cons.mp member with rfl | inRest
          · rw [silent slots]
            omega
          · exact all other inRest
        · exact Or.inr full
      · have here := sendPeers_sends source.nodeId (pendingPeers request pinnedCounts source).toNat
          slots
        have exhausts := sendPeers_exhausts source.nodeId
          (pendingPeers request pinnedCounts source).toNat slots
        rw [← sends] at here exhausts
        obtain ⟨sourceFirst, -, slotsFirst⟩ := here
        have withinSlots := (planMoves_sends request pinnedCounts distinct.2 left).withinSlots
        dsimp only at sourceFirst slotsFirst exhausts
        have leftIdle : ∀ other ∈ rest, slotsOf left other.nodeId = 0 := by
          intro other member
          have used := slotsFirst other.nodeId
          rw [restIdle other member] at used
          omega
        rw [planned, List.map_append]
        have filled : (∀ key, received ((planMoves request pinnedCounts rest left).map
              RebalanceMove.transfer) key = slotsOf left key) →
            ∀ key, received (moves.map RebalanceMove.transfer ++
              (planMoves request pinnedCounts rest left).map RebalanceMove.transfer) key =
                slotsOf slots key := by
          intro full key
          rw [received_append, full key]
          exact slotsFirst key
        rcases ih distinct.2 leftIdle with all | full
        · rcases exhausts with sentAll | noneFree
          · left
            intro other member
            rw [sent_append]
            rcases List.mem_cons.mp member with rfl | inRest
            · rw [silent left, Nat.add_zero]
              exact sentAll
            · have unsent : sent (moves.map RebalanceMove.transfer) other.nodeId = 0 := by
                apply sent_eq_zero
                intro transfer first atOther
                have same := (sourceFirst transfer first).1
                exact distinct.1 (List.mem_map.mpr ⟨other, inRest, atOther.symm.trans same⟩)
              rw [unsent, Nat.zero_add]
              exact all other inRest
          · -- the source has filled every receiver, and is none itself
            right
            apply filled
            intro key
            have noneLeft : slotsOf left key = 0 := by
              by_cases atSource : key = source.nodeId
              · have used := slotsFirst key
                rw [atSource, idle source List.mem_cons_self] at used
                rw [atSource]
                omega
              · exact noneFree key atSource
            have within := withinSlots key
            omega
        · exact Or.inr (filled full)

end Loops

/-! ### The plan within its bounds -/

section Sums

/-- A sum over the ids of nodes is the sum over the nodes. -/
theorem sum_over_ids {members : List ClusterNode}
    (distinct : (members.map ClusterNode.nodeId).Nodup) (value : ClusterNode → Nat) :
    ∑ key ∈ (members.map ClusterNode.nodeId).toFinset, ((nodeOf members key).map value).getD 0 =
      (members.map value).sum := by
  rw [List.sum_toFinset _ distinct, List.map_map]
  congr 1
  apply List.map_congr_left
  intro node member
  rw [Function.comp_apply, nodeOf_mem distinct member]
  rfl

theorem sum_toNat {members : List ClusterNode} {value : ClusterNode → Int}
    (nonnegative : ∀ node ∈ members, 0 ≤ value node) :
    (((members.map (fun node => (value node).toNat)).sum : Nat) : Int) =
      (members.map value).sum := by
  rw [Nat.cast_list_sum, List.map_map]
  congr 1
  apply List.map_congr_left
  intro node member
  exact Int.toNat_of_nonneg (nonnegative node member)

end Sums

section Plan

variable {request : RebalancePlanRequest} {pinnedCounts : String → Int} {nodes : List ClusterNode}

/-- No node is a source and a receiver. -/
theorem overloaded_ne_underloaded (distinct : (nodes.map ClusterNode.nodeId).Nodup)
    (lower : request.targetWatermark < request.highWatermark) {source target : ClusterNode}
    (sends : source ∈ byLoad (overloadedNodes request nodes))
    (receives : target ∈ underloadedNodes request nodes) : source.nodeId ≠ target.nodeId := by
  intro same
  obtain ⟨sourceIn, _, high⟩ := mem_sources sends
  obtain ⟨targetIn, _, low⟩ := mem_underloaded receives
  have found := nodeOf_mem distinct sourceIn
  rw [same, nodeOf_mem distinct targetIn] at found
  obtain rfl := Option.some.inj found
  exact absurd (high.trans_lt low) (not_lt.mpr lower.le)

theorem slotsOf_receiverSlots (distinct : (nodes.map ClusterNode.nodeId).Nodup)
    {node : ClusterNode} (member : node ∈ underloadedNodes request nodes) :
    slotsOf (receiverSlots request.targetWatermark (underloadedNodes request nodes)) node.nodeId =
      (inflowBound request node).toNat := by
  obtain ⟨_, capable, low⟩ := mem_underloaded member
  have positive : 0 ≤ request.targetWatermark := (load_nonneg capable).trans low.le
  have apart : ((underloadedNodes request nodes).map ClusterNode.nodeId).Nodup :=
    distinct.sublist (List.filter_sublist.map ClusterNode.nodeId)
  have keys : ((underloadedNodes request nodes).map (fun other => (other.nodeId,
      (max (other.target request.targetWatermark - other.peerCount) 0).toNat))).map Prod.fst =
        (underloadedNodes request nodes).map ClusterNode.nodeId := by
    rw [List.map_map]
    rfl
  have stored := (Dict.get?_ofList_iff (keys ▸ apart) node.nodeId
    (max (node.target request.targetWatermark - node.peerCount) 0).toNat).mpr
      (List.mem_map.mpr ⟨node, member, rfl⟩)
  rw [slotsOf, receiverSlots, stored, Option.getD_some, inflowBound,
    target_eq_floored capable positive]

variable (request pinnedCounts nodes) in
/-- What a plan moves, from where and to where, and how much of it. -/
structure PlanBounds (plan : RebalancePlan) : Prop where
  moves : ∀ move ∈ plan.moves, 0 < move.peersToMove ∧
    ∃ source ∈ overloadedNodes request nodes, ∃ target ∈ underloadedNodes request nodes,
      move.sourceNodeId = source.nodeId ∧ move.targetNodeId = target.nodeId ∧
        source.nodeId ≠ target.nodeId
  inflow : ∀ node ∈ underloadedNodes request nodes,
    (received (plan.moves.map RebalanceMove.transfer) node.nodeId : Int) ≤
      flooredTarget request node - node.peerCount
  outflow : ∀ source ∈ overloadedNodes request nodes,
    (sent (plan.moves.map RebalanceMove.transfer) source.nodeId : Int) ≤
      outflowBound request pinnedCounts source
  total : (plan.totalPeersToMove : Int) =
    min ((overloadedNodes request nodes).map (outflowBound request pinnedCounts)).sum
      ((underloadedNodes request nodes).map (inflowBound request)).sum

/-- What is sent is the lesser of what all sources may send and what all receivers have free. -/
theorem amounts_eq_min (distinct : (nodes.map ClusterNode.nodeId).Nodup)
    (lower : request.targetWatermark < request.highWatermark) :
    (((roundMoves request pinnedCounts nodes).map RebalanceMove.transfer).map Transfer.amount).sum =
      min ((overloadedNodes request nodes).map
          (fun source => (outflowBound request pinnedCounts source).toNat)).sum
        ((underloadedNodes request nodes).map (fun node => (inflowBound request node).toNat)).sum := by
  have apartSources : ((overloadedNodes request nodes).map ClusterNode.nodeId).Nodup :=
    distinct.sublist (List.filter_sublist.map ClusterNode.nodeId)
  have apartReceivers : ((underloadedNodes request nodes).map ClusterNode.nodeId).Nodup :=
    distinct.sublist (List.filter_sublist.map ClusterNode.nodeId)
  have sends : PlanSends request pinnedCounts (byLoad (overloadedNodes request nodes))
      (receiverSlots request.targetWatermark (underloadedNodes request nodes))
      ((roundMoves request pinnedCounts nodes).map RebalanceMove.transfer) :=
    round_sends distinct lower
  obtain ⟨fromSource, withinPending, withinSlots⟩ := sends
  have idle : ∀ source ∈ byLoad (overloadedNodes request nodes),
      slotsOf (receiverSlots request.targetWatermark (underloadedNodes request nodes))
        source.nodeId = 0 := by
    intro source sends
    by_contra free
    obtain ⟨target, receives, same, _⟩ := exists_receiver distinct (Nat.pos_of_ne_zero free)
    exact overloaded_ne_underloaded distinct lower sends receives same.symm
  have sortedDistinct : ((byLoad (overloadedNodes request nodes)).map ClusterNode.nodeId).Nodup := by
    rw [((byLoad_perm _).map ClusterNode.nodeId).nodup_iff]
    exact apartSources
  have exhausts := planMoves_exhausts request pinnedCounts sortedDistinct idle
  rw [← roundMoves_eq lower] at exhausts
  rw [← sum_over_ids apartSources, ← sum_over_ids apartReceivers]
  apply sum_amounts_eq_min
  · intro transfer member
    obtain ⟨_, source, sends, same⟩ := fromSource transfer member
    rw [same, List.mem_toFinset]
    exact List.mem_map_of_mem ((byLoad_perm _).mem_iff.mp sends)
  · intro transfer member
    have amount := (fromSource transfer member).1
    obtain ⟨target, receives, same, _⟩ :=
      exists_target_node distinct lower (lt_of_lt_of_le amount (le_received member))
    rw [← same, List.mem_toFinset]
    exact List.mem_map_of_mem receives
  · intro key isSource
    obtain ⟨source, sends, rfl⟩ := List.mem_map.mp (List.mem_toFinset.mp isSource)
    have within := withinPending source ((byLoad_perm _).mem_iff.mpr sends)
    have bounded := @pending_le_outflow request pinnedCounts source
    rw [nodeOf_mem apartSources sends, Option.map_some, Option.getD_some]
    omega
  · intro key isReceiver
    obtain ⟨node, receives, rfl⟩ := List.mem_map.mp (List.mem_toFinset.mp isReceiver)
    rw [nodeOf_mem apartReceivers receives, Option.map_some, Option.getD_some,
      ← slotsOf_receiverSlots distinct receives]
    exact withinSlots node.nodeId
  · rcases lt_or_ge request.targetWatermark 0 with negative | positive
    · -- no load is below a negative target
      right
      intro key isReceiver
      obtain ⟨node, receives, _⟩ := List.mem_map.mp (List.mem_toFinset.mp isReceiver)
      obtain ⟨_, capable, low⟩ := mem_underloaded receives
      exact absurd (low.trans negative) (not_lt.mpr (load_nonneg capable))
    · rcases exhausts with all | full
      · left
        intro key isSource
        obtain ⟨source, sends, rfl⟩ := List.mem_map.mp (List.mem_toFinset.mp isSource)
        have isSorted := (byLoad_perm (overloadedNodes request nodes)).mem_iff.mpr sends
        obtain ⟨_, capable, _⟩ := mem_sources isSorted
        rw [nodeOf_mem apartSources sends, Option.map_some, Option.getD_some,
          ← pending_eq_outflow capable positive]
        exact all source isSorted
      · right
        intro key isReceiver
        obtain ⟨node, receives, rfl⟩ := List.mem_map.mp (List.mem_toFinset.mp isReceiver)
        rw [nodeOf_mem apartReceivers receives, Option.map_some, Option.getD_some,
          ← slotsOf_receiverSlots distinct receives]
        exact full node.nodeId

/-- A plan is made for every topology, keeps to its bounds and moves all it can. -/
theorem plan_within_bounds (request : RebalancePlanRequest) (pinnedCounts : String → Int)
    (nodes : List ClusterNode) (distinct : (nodes.map ClusterNode.nodeId).Nodup)
    (lower : request.targetWatermark < request.highWatermark)
    (limit : 0 ≤ request.maxMovesPerNode) :
    ∃ plan, planRebalance request pinnedCounts nodes = .ok plan ∧
      PlanBounds request pinnedCounts nodes plan := by
  refine ⟨_, if_neg (not_le.mpr lower), ?_⟩
  have planned := @roundMoves_eq request pinnedCounts nodes lower
  have sends : PlanSends request pinnedCounts (byLoad (overloadedNodes request nodes))
      (receiverSlots request.targetWatermark (underloadedNodes request nodes))
      ((roundMoves request pinnedCounts nodes).map RebalanceMove.transfer) :=
    round_sends distinct lower
  obtain ⟨fromSource, withinPending, withinSlots⟩ := sends
  constructor
  · intro move member
    dsimp only at member
    rw [← planned] at member
    have inTransfers := List.mem_map_of_mem (f := RebalanceMove.transfer) member
    obtain ⟨amount, source, sends, atSource⟩ := fromSource move.transfer inTransfers
    obtain ⟨target, receives, atTarget, _⟩ :=
      exists_target_node distinct lower (lt_of_lt_of_le amount (le_received inTransfers))
    exact ⟨amount, source, (byLoad_perm _).mem_iff.mp sends, target, receives, atSource,
      atTarget.symm, overloaded_ne_underloaded distinct lower sends receives⟩
  · intro node receives
    obtain ⟨_, capable, low⟩ := mem_underloaded receives
    dsimp only
    rw [← planned, ← inflow_of_underloaded capable low]
    have within := withinSlots node.nodeId
    rw [slotsOf_receiverSlots distinct receives] at within
    have free := @inflow_nonneg request node
    omega
  · intro source sends
    dsimp only
    rw [← planned]
    have within := withinPending source ((byLoad_perm _).mem_iff.mpr sends)
    have bounded := @pending_le_outflow request pinnedCounts source
    have allowed := @outflow_nonneg request pinnedCounts source limit
    omega
  · dsimp only
    have amounts : ((roundMoves request pinnedCounts nodes).map RebalanceMove.peersToMove).sum =
        (((roundMoves request pinnedCounts nodes).map RebalanceMove.transfer).map
          Transfer.amount).sum := by
      rw [List.map_map]
      rfl
    rw [← planned, amounts, amounts_eq_min distinct lower, Nat.cast_min,
      sum_toNat (fun source _ => outflow_nonneg limit), sum_toNat (fun node _ => inflow_nonneg)]

theorem sample_plan_within_bounds :
    ∃ plan, planRebalance sampleRebalanceRequest (fun _ => 5) sampleCluster = .ok plan ∧
      PlanBounds sampleRebalanceRequest (fun _ => 5) sampleCluster plan :=
  plan_within_bounds sampleRebalanceRequest (fun _ => 5) sampleCluster (by decide)
    (by decide +kernel) (by decide)

end Plan

end VpnSuite.ControlPlane
