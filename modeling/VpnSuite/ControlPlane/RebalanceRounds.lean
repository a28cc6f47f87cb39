/-
Rebalancing round after round.

A round plans the moves and applies them to the peer counts.  The level of a node is its
target, rounded down: a source keeps at least that many peers, a receiver gets at most so many,
and a batch of moves is levelled in the sense of `LevelledTransfers`.
-/

import VpnSuite.ControlPlane.RebalancePlan
import VpnSuite.Foundations.LevelledTransfers
import Mathlib.Tactic.Positivity

set_option autoImplicit false

namespace VpnSuite.ControlPlane

open Foundations
open Foundations.Transfers

/-! ### Rounds -/

def RebalanceMove.transfer (move : RebalanceMove) : Transfer String :=
  ⟨move.sourceNodeId, move.targetNodeId, move.peersToMove⟩

/-- The node after the moves. -/
def ClusterNode.after (moves : List RebalanceMove) (node : ClusterNode) : ClusterNode :=
  { node with
    peerCount := settled (moves.map RebalanceMove.transfer) node.nodeId node.peerCount }

def applyMoves (moves : List RebalanceMove) (nodes : List ClusterNode) : List ClusterNode :=
  nodes.map (ClusterNode.after moves)

/-- The moves of the plan; a refused request has none. -/
def roundMoves (request : RebalancePlanRequest) (pinnedCounts : String → Int)
    (nodes : List ClusterNode) : List RebalanceMove :=
  match planRebalance request pinnedCounts nodes with
  | .error _ => []
  | .ok plan => plan.moves

def topologyAfter (request : RebalancePlanRequest) (pinnedCounts : String → Int)
    (nodes : List ClusterNode) : Nat → List ClusterNode
  | 0 => nodes
  | round + 1 =>
      applyMoves (roundMoves request pinnedCounts (topologyAfter request pinnedCounts nodes round))
        (topologyAfter request pinnedCounts nodes round)

def totalPeers (nodes : List ClusterNode) : Nat := (nodes.map ClusterNode.peerCount).sum

/-! ### What the loops send -/

section Loops

/-- The free slots of a node, none if it is no receiver. -/
def slotsOf (slots : Dict String Nat) (key : String) : Nat := (slots.get? key).getD 0

theorem slotsOf_set (slots : Dict String Nat) (key other : String) (free : Nat) :
    slotsOf (slots.set key free) other = if other = key then free else slotsOf slots other := by
  rw [slotsOf, Dict.get?_set]
  split
  · rfl
  · rfl

/-- One source sends no more than is pending, into free slots. -/
structure Sends (sourceId : String) (pending : Nat) (slots : Dict String Nat)
    (result : List (Transfer String) × Dict String Nat) : Prop where
  fromSource : ∀ transfer ∈ result.1, transfer.source = sourceId ∧ 0 < transfer.amount
  withinPending : sent result.1 sourceId ≤ pending
  slotsUsed : ∀ key, received result.1 key + slotsOf result.2 key = slotsOf slots key

theorem sends_nothing (sourceId : String) (pending : Nat) (slots : Dict String Nat) :
    Sends sourceId pending slots ([], slots) := by
  refine ⟨?_, Nat.zero_le pending, fun key => Nat.zero_add _⟩
  intro transfer member
  cases member

theorem sendPeers_sends (sourceId : String) (pending : Nat) (slots : Dict String Nat) :
    Sends sourceId pending slots (sendPeers Transfer.mk sourceId pending slots) := by
  induction pending using Nat.strong_induction_on generalizing slots with
  | _ pending ih =>
      by_cases more : pending = 0
      · rw [more, sendPeers_done]
        exact sends_nothing sourceId 0 slots
      · cases chosen : (receivers sourceId slots).argmax Prod.snd with
        | none =>
            rw [sendPeers_stuck _ pending chosen]
            exact sends_nothing sourceId pending slots
        | some receiver =>
            obtain ⟨targetId, freeSlots⟩ := receiver
            obtain ⟨stored, free, _⟩ := chosen_receiver chosen
            rw [sendPeers_step _ more chosen]
            obtain ⟨fromSource, withinPending, slotsUsed⟩ := ih (pending - min pending freeSlots)
              (by omega) (slots.set targetId (freeSlots - min pending freeSlots))
            refine ⟨?_, ?_, ?_⟩
            · intro transfer member
              rcases List.mem_cons.mp member with rfl | later
              · exact ⟨rfl, by dsimp only; omega⟩
              · exact fromSource transfer later
            · rw [sent_cons, if_pos rfl]
              dsimp only
              omega
            · intro key
              have used := slotsUsed key
              rw [slotsOf_set] at used
              rw [received_cons]
              by_cases here : targetId = key
              · subst here
                have there : slotsOf slots targetId = freeSlots := by
                  rw [slotsOf, stored]
                  rfl
                rw [if_pos rfl] at used ⊢
                dsimp only at used ⊢
                omega
              · rw [if_neg (Ne.symm here)] at used
                rw [if_neg here]
                dsimp only
                omega

variable (request : RebalancePlanRequest) (pinnedCounts : String → Int)

/-- All sources together. -/
structure PlanSends (sources : List ClusterNode) (slots : Dict String Nat)
    (transfers : List (Transfer String)) : Prop where
  fromSource : ∀ transfer ∈ transfers,
    0 < transfer.amount ∧ ∃ source ∈ sources, transfer.source = source.nodeId
  withinPending : ∀ source ∈ sources,
    sent transfers source.nodeId ≤ (pendingPeers request pinnedCounts source).toNat
  withinSlots : ∀ key, received transfers key ≤ slotsOf slots key

variable {request pinnedCounts} in
/-- Either the first source has nothing pending, or it sends into the slots and the others into
what is left. -/
theorem planMoves_cons {source : ClusterNode} (rest : List ClusterNode) (slots : Dict String Nat) :
    (pendingPeers request pinnedCounts source ≤ 0 ∧
      planMoves request pinnedCounts (source :: rest) slots =
        planMoves request pinnedCounts rest slots) ∨
    ∃ first left, (first.map RebalanceMove.transfer, left) =
        sendPeers Transfer.mk source.nodeId (pendingPeers request pinnedCounts source).toNat slots ∧
      planMoves request pinnedCounts (source :: rest) slots =
        first ++ planMoves request pinnedCounts rest left := by
  rw [planMoves]
  by_cases nothing : pendingPeers request pinnedCounts source ≤ 0
  · rw [if_pos nothing]
    exact Or.inl ⟨nothing, rfl⟩
  · rw [if_neg nothing]
    right
    refine ⟨_, _, ?_, rfl⟩
    exact (sendPeers_map RebalanceMove.mk RebalanceMove.transfer source.nodeId _ slots).symm

theorem planMoves_sends {sources : List ClusterNode}
    (distinct : (sources.map ClusterNode.nodeId).Nodup) (slots : Dict String Nat) :
    PlanSends request pinnedCounts sources slots
      ((planMoves request pinnedCounts sources slots).map RebalanceMove.transfer) := by
  induction sources generalizing slots with
  | nil =>
      refine ⟨?_, ?_, fun key => Nat.zero_le _⟩
      · intro transfer member
        cases member
      · intro source member
        cases member
  | cons source rest ih =>
      rw [List.map_cons, List.nodup_cons] at distinct
      -- nobody else sends in the name of the source
      have silent : ∀ left, sent ((planMoves request pinnedCounts rest left).map
          RebalanceMove.transfer) source.nodeId = 0 := by
        intro left
        apply sent_eq_zero
        intro transfer member atSource
        obtain ⟨-, other, inRest, same⟩ := (ih distinct.2 left).fromSource transfer member
        exact distinct.1 (List.mem_map.mpr ⟨other, inRest, same.symm.trans atSource⟩)
      rcases @planMoves_cons request pinnedCounts source rest slots with
        ⟨_, skipped⟩ | ⟨moves, left, sends, planned⟩
      · rw [skipped]
        obtain ⟨fromSource, withinPending, withinSlots⟩ := ih distinct.2 slots
        refine ⟨?_, ?_, withinSlots⟩
        · intro transfer member
          obtain ⟨amount, other, inRest, same⟩ := fromSource transfer member
          exact ⟨amount, other, List.mem_cons_of_mem source inRest, same⟩
        · intro other member
          rcases List.mem_cons.mp member with rfl | inRest
          · rw [silent slots]
            exact Nat.zero_le _
          · exact withinPending other inRest
      · have here := sendPeers_sends source.nodeId (pendingPeers request pinnedCounts source).toNat
          slots
        rw [← sends] at here
        obtain ⟨sourceFirst, pendingFirst, slotsFirst⟩ := here
        obtain ⟨fromSource, withinPending, withinSlots⟩ := ih distinct.2 left
        dsimp only at sourceFirst pendingFirst slotsFirst
        rw [planned, List.map_append]
        refine ⟨?_, ?_, ?_⟩
        · intro transfer member
          rcases List.mem_append.mp member with first | later
          · obtain ⟨same, amount⟩ := sourceFirst transfer first
            exact ⟨amount, source, List.mem_cons_self, same⟩
          · obtain ⟨amount, other, inRest, same⟩ := fromSource transfer later
            exact ⟨amount, other, List.mem_cons_of_mem source inRest, same⟩
        · intro other member
          rw [sent_append]
          rcases List.mem_cons.mp member with rfl | inRest
          · rw [silent left, Nat.add_zero]
            exact pendingFirst
          · have unsent : sent (moves.map RebalanceMove.transfer) other.nodeId = 0 := by
              apply sent_eq_zero
              intro transfer first atOther
              have same := (sourceFirst transfer first).1
              exact distinct.1 (List.mem_map.mpr ⟨other, inRest, atOther.symm.trans same⟩)
            rw [unsent, Nat.zero_add]
            exact withinPending other inRest
        · intro key
          have first := slotsFirst key
          have later := withinSlots key
          rw [received_append]
          omega

end Loops

/-! ### Nodes by their ids -/

section Nodes

variable {nodes : List ClusterNode}

def nodeOf (nodes : List ClusterNode) (key : String) : Option ClusterNode :=
  nodes.find? (fun node => node.nodeId = key)

def countOf (nodes : List ClusterNode) (key : String) : Nat :=
  ((nodeOf nodes key).map ClusterNode.peerCount).getD 0

/-- The level of a node is its target. -/
def levelOf (targetWatermark : Rat) (nodes : List ClusterNode) (key : String) : Nat :=
  ((nodeOf nodes key).map (fun node => (node.target targetWatermark).toNat)).getD 0

theorem nodeOf_mem (distinct : (nodes.map ClusterNode.nodeId).Nodup) {node : ClusterNode}
    (member : node ∈ nodes) : nodeOf nodes node.nodeId = some node :=
  Dict.find?_key distinct member

theorem countOf_mem (distinct : (nodes.map ClusterNode.nodeId).Nodup) {node : ClusterNode}
    (member : node ∈ nodes) : countOf nodes node.nodeId = node.peerCount := by
  rw [countOf, nodeOf_mem distinct member]
  rfl

theorem levelOf_mem (targetWatermark : Rat) (distinct : (nodes.map ClusterNode.nodeId).Nodup)
    {node : ClusterNode} (member : node ∈ nodes) :
    levelOf targetWatermark nodes node.nodeId = (node.target targetWatermark).toNat := by
  rw [levelOf, nodeOf_mem distinct member]
  rfl

theorem nodeOf_applyMoves (moves : List RebalanceMove) (nodes : List ClusterNode) (key : String) :
    nodeOf (applyMoves moves nodes) key = (nodeOf nodes key).map (ClusterNode.after moves) := by
  rw [nodeOf, applyMoves, List.find?_map]
  rfl

theorem levelOf_applyMoves (targetWatermark : Rat) (moves : List RebalanceMove)
    (nodes : List ClusterNode) :
    levelOf targetWatermark (applyMoves moves nodes) = levelOf targetWatermark nodes := by
  funext key
  rw [levelOf, nodeOf_applyMoves, Option.map_map]
  rfl

theorem ids_applyMoves (moves : List RebalanceMove) (nodes : List ClusterNode) :
    (applyMoves moves nodes).map ClusterNode.nodeId = nodes.map ClusterNode.nodeId := by
  rw [applyMoves, List.map_map]
  rfl

/-- Moves among the nodes change their counts as the transfers do. -/
theorem countOf_applyMoves {moves : List RebalanceMove}
    (sources : ∀ transfer ∈ moves.map RebalanceMove.transfer,
      transfer.source ∈ nodes.map ClusterNode.nodeId)
    (targets : ∀ transfer ∈ moves.map RebalanceMove.transfer,
      transfer.target ∈ nodes.map ClusterNode.nodeId) (key : String) :
    countOf (applyMoves moves nodes) key =
      settled (moves.map RebalanceMove.transfer) key (countOf nodes key) := by
  rw [countOf, nodeOf_applyMoves, countOf]
  cases found : nodeOf nodes key with
  | some node =>
      have isNode := List.find?_some
        (show nodes.find? (fun node => node.nodeId = key) = some node from found)
      obtain rfl : node.nodeId = key := of_decide_eq_true isNode
      rfl
  | none =>
      have absent : key ∉ nodes.map ClusterNode.nodeId := by
        intro member
        obtain ⟨node, inNodes, atKey⟩ := List.mem_map.mp member
        have differs := List.find?_eq_none.mp found node inNodes
        rw [decide_eq_true_eq] at differs
        exact differs atKey
      have unsent : sent (moves.map RebalanceMove.transfer) key = 0 :=
        sent_eq_zero (fun transfer member same => absent (same ▸ sources transfer member))
      have unreceived : received (moves.map RebalanceMove.transfer) key = 0 :=
        received_eq_zero (fun transfer member same => absent (same ▸ targets transfer member))
      rw [settled_of_receiver unsent, unreceived]
      rfl

theorem totalPeers_eq_sum (distinct : (nodes.map ClusterNode.nodeId).Nodup) :
    totalPeers nodes = ∑ key ∈ (nodes.map ClusterNode.nodeId).toFinset, countOf nodes key := by
  rw [List.sum_toFinset _ distinct, List.map_map, totalPeers]
  congr 1
  apply List.map_congr_left
  intro node member
  exact (countOf_mem distinct member).symm

end Nodes

/-! ### The plan is levelled -/

section Target

variable {node : ClusterNode} {watermark : Rat}

theorem truncate_eq_floor {value : Rat} (positive : 0 ≤ value) : truncate value = ⌊value⌋ := by
  rw [truncate, Rat.floor_def', Int.tdiv_eq_ediv_of_nonneg (Rat.num_nonneg.mpr positive)]

/-- Rounding towards zero does not pass a value that is not negative. -/
theorem truncate_le {value : Rat} (positive : 0 ≤ value) : (truncate value : Rat) ≤ value := by
  rw [truncate_eq_floor positive]
  exact Int.floor_le value

theorem truncate_nonpos {value : Rat} (negative : value ≤ 0) : truncate value ≤ 0 := by
  have opposite := Int.tdiv_nonneg (Int.neg_nonneg_of_nonpos (Rat.num_nonpos.mpr negative))
    (Int.natCast_nonneg value.den)
  rw [Int.neg_tdiv] at opposite
  exact Int.nonpos_of_neg_nonneg opposite

theorem le_load_iff (capable : 0 < node.maxPeers) :
    watermark ≤ node.load ↔ (node.maxPeers : Rat) * watermark ≤ node.peerCount := by
  have positive : (0 : Rat) < node.maxPeers := by exact_mod_cast capable
  rw [ClusterNode.load, le_div_iff₀ positive, mul_comm]

/-- With a positive target, it is within the watermark. -/
theorem target_le (some : 0 < (node.target watermark).toNat) :
    (((node.target watermark).toNat : Nat) : Rat) ≤ node.maxPeers * watermark := by
  have positive : 0 ≤ (node.maxPeers : Rat) * watermark := by
    by_contra negative
    have rounded : node.target watermark ≤ 0 := truncate_nonpos (le_of_lt (not_le.mp negative))
    omega
  have rounded : (((node.target watermark).toNat : Int) : Rat) = node.target watermark := by
    rw [Int.toNat_of_nonneg (by omega)]
  rw [← Int.cast_natCast, rounded]
  exact truncate_le positive

end Target

section Round

variable {request : RebalancePlanRequest} {pinnedCounts : String → Int} {nodes : List ClusterNode}

theorem roundMoves_eq (lower : request.targetWatermark < request.highWatermark) :
    roundMoves request pinnedCounts nodes =
      planMoves request pinnedCounts (byLoad (overloadedNodes request nodes))
        (receiverSlots request.targetWatermark (underloadedNodes request nodes)) := by
  rw [roundMoves, planRebalance, if_neg (not_le.mpr lower)]

theorem byLoad_perm (nodes : List ClusterNode) : (byLoad nodes).Perm nodes :=
  List.perm_insertionSort _ nodes

theorem mem_sources {source : ClusterNode} (member : source ∈ byLoad (overloadedNodes request nodes)) :
    source ∈ nodes ∧ 0 < source.maxPeers ∧ request.highWatermark ≤ source.load := by
  obtain ⟨inNodes, overloaded⟩ := List.mem_filter.mp ((byLoad_perm _).mem_iff.mp member)
  rw [decide_eq_true_eq, not_le] at overloaded
  exact ⟨inNodes, overloaded.1, overloaded.2.1⟩

theorem mem_underloaded {node : ClusterNode} (member : node ∈ underloadedNodes request nodes) :
    node ∈ nodes ∧ 0 < node.maxPeers ∧ node.load < request.targetWatermark := by
  obtain ⟨inNodes, underloaded⟩ := List.mem_filter.mp member
  rw [decide_eq_true_eq, not_le] at underloaded
  exact ⟨inNodes, underloaded.1, underloaded.2.1⟩

theorem load_nonneg {node : ClusterNode} (capable : 0 < node.maxPeers) : 0 ≤ node.load := by
  have positive : (0 : Rat) < node.maxPeers := by exact_mod_cast capable
  rw [ClusterNode.load]
  positivity

theorem target_nonneg {node : ClusterNode} (capable : 0 < node.maxPeers) {watermark : Rat}
    (positive : 0 < watermark) : 0 ≤ node.target watermark := by
  have capacity : (0 : Rat) < node.maxPeers := by exact_mod_cast capable
  exact Int.tdiv_nonneg (Rat.num_nonneg.mpr (by positivity)) (Int.natCast_nonneg _)

/-- Free slots are those of an underloaded node. -/
theorem exists_receiver (distinct : (nodes.map ClusterNode.nodeId).Nodup) {key : String}
    (free : 0 < slotsOf (receiverSlots request.targetWatermark (underloadedNodes request nodes))
      key) :
    ∃ node ∈ underloadedNodes request nodes, node.nodeId = key ∧
      slotsOf (receiverSlots request.targetWatermark (underloadedNodes request nodes)) key =
        (max (node.target request.targetWatermark - node.peerCount) 0).toNat := by
  have keys : ((underloadedNodes request nodes).map (fun node => (node.nodeId,
      (max (node.target request.targetWatermark - node.peerCount) 0).toNat))).map Prod.fst =
        (underloadedNodes request nodes).map ClusterNode.nodeId := by
    rw [List.map_map]
    rfl
  have apart := distinct.sublist ((List.filter_sublist (l := nodes) (p := fun node =>
    ¬ node.maxPeers ≤ 0 ∧ node.load < request.targetWatermark ∧ node.status ∈ plannedStatuses ∧
      ¬ node.isDraining)).map ClusterNode.nodeId)
  cases stored : (receiverSlots request.targetWatermark (underloadedNodes request nodes)).get?
      key with
  | none =>
      rw [slotsOf, stored] at free
      cases free
  | some slots =>
      have pair := (Dict.get?_ofList_iff (keys ▸ apart) key slots).mp stored
      obtain ⟨node, member, same⟩ := List.mem_map.mp pair
      obtain ⟨rfl, rfl⟩ := Prod.mk.inj same
      refine ⟨node, member, rfl, ?_⟩
      rw [slotsOf, stored]
      rfl

theorem round_sends (distinct : (nodes.map ClusterNode.nodeId).Nodup)
    (lower : request.targetWatermark < request.highWatermark) :
    PlanSends request pinnedCounts (byLoad (overloadedNodes request nodes))
      (receiverSlots request.targetWatermark (underloadedNodes request nodes))
      ((roundMoves request pinnedCounts nodes).map RebalanceMove.transfer) := by
  rw [roundMoves_eq lower]
  apply planMoves_sends
  rw [((byLoad_perm _).map ClusterNode.nodeId).nodup_iff]
  exact distinct.sublist (List.filter_sublist.map ClusterNode.nodeId)

/-- Whoever receives peers is underloaded, and gets no more than its free slots. -/
theorem exists_target_node (distinct : (nodes.map ClusterNode.nodeId).Nodup)
    (lower : request.targetWatermark < request.highWatermark) {key : String}
    (some : 0 < received ((roundMoves request pinnedCounts nodes).map RebalanceMove.transfer) key) :
    ∃ node ∈ underloadedNodes request nodes, node.nodeId = key ∧
      received ((roundMoves request pinnedCounts nodes).map RebalanceMove.transfer) key ≤
        (max (node.target request.targetWatermark - node.peerCount) 0).toNat := by
  have within : received ((roundMoves request pinnedCounts nodes).map RebalanceMove.transfer) key ≤
      slotsOf (receiverSlots request.targetWatermark (underloadedNodes request nodes)) key :=
    (round_sends distinct lower).withinSlots key
  obtain ⟨node, member, atKey, slots⟩ := exists_receiver distinct (lt_of_lt_of_le some within)
  exact ⟨node, member, atKey, slots ▸ within⟩

/-- The moves of a round are levelled. -/
theorem round_levelled (distinct : (nodes.map ClusterNode.nodeId).Nodup)
    (lower : request.targetWatermark < request.highWatermark) :
    Levelled (levelOf request.targetWatermark nodes) (countOf nodes)
      ((roundMoves request pinnedCounts nodes).map RebalanceMove.transfer) := by
  have sends : PlanSends request pinnedCounts (byLoad (overloadedNodes request nodes))
      (receiverSlots request.targetWatermark (underloadedNodes request nodes))
      ((roundMoves request pinnedCounts nodes).map RebalanceMove.transfer) :=
    round_sends distinct lower
  obtain ⟨fromSource, withinPending, -⟩ := sends
  refine ⟨fun transfer member => (fromSource transfer member).1, ?_, ?_⟩
  · intro key some
    obtain ⟨transfer, member, atSource⟩ := exists_source some
    obtain ⟨amount, source, isSource, same⟩ := fromSource transfer member
    obtain rfl : source.nodeId = key := same.symm.trans atSource
    obtain ⟨inNodes, capable, _⟩ := mem_sources isSource
    -- some node has a load below the target, which is therefore positive
    have positive : 0 < request.targetWatermark := by
      have gets := lt_of_lt_of_le amount (le_received member)
      obtain ⟨node, receiver, _⟩ := exists_target_node distinct lower gets
      obtain ⟨_, receives, low⟩ := mem_underloaded receiver
      exact lt_of_le_of_lt (load_nonneg receives) low
    have target := target_nonneg capable positive
    have pending := withinPending source isSource
    rw [levelOf_mem _ distinct inNodes, countOf_mem distinct inNodes]
    rw [pendingPeers, movablePeers] at pending
    omega
  · intro key some
    obtain ⟨node, member, rfl, within⟩ := exists_target_node distinct lower some
    obtain ⟨inNodes, _, _⟩ := mem_underloaded member
    rw [levelOf_mem _ distinct inNodes, countOf_mem distinct inNodes]
    omega

theorem round_source (distinct : (nodes.map ClusterNode.nodeId).Nodup)
    (lower : request.targetWatermark < request.highWatermark) {move : RebalanceMove}
    (member : move ∈ roundMoves request pinnedCounts nodes) :
    ∃ source ∈ nodes, move.sourceNodeId = source.nodeId ∧ 0 < source.maxPeers := by
  obtain ⟨-, source, isSource, same⟩ := (round_sends distinct lower).fromSource move.transfer
    (List.mem_map_of_mem member)
  obtain ⟨inNodes, capable, _⟩ := mem_sources isSource
  exact ⟨source, inNodes, same, capable⟩

theorem round_target (distinct : (nodes.map ClusterNode.nodeId).Nodup)
    (lower : request.targetWatermark < request.highWatermark) {move : RebalanceMove}
    (member : move ∈ roundMoves request pinnedCounts nodes) :
    ∃ node ∈ nodes, move.targetNodeId = node.nodeId ∧ 0 < node.maxPeers := by
  have inTransfers := List.mem_map_of_mem (f := RebalanceMove.transfer) member
  have amount := (round_levelled distinct lower).amounts move.transfer inTransfers
  obtain ⟨node, receiver, atTarget, _⟩ :=
    exists_target_node distinct lower (lt_of_lt_of_le amount (le_received inTransfers))
  obtain ⟨inNodes, capable, _⟩ := mem_underloaded receiver
  exact ⟨node, inNodes, atTarget.symm, capable⟩

end Round

/-! ### All rounds -/

section Rounds

variable {request : RebalancePlanRequest} {pinnedCounts : String → Int} {nodes : List ClusterNode}

theorem ids_topologyAfter (round : Nat) :
    (topologyAfter request pinnedCounts nodes round).map ClusterNode.nodeId =
      nodes.map ClusterNode.nodeId := by
  induction round with
  | zero => rfl
  | succ round ih => rw [topologyAfter, ids_applyMoves, ih]

theorem levelOf_topologyAfter (round : Nat) :
    levelOf request.targetWatermark (topologyAfter request pinnedCounts nodes round) =
      levelOf request.targetWatermark nodes := by
  induction round with
  | zero => rfl
  | succ round ih => rw [topologyAfter, levelOf_applyMoves, ih]

section Distinct

variable (distinct : (nodes.map ClusterNode.nodeId).Nodup)
  (lower : request.targetWatermark < request.highWatermark)

include distinct

theorem distinct_after (round : Nat) :
    ((topologyAfter request pinnedCounts nodes round).map ClusterNode.nodeId).Nodup := by
  rw [ids_topologyAfter]
  exact distinct

include lower

theorem transfers_inside (round : Nat) : ∀ transfer ∈ (roundMoves request pinnedCounts
      (topologyAfter request pinnedCounts nodes round)).map RebalanceMove.transfer,
    transfer.source ∈ nodes.map ClusterNode.nodeId ∧
      transfer.target ∈ nodes.map ClusterNode.nodeId := by
  intro transfer member
  obtain ⟨move, planned, rfl⟩ := List.mem_map.mp member
  obtain ⟨source, isSource, atSource, _⟩ := round_source (distinct_after distinct round) lower planned
  obtain ⟨target, isTarget, atTarget, _⟩ := round_target (distinct_after distinct round) lower planned
  rw [← ids_topologyAfter round]
  exact ⟨List.mem_map.mpr ⟨source, isSource, atSource.symm⟩,
    List.mem_map.mpr ⟨target, isTarget, atTarget.symm⟩⟩

/-- The rounds of rebalancing are rounds of levelled transfers. -/
theorem rounds_of_transfers :
    Rounds (levelOf request.targetWatermark nodes)
      (fun round => countOf (topologyAfter request pinnedCounts nodes round))
      (fun round => (roundMoves request pinnedCounts
        (topologyAfter request pinnedCounts nodes round)).map RebalanceMove.transfer) := by
  constructor
  · intro round
    rw [← levelOf_topologyAfter round]
    exact round_levelled (distinct_after distinct round) lower
  · intro round key
    apply countOf_applyMoves
    · intro transfer member
      rw [ids_topologyAfter]
      exact (transfers_inside distinct lower round transfer member).1
    · intro transfer member
      rw [ids_topologyAfter]
      exact (transfers_inside distinct lower round transfer member).2

end Distinct

/-- Fewer peers are no more load. -/
theorem load_mono {node : ClusterNode} (capable : 0 < node.maxPeers) {fewer more : Nat}
    (le : fewer ≤ more) :
    ClusterNode.load { node with peerCount := fewer } ≤
      ClusterNode.load { node with peerCount := more } := by
  have capacity : (0 : Rat) < node.maxPeers := by exact_mod_cast capable
  exact div_le_div_of_nonneg_right (by exact_mod_cast le) capacity.le

theorem after_append (earlier : List RebalanceMove) (move : RebalanceMove) (node : ClusterNode) :
    node.after (earlier ++ [move]) =
      { node with peerCount := settleOne node.nodeId (node.after earlier).peerCount move.transfer } := by
  rw [ClusterNode.after, List.map_append, settled, List.foldl_append]
  rfl

/-- No move of a plan makes the load of a node reach the high watermark. -/
theorem move_below_high (distinct : (nodes.map ClusterNode.nodeId).Nodup)
    (lower : request.targetWatermark < request.highWatermark) {earlier later : List RebalanceMove}
    {move : RebalanceMove}
    (planned : roundMoves request pinnedCounts nodes = earlier ++ move :: later)
    {node : ClusterNode} (member : node ∈ nodes)
    (high : request.highWatermark ≤ (node.after (earlier ++ [move])).load) :
    request.highWatermark ≤ (node.after earlier).load := by
  have isPlanned : move ∈ roundMoves request pinnedCounts nodes := by
    rw [planned]
    exact List.mem_append_right earlier List.mem_cons_self
  by_cases isSource : move.transfer.source = node.nodeId
  · obtain ⟨source, inNodes, atSource, capable⟩ := round_source distinct lower isPlanned
    obtain rfl : source = node := by
      have found := nodeOf_mem distinct inNodes
      rw [← atSource, show move.sourceNodeId = node.nodeId from isSource,
        nodeOf_mem distinct member] at found
      exact (Option.some.inj found).symm
    refine le_trans high ?_
    rw [after_append]
    refine load_mono capable ?_
    rw [settleOne, if_pos isSource]
    exact Nat.sub_le _ _
  · by_cases isTarget : move.transfer.target = node.nodeId
    · -- the receiver is at most at its target
      exfalso
      obtain ⟨target, inNodes, atTarget, capable⟩ := round_target distinct lower isPlanned
      obtain rfl : target = node := by
        have found := nodeOf_mem distinct inNodes
        rw [← atTarget, show move.targetNodeId = node.nodeId from isTarget,
          nodeOf_mem distinct member] at found
        exact (Option.some.inj found).symm
      have levelled : Levelled (levelOf request.targetWatermark nodes) (countOf nodes)
          ((roundMoves request pinnedCounts nodes).map RebalanceMove.transfer) :=
        round_levelled distinct lower
      have whole : earlier ++ move :: later = (earlier ++ [move]) ++ later := by simp
      rw [planned, whole, List.map_append] at levelled
      have front := levelled.append_left
      have inFront : move.transfer ∈ (earlier ++ [move]).map RebalanceMove.transfer :=
        List.mem_map_of_mem (List.mem_append_right earlier List.mem_cons_self)
      have gets : 0 < received ((earlier ++ [move]).map RebalanceMove.transfer) target.nodeId :=
        lt_of_lt_of_le (front.amounts move.transfer inFront) (isTarget ▸ le_received inFront)
      have count := front.settled_add target.nodeId
      have bound := front.receivers target.nodeId gets
      rw [levelOf_mem _ distinct member] at bound
      rw [countOf_mem distinct member] at count bound
      have within : (target.after (earlier ++ [move])).peerCount ≤
          (target.target request.targetWatermark).toNat := by
        rw [ClusterNode.after]
        dsimp only
        omega
      have some : 0 < (target.target request.targetWatermark).toNat := by omega
      have capableAfter : 0 < (target.after (earlier ++ [move])).maxPeers := capable
      have reached : (target.maxPeers : Rat) * request.highWatermark ≤
          target.maxPeers * request.targetWatermark :=
        calc (target.maxPeers : Rat) * request.highWatermark
            ≤ (target.after (earlier ++ [move])).peerCount := (le_load_iff capableAfter).mp high
          _ ≤ ((target.target request.targetWatermark).toNat : Nat) := by exact_mod_cast within
          _ ≤ target.maxPeers * request.targetWatermark := target_le some
      have capacity : (0 : Rat) < target.maxPeers := by exact_mod_cast capable
      exact absurd (le_of_mul_le_mul_left reached capacity) (not_le.mpr lower)
    · have unchanged : node.after (earlier ++ [move]) = node.after earlier := by
        rw [after_append, settleOne, if_neg isSource, if_neg isTarget]
        rfl
      rw [← unchanged]
      exact high

/-- An empty plan stays empty. -/
theorem roundMoves_stay_empty {round : Nat}
    (empty : roundMoves request pinnedCounts (topologyAfter request pinnedCounts nodes round) = [])
    (later : Nat) :
    roundMoves request pinnedCounts (topologyAfter request pinnedCounts nodes (round + later)) =
      [] := by
  induction later with
  | zero => exact empty
  | succ later ih =>
      have unchanged : applyMoves [] (topologyAfter request pinnedCounts nodes (round + later)) =
          topologyAfter request pinnedCounts nodes (round + later) := by
        rw [applyMoves]
        exact List.map_id _
      rw [← Nat.add_assoc, topologyAfter, ih, unchanged, ih]

variable (request pinnedCounts nodes) in
/-- What holds over all rounds from a topology. -/
structure Settles : Prop where
  planned : ∀ round, ∃ plan,
    planRebalance request pinnedCounts (topologyAfter request pinnedCounts nodes round) = .ok plan
  oneWay : ∀ first second,
    ∀ sending ∈ roundMoves request pinnedCounts (topologyAfter request pinnedCounts nodes first),
    ∀ receiving ∈ roundMoves request pinnedCounts
      (topologyAfter request pinnedCounts nodes second),
    sending.sourceNodeId ≠ receiving.targetNodeId
  belowHigh : ∀ round earlier move later,
    roundMoves request pinnedCounts (topologyAfter request pinnedCounts nodes round) =
        earlier ++ move :: later →
      ∀ node ∈ topologyAfter request pinnedCounts nodes round,
        request.highWatermark ≤ (node.after (earlier ++ [move])).load →
          request.highWatermark ≤ (node.after earlier).load
  total : ∀ round, totalPeers (topologyAfter request pinnedCounts nodes round) = totalPeers nodes
  ends : ∃ last, ∀ round, last ≤ round →
    roundMoves request pinnedCounts (topologyAfter request pinnedCounts nodes round) = []

/-- Rebalancing does not oscillate, and comes to an end. -/
theorem rebalancing_settles (request : RebalancePlanRequest) (pinnedCounts : String → Int)
    (nodes : List ClusterNode) (distinct : (nodes.map ClusterNode.nodeId).Nodup)
    (lower : request.targetWatermark < request.highWatermark) :
    Settles request pinnedCounts nodes := by
  have rounds : Rounds (levelOf request.targetWatermark nodes)
      (fun round => countOf (topologyAfter request pinnedCounts nodes round))
      (fun round => (roundMoves request pinnedCounts
        (topologyAfter request pinnedCounts nodes round)).map RebalanceMove.transfer) :=
    rounds_of_transfers distinct lower
  have sources : ∀ round, ∀ transfer ∈ (roundMoves request pinnedCounts
      (topologyAfter request pinnedCounts nodes round)).map RebalanceMove.transfer,
      transfer.source ∈ (nodes.map ClusterNode.nodeId).toFinset :=
    fun round transfer member =>
      List.mem_toFinset.mpr (transfers_inside distinct lower round transfer member).1
  have targets : ∀ round, ∀ transfer ∈ (roundMoves request pinnedCounts
      (topologyAfter request pinnedCounts nodes round)).map RebalanceMove.transfer,
      transfer.target ∈ (nodes.map ClusterNode.nodeId).toFinset :=
    fun round transfer member =>
      List.mem_toFinset.mpr (transfers_inside distinct lower round transfer member).2
  refine ⟨?_, ?_, ?_, ?_, ?_⟩
  · intro round
    exact ⟨_, if_neg (not_le.mpr lower)⟩
  · intro first second sending sends receiving receives
    exact rounds.roles_apart (List.mem_map_of_mem sends) (List.mem_map_of_mem receives)
  · intro round earlier move later planned node member high
    exact move_below_high (distinct_after distinct round) lower planned member high
  · intro round
    rw [totalPeers_eq_sum (distinct_after distinct round), totalPeers_eq_sum distinct,
      ids_topologyAfter]
    exact rounds.sum_eq sources targets round
  · obtain ⟨last, empty⟩ := rounds.exists_empty sources
    refine ⟨last, ?_⟩
    intro round reached
    obtain ⟨later, rfl⟩ := Nat.exists_eq_add_of_le reached
    exact roundMoves_stay_empty (List.map_eq_nil_iff.mp empty) later

theorem sample_cluster_settles : Settles sampleRebalanceRequest (fun _ => 5) sampleCluster :=
  rebalancing_settles sampleRebalanceRequest (fun _ => 5) sampleCluster (by decide)
    (by decide +kernel)

end Rounds

end VpnSuite.ControlPlane
