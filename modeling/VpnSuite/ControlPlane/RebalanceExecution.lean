/-
Executing a rebalance plan (`execute_rebalance_plan` in `services/control_plane_service.py`).

The moves are taken in turn: the devices of the source without an enterprise plan, the cold ones
first, are migrated one by one, and what a failure leaves behind is migrated back where that is
asked for.  `migrate_peer` returns at once when the device has the server already; otherwise it
sets the server or raises and leaves it.  The outcomes of its calls are an input, in the order of
the calls.  What the calls did is kept as a log.

The session flushes nothing before it is committed (`autoflush=False`): every `select` of the plan
finds the servers that were stored before it, while `migrate_peer` sets those of the loaded
devices.  The rows do not change otherwise while the plan is executed.
-/

import VpnSuite.Foundations.OrderedDict
import VpnSuite.Foundations.PythonText
import VpnSuite.Foundations.RelocationLogs
import Mathlib.Data.List.Lex
import Mathlib.Data.List.Sort

set_option autoImplicit false

namespace VpnSuite.ControlPlane

open Foundations
open Foundations.PythonText (contains orDefault strip)
open Foundations.Relocations

/-! ### Devices and moves -/

/-- A row of the join of devices, subscriptions and plans, without the server of the device. -/
structure MigrationRow where
  deviceId : String
  publicKey : String
  isRevoked : Bool
  subscriptionStatus : String
  planName : String
  issuedAt : Int
  deriving DecidableEq, Repr

/-- A device has one subscription, and that one plan. -/
structure DevicePopulation where
  rows : List MigrationRow
  distinct : (rows.map MigrationRow.deviceId).Nodup

/-- One dictionary of `list_peers`, with the keys the sorting looks up. -/
structure RuntimePeer where
  publicKey : Option String
  lastHandshake : Option Int
  transferRx : Option Int
  transferTx : Option Int
  deriving DecidableEq, Repr

/-- `RebalanceMoveOut`, whose number of peers may be any integer. -/
structure RequestedMove where
  sourceNodeId : String
  targetNodeId : String
  peersToMove : Int
  deriving DecidableEq, Repr

structure RebalanceExecution where
  sourceNodeId : String
  targetNodeId : String
  requested : Int
  attempted : Nat
  succeeded : Nat
  failed : Nat
  rolledBack : Nat
  rollbackFailed : Nat
  skippedEnterprise : Nat
  status : String
  deriving DecidableEq, Repr

structure ExecutionSettings where
  /-- `str.lower`. -/
  lower : String → String
  enterprisePlanKeywords : String
  qosIdleHandshakeSeconds : Int
  qosHotTrafficBytes : Int

structure ExecutionOptions where
  batchSize : Int
  maxExecutionsPerCycle : Int
  stopOnError : Bool
  rollbackOnError : Bool
  deriving DecidableEq, Repr

/-! ### Candidates -/

section Candidates

variable (settings : ExecutionSettings)

/-- `_enterprise_plan_keywords`. -/
def enterprisePlanKeywords : List String :=
  ((settings.enterprisePlanKeywords.toList.splitOn ',').filter (fun item =>
    strip (String.ofList item) ≠ "")).map (fun item => settings.lower (strip (String.ofList item)))

/-- `_is_enterprise_plan_name`; without keywords no name is one. -/
def isEnterprisePlanName (planName : String) : Bool :=
  planName ≠ "" && (enterprisePlanKeywords settings).any (fun keyword =>
    contains keyword (settings.lower planName))

/-- `_qos_migration_key`: hot peers last, then the traffic, the longer idle ones first, and the
instant of issue. -/
def qosMigrationKey (stats : Option RuntimePeer) (now : Int) (device : MigrationRow) : List Int :=
  let lastHandshake := (stats.bind RuntimePeer.lastHandshake).getD 0
  let trafficTotal := (stats.bind RuntimePeer.transferRx).getD 0 +
    (stats.bind RuntimePeer.transferTx).getD 0
  let handshakeAge :=
    if 0 < lastHandshake then max (now - lastHandshake) 0
    else settings.qosIdleHandshakeSeconds * 100
  let isHotPeer := handshakeAge ≤ settings.qosIdleHandshakeSeconds ∧
    settings.qosHotTrafficBytes ≤ trafficTotal
  [if isHotPeer then 1 else 0, trafficTotal, -handshakeAge, device.issuedAt]

/-- `peer_stats_by_pub`; a listing that raises is an empty one. -/
def peerStatsByPub (listing : Option (List RuntimePeer)) : Dict String RuntimePeer :=
  Dict.ofList ((listing.getD []).map (fun peer => (orDefault peer.publicKey "", peer)))

variable (population : DevicePopulation) (stored : String → String) (sourceNodeId : String)

/-- The rows of the `select`. -/
def activeRows : List MigrationRow :=
  (population.rows.filter (fun row => stored row.deviceId = sourceNodeId ∧ ¬ row.isRevoked ∧
    row.subscriptionStatus = "active")).insertionSort (fun left right => left.issuedAt ≤ right.issuedAt)

def skippedEnterprise : Nat :=
  (activeRows population stored sourceNodeId).countP (fun row =>
    isEnterprisePlanName settings row.planName)

def candidateDevices (listing : Option (List RuntimePeer)) (now : Int) : List MigrationRow :=
  let key := fun row : MigrationRow =>
    qosMigrationKey settings ((peerStatsByPub listing).get? row.publicKey) now row
  ((activeRows population stored sourceNodeId).filter (fun row =>
    ¬ isEnterprisePlanName settings row.planName)).insertionSort
      (fun left right => key left ≤ key right)

end Candidates

/-! ### One move -/

/-- The variables of the loop over the devices of a move. -/
structure MoveProgress where
  attempted : Nat
  succeeded : Nat
  failed : Nat
  rolledBack : Nat
  rollbackFailed : Nat
  migratedDevices : List String
  status : String
  remainingBudget : Int
  stopReason : Option String
  log : List (Relocation String String)
  deriving DecidableEq, Repr

section Move

variable (options : ExecutionOptions) (assigned : String → String) (outcomes : Nat → Bool)
  (move : RequestedMove)

/-- One call of `migrate_peer`, after those of the log. -/
def migratePeerCall (log : List (Relocation String String)) (deviceId targetNodeId : String)
    (isForward : Bool) : Relocation String String :=
  ⟨deviceId, targetNodeId, isForward,
    placeAfter assigned log deviceId = targetNodeId || outcomes log.length⟩

def rollbackDevice (progress : MoveProgress) (deviceId : String) : MoveProgress :=
  let call := migratePeerCall assigned outcomes progress.log deviceId move.sourceNodeId false
  let logged := { progress with log := progress.log ++ [call] }
  if call.succeeded then
    { logged with
      rolledBack := logged.rolledBack + 1
      succeeded := if 0 < logged.succeeded then logged.succeeded - 1 else logged.succeeded }
  else { logged with rollbackFailed := logged.rollbackFailed + 1 }

/-- The roll-back of a failure, the device migrated last first. -/
def rollbackMove (progress : MoveProgress) : MoveProgress :=
  if options.rollbackOnError ∧ progress.migratedDevices ≠ [] then
    let after := progress.migratedDevices.reverse.foldl (rollbackDevice assigned outcomes move) progress
    { after with
      migratedDevices := []
      status := if after.rollbackFailed = 0 then "rolled_back" else "rollback_failed" }
  else progress

/-- The loop over the devices; a failure ends it where that is asked for. -/
def migrateDevices : List String → MoveProgress → MoveProgress
  | [], progress => progress
  | deviceId :: rest, progress =>
      let call := migratePeerCall assigned outcomes progress.log deviceId move.targetNodeId true
      let logged := { progress with
        attempted := progress.attempted + 1
        log := progress.log ++ [call] }
      if call.succeeded then
        migrateDevices rest { logged with
          succeeded := logged.succeeded + 1
          migratedDevices := logged.migratedDevices ++ [deviceId]
          remainingBudget := logged.remainingBudget - 1 }
      else
        let failed := rollbackMove options assigned outcomes move { logged with
          failed := logged.failed + 1
          status := "failed" }
        if options.stopOnError then
          { failed with
            status := "stopped_on_error"
            stopReason := some "stopped_on_error" }
        else migrateDevices rest failed

def requestedPeers : Int := max move.peersToMove 0

/-- The number of devices a move takes, `limit`. -/
def moveLimit (remainingBudget : Int) : Int :=
  min (min (requestedPeers move) options.batchSize) remainingBudget

def executionStatus (progress : MoveProgress) : String :=
  if progress.attempted = 0 then "no_candidates"
  else if progress.failed = 0 ∧ progress.attempted < requestedPeers move then
    if progress.remainingBudget ≤ 0 then "partial_budget" else "partial"
  else progress.status

def executionOf (skipped : Nat) (progress : MoveProgress) : RebalanceExecution :=
  { sourceNodeId := move.sourceNodeId
    targetNodeId := move.targetNodeId
    requested := requestedPeers move
    attempted := progress.attempted
    succeeded := progress.succeeded
    failed := progress.failed
    rolledBack := progress.rolledBack
    rollbackFailed := progress.rollbackFailed
    skippedEnterprise := skipped
    status := executionStatus move progress }

end Move

/-! ### The plan -/

/-- A move that was executed: its result, the servers of the loaded devices before it, and its
calls. -/
structure ExecutedMove where
  move : RequestedMove
  result : RebalanceExecution
  before : String → String
  log : List (Relocation String String)

def ExecutedMove.after (executed : ExecutedMove) : String → String :=
  placeAfter executed.before executed.log

/-- The variables of the loop over the moves, with the servers of the loaded devices and the number
of calls of `migrate_peer`. -/
structure PlanProgress where
  remainingBudget : Int
  stopReason : Option String
  hadError : Bool
  assigned : String → String
  calls : Nat
  executed : List ExecutedMove

section Plan

variable (settings : ExecutionSettings) (options : ExecutionOptions) (now : Int)
  (listPeers : Nat → Option (List RuntimePeer)) (outcomes : Nat → Bool)
  (population : DevicePopulation) (stored : String → String)

/-- The body of the loop, for a move that takes some devices. -/
def executeMove (progress : PlanProgress) (move : RequestedMove) : PlanProgress :=
  let devices := (candidateDevices settings population stored move.sourceNodeId
    (listPeers progress.executed.length) now).take
      (moveLimit options move progress.remainingBudget).toNat
  let moved := migrateDevices options progress.assigned
    (fun call => outcomes (progress.calls + call)) move (devices.map MigrationRow.deviceId)
    ⟨0, 0, 0, 0, 0, [], "completed", progress.remainingBudget, progress.stopReason, []⟩
  let result := executionOf move
    (skippedEnterprise settings population stored move.sourceNodeId) moved
  { remainingBudget := moved.remainingBudget
    stopReason := moved.stopReason
    hadError := progress.hadError || decide (0 < moved.failed)
    assigned := placeAfter progress.assigned moved.log
    calls := progress.calls + moved.log.length
    executed := progress.executed ++ [⟨move, result, progress.assigned, moved.log⟩] }

/-- Whether the loop ends after the last move. -/
def stopsAfter (progress : PlanProgress) : Bool :=
  options.stopOnError && progress.executed.getLast?.any (fun last => 0 < last.result.failed)

/-- The loop over the moves. -/
def executeMoves : List RequestedMove → PlanProgress → PlanProgress
  | [], progress => progress
  | move :: rest, progress =>
      if progress.remainingBudget ≤ 0 then
        { progress with stopReason := some "execution_budget_reached" }
      else if moveLimit options move progress.remainingBudget ≤ 0 then executeMoves rest progress
      else
        let next := executeMove settings options now listPeers outcomes population stored progress
          move
        if stopsAfter options next then next else executeMoves rest next

def planStopReason (progress : PlanProgress) : Option String :=
  if progress.stopReason = none ∧ progress.hadError ∧ options.stopOnError then
    some "stopped_on_error"
  else if progress.stopReason = none ∧ progress.remainingBudget ≤ 0 then
    some "execution_budget_reached"
  else progress.stopReason

def executedMoves (moves : List RequestedMove) : PlanProgress :=
  executeMoves settings options now listPeers outcomes population stored moves
    ⟨max 0 options.maxExecutionsPerCycle, none, false, stored, 0, []⟩

/-- `execute_rebalance_plan`. -/
def executeRebalancePlan (moves : List RequestedMove) : List RebalanceExecution × Option String :=
  let progress := executedMoves settings options now listPeers outcomes population stored moves
  (progress.executed.map ExecutedMove.result, planStopReason options progress)

end Plan

end VpnSuite.ControlPlane
