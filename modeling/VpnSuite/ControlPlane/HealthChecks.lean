/-
The health checks of the servers (`services/server_health_service.py`,
`services/health_scoring.py`, `core/health_check_task.py`).

A round checks every server in turn.  What is answered of a server is logged, and decides its
score, its status and whether it is active; what raises is swallowed, and leaves no trace.  A
check that fails switches the server off when the last logs, itself included, all fail.

Scores are rationals.  The adapter's answer is an input; `agentHealthCheck` is the one of the
agent's adapter.
-/

import VpnSuite.ControlPlane.ServerProvisioning
import VpnSuite.Foundations.FailureWindows
import VpnSuite.Foundations.KeyedPass
import Mathlib.Algebra.Order.Ring.Rat

set_option autoImplicit false

namespace VpnSuite.ControlPlane

open Foundations
open Foundations.FailureWindows
open Foundations.PythonText (orDefault)

/-- What the adapter answers of a server. -/
structure HealthAnswer where
  status : Option String
  latencyMs : Option Rat
  handshakeOk : Option Bool

structure ServerHealthLog where
  serverId : String
  status : String
  latencyMs : Option Rat
  handshakeOk : Option Bool
  ts : Int

structure HealthDb where
  servers : Dict String RegisteredServer
  logs : List ServerHealthLog

/-! ### Scores -/

inductive NodeHealthState where
  | healthy
  | degraded
  | unhealthy
  | unknown
  deriving DecidableEq

def NodeHealthState.value : NodeHealthState → String
  | healthy => "healthy"
  | degraded => "degraded"
  | unhealthy => "unhealthy"
  | unknown => "unknown"

/-- The factor of the last check, or of the status when there was none. -/
def reachability (server : RegisteredServer) : Option ServerHealthLog → Rat
  | some healthLog =>
      if healthLog.status = "unreachable" then 0
      else if healthLog.status = "degraded" then 1 / 2
      else if healthLog.status ≠ "ok" then 3 / 10
      else 1
  | none =>
      if server.status = "unreachable" then 0
      else if server.status = "degraded" ∨ server.status = "unknown" then 1 / 2
      else 1

def calculateHealthScore (server : RegisteredServer) (healthLog : Option ServerHealthLog)
    (peerCount activePeerCount : Int) (maxPeers : Option Int) : Rat :=
  let maxPeers := numberOr maxPeers (numberOr server.maxConnections 1000)
  let connectivity : Rat :=
    if 0 < peerCount then 1 / 2 + 1 / 2 * (activePeerCount / peerCount) else 1
  let capacity : Rat :=
    if maxPeers ≠ 0 ∧ (maxPeers : Rat) * (95 / 100) ≤ peerCount then 7 / 10 else 1
  max 0 (min 1 (reachability server healthLog * connectivity * capacity))

def healthScoreToState (score : Rat) : NodeHealthState :=
  if 9 / 10 ≤ score then .healthy
  else if 1 / 2 ≤ score then .degraded
  else if 0 < score then .unhealthy
  else .unknown

/-! ### A check -/

def answeredStatuses : List String := ["ok", "degraded"]

def isFailing (status : String) : Bool := decide (status ∉ answeredStatuses)

def HealthAnswer.text (answer : HealthAnswer) : String := orDefault answer.status "unknown"

def logEntry (serverId : String) (now : Int) (answer : HealthAnswer) : ServerHealthLog :=
  ⟨serverId, answer.text, answer.latencyMs, answer.handshakeOk, now⟩

/-- The last logs of a server, the latest first. -/
def recentLogs (limit : Nat) (serverId : String) (logs : List ServerHealthLog) :
    List ServerHealthLog :=
  ((logs.filter (fun entry => entry.serverId = serverId)).mergeSort
    (fun first second => second.ts ≤ first.ts)).take limit

def checkedActive (limit : Nat) (serverId : String) (active : Bool) (status : String)
    (logs : List ServerHealthLog) : Bool :=
  if isFailing status then
    let recent := recentLogs limit serverId logs
    if limit ≤ recent.length ∧ recent.all (fun entry => isFailing entry.status) then false
    else active
  else true

def checkedServer (limit : Nat) (serverId : String) (now : Int) (answer : HealthAnswer)
    (server : RegisteredServer) (logs : List ServerHealthLog) : RegisteredServer :=
  let entry := logEntry serverId now answer
  let healthScore := calculateHealthScore server (some entry) 0 0 none
  { server with
    healthScore := some healthScore
    status := (healthScoreToState healthScore).value
    isActive := checkedActive limit serverId server.isActive entry.status (logs ++ [entry]) }

def runHealthCheck (limit : Nat) (serverId : String) (now : Int) (answer : HealthAnswer)
    (server : RegisteredServer) (db : HealthDb) : HealthDb :=
  ⟨db.servers.set serverId (checkedServer limit serverId now answer server db.logs),
    db.logs ++ [logEntry serverId now answer]⟩

/-! ### A round -/

/-- When each server is checked and what is answered; nothing stands for an exception. -/
structure HealthRound where
  instant : String → Int
  answer : String → Option HealthAnswer

def checkServer (limit : Nat) (round : HealthRound) (db : HealthDb) (serverId : String) :
    HealthDb :=
  match db.servers.get? serverId, round.answer serverId with
  | some server, some answer =>
      runHealthCheck limit serverId (round.instant serverId) answer server db
  | _, _ => db

/-- `_run_once`, with an adapter. -/
def runOnce (limit : Nat) (db : HealthDb) (round : HealthRound) : HealthDb :=
  db.servers.keys.foldl (checkServer limit round) db

/-- `health_check` of the agent's adapter. -/
def agentHealthCheck (heartbeats : Heartbeats) (serverId : String) : HealthAnswer :=
  match heartbeats serverId with
  | none => ⟨some "unreachable", none, some false⟩
  | some _ => ⟨some "ok", none, some true⟩

/-! ### What a round does to a server -/

/-- The row and the logs of a server. -/
def HealthDb.of (db : HealthDb) (serverId : String) :
    Option RegisteredServer × List ServerHealthLog :=
  (db.servers.get? serverId, db.logs.filter (fun entry => entry.serverId = serverId))

def checkedOf (limit : Nat) (round : HealthRound) (serverId : String)
    (held : Option RegisteredServer × List ServerHealthLog) :
    Option RegisteredServer × List ServerHealthLog :=
  match held.1, round.answer serverId with
  | some server, some answer =>
      (some (checkedServer limit serverId (round.instant serverId) answer server held.2),
        held.2 ++ [logEntry serverId (round.instant serverId) answer])
  | _, _ => held

section Rounds

variable {limit : Nat} {round : HealthRound}

theorem recentLogs_filter (serverId : String) (logs : List ServerHealthLog) :
    recentLogs limit serverId (logs.filter (fun entry => entry.serverId = serverId)) =
      recentLogs limit serverId logs := by
  unfold recentLogs
  rw [List.filter_filter]
  simp only [Bool.and_self]

theorem logEntry_kept (serverId : String) (now : Int) (answer : HealthAnswer) :
    [logEntry serverId now answer].filter (fun entry => entry.serverId = serverId) =
      [logEntry serverId now answer] := by
  simp [logEntry]

theorem checkedServer_filter (serverId : String) (now : Int) (answer : HealthAnswer)
    (server : RegisteredServer) (logs : List ServerHealthLog) :
    checkedServer limit serverId now answer server
        (logs.filter (fun entry => entry.serverId = serverId)) =
      checkedServer limit serverId now answer server logs := by
  have recent : recentLogs limit serverId
        (logs.filter (fun entry => entry.serverId = serverId) ++ [logEntry serverId now answer]) =
      recentLogs limit serverId (logs ++ [logEntry serverId now answer]) := by
    rw [← recentLogs_filter serverId (logs ++ [logEntry serverId now answer]), List.filter_append,
      logEntry_kept]
  unfold checkedServer checkedActive
  dsimp only
  rw [recent]

theorem checkServer_keyed :
    KeyedStep HealthDb.of id (checkedOf limit round) (checkServer limit round) where
  own := by
    intro db serverId
    unfold checkServer checkedOf HealthDb.of
    dsimp only [id]
    cases stored : db.servers.get? serverId with
    | none => rw [stored]
    | some server =>
        cases answered : round.answer serverId with
        | none => rw [stored]
        | some answer =>
            unfold runHealthCheck
            dsimp only
            rw [Dict.get?_set, if_pos rfl, List.filter_append, logEntry_kept,
              checkedServer_filter]
  frame := by
    intro db serverId other apart
    unfold checkServer HealthDb.of
    cases db.servers.get? serverId with
    | none => rfl
    | some server =>
        cases round.answer serverId with
        | none => rfl
        | some answer =>
            unfold runHealthCheck
            dsimp only
            have foreign : ¬ (logEntry serverId (round.instant serverId) answer).serverId = other :=
              fun same => apart same.symm
            have aside : other ≠ serverId := apart
            rw [Dict.get?_set, if_neg aside, List.filter_append,
              List.filter_cons_of_neg (by simpa using foreign), List.filter_nil, List.append_nil]

theorem runOnce_of (db : HealthDb) (serverId : String) :
    (runOnce limit db round).of serverId = checkedOf limit round serverId (db.of serverId) := by
  unfold runOnce
  by_cases listed : serverId ∈ db.servers.keys
  · have distinct : (db.servers.keys.map id).Nodup := by
      rw [List.map_id]
      exact db.servers.keys_nodup
    exact checkServer_keyed.foldl_own db.servers.keys distinct db listed
  · rw [checkServer_keyed.foldl_frame db.servers.keys db serverId (by rwa [List.map_id])]
    unfold checkedOf HealthDb.of
    rw [(db.servers.get?_eq_none_iff serverId).mpr listed]

end Rounds

/-! ### Rounds at instants that grow -/

/-- The statuses of a server's logs, in the order of writing. -/
def loggedStatuses (serverId : String) (db : HealthDb) : List String :=
  (db.of serverId).2.map ServerHealthLog.status

/-- The statuses that the rounds come to for a server; a check that raises has none. -/
def checkedStatuses (serverId : String) (rounds : List HealthRound) : List String :=
  rounds.filterMap (fun round => (round.answer serverId).map HealthAnswer.text)

/-- The instants of a server's logs and checks. -/
def checkInstants (serverId : String) (db : HealthDb) (rounds : List HealthRound) : List Int :=
  (db.of serverId).2.map ServerHealthLog.ts ++ rounds.map (fun round => round.instant serverId)

section Runs

variable {limit : Nat} {serverId : String}

theorem recentLogs_reverse {logs : List ServerHealthLog}
    (own : logs.filter (fun entry => entry.serverId = serverId) = logs)
    (growing : logs.Pairwise (fun first second => first.ts < second.ts)) :
    recentLogs limit serverId logs = logs.reverse.take limit := by
  unfold recentLogs
  rw [own]
  have sorted : (logs.mergeSort (fun first second => decide (second.ts ≤ first.ts))).Pairwise
      (fun first second => decide (second.ts ≤ first.ts) = true) := by
    apply List.pairwise_mergeSort
    · intro first second third left right
      simp only [decide_eq_true_eq] at left right ⊢
      omega
    · intro first second
      simp only [Bool.or_eq_true, decide_eq_true_eq]
      omega
  have backwards : logs.reverse.Pairwise
      (fun first second => decide (second.ts ≤ first.ts) = true) := by
    rw [List.pairwise_reverse]
    refine growing.imp ?_
    intro first second before
    exact decide_eq_true (Int.le_of_lt before)
  have same : logs.mergeSort (fun first second => decide (second.ts ≤ first.ts)) =
      logs.reverse := by
    refine List.Perm.eq_of_pairwise ?_ sorted backwards
      ((List.mergeSort_perm logs _).trans (List.reverse_perm logs).symm)
    intro first second inSorted inReverse left right
    rw [List.mem_mergeSort] at inSorted
    rw [List.mem_reverse] at inReverse
    simp only [decide_eq_true_eq] at left right
    have equal : first.ts = second.ts := by omega
    by_contra apart
    rcases (List.pairwise_iff_getElem.mp growing) with steps
    rcases List.mem_iff_getElem.mp inSorted with ⟨i, iBound, atFirst⟩
    rcases List.mem_iff_getElem.mp inReverse with ⟨j, jBound, atSecond⟩
    rcases Nat.lt_trichotomy i j with before | here | after
    · have less := steps i j iBound jBound before
      rw [atFirst, atSecond] at less
      omega
    · subst here
      exact apart (atFirst.symm.trans atSecond)
    · have less := steps j i jBound iBound after
      rw [atFirst, atSecond] at less
      omega
  rw [same]

theorem checkedActive_judged (active : Bool) {logs : List ServerHealthLog}
    {entry : ServerHealthLog}
    (own : (logs ++ [entry]).filter (fun other => other.serverId = serverId) = logs ++ [entry])
    (growing : (logs ++ [entry]).Pairwise (fun first second => first.ts < second.ts)) :
    checkedActive limit serverId active entry.status (logs ++ [entry]) =
      judged isFailing limit (logs.map ServerHealthLog.status) active entry.status := by
  have enough : limit ≤ failuresInARow isFailing
        (logs.map ServerHealthLog.status ++ [entry.status]) ↔
      limit ≤ (recentLogs limit serverId (logs ++ [entry])).length ∧
        (recentLogs limit serverId (logs ++ [entry])).all
          (fun other => isFailing other.status) = true := by
    have statuses : logs.map ServerHealthLog.status ++ [entry.status] =
        (logs ++ [entry]).map ServerHealthLog.status := by
      rw [List.map_append]
      rfl
    rw [statuses, le_failuresInARow_iff, ← List.map_reverse, ← List.map_take, List.length_map,
      recentLogs_reverse own growing, List.all_eq_true]
    simp only [List.forall_mem_map]
  unfold checkedActive judged
  dsimp only
  rw [if_congr enough rfl rfl]

/-- Whether a server is active, and the statuses of its logs. -/
def healthFlag (serverId : String) (db : HealthDb) : Bool × List String :=
  (isActiveIn db.servers serverId, loggedStatuses serverId db)

theorem of_own (db : HealthDb) :
    (db.of serverId).2.filter (fun entry => entry.serverId = serverId) = (db.of serverId).2 := by
  unfold HealthDb.of
  rw [List.filter_filter]
  simp only [Bool.and_self]

theorem runOnce_raised {db : HealthDb} {round : HealthRound}
    (raised : round.answer serverId = none) :
    (runOnce limit db round).of serverId = db.of serverId := by
  rw [runOnce_of]
  unfold checkedOf
  rw [raised]
  cases (db.of serverId).1 with
  | none => rfl
  | some server => rfl

theorem runOnce_answered {db : HealthDb} {round : HealthRound} {server : RegisteredServer}
    {answer : HealthAnswer} (stored : (db.of serverId).1 = some server)
    (answered : round.answer serverId = some answer) :
    (runOnce limit db round).of serverId =
      (some (checkedServer limit serverId (round.instant serverId) answer server
          (db.of serverId).2),
        (db.of serverId).2 ++ [logEntry serverId (round.instant serverId) answer]) := by
  rw [runOnce_of]
  unfold checkedOf
  rw [stored, answered]

theorem checkedStatuses_cons (round : HealthRound) (rest : List HealthRound) :
    checkedStatuses serverId (round :: rest) =
      ((round.answer serverId).map HealthAnswer.text).toList ++ checkedStatuses serverId rest := by
  unfold checkedStatuses
  cases answered : round.answer serverId with
  | none =>
      rw [List.filterMap_cons_none (by rw [answered]; rfl)]
      rfl
  | some answer =>
      rw [@List.filterMap_cons_some _ _ _ _ _ answer.text (by rw [answered]; rfl)]
      rfl

/-- A round is a step of the flag for a server that is there, and it stays there; the instants
keep growing. -/
theorem runOnce_flag {db : HealthDb} {round : HealthRound} {rest : List HealthRound}
    (stored : (db.servers.get? serverId).isSome = true)
    (growing : (checkInstants serverId db (round :: rest)).Pairwise (· < ·)) :
    healthFlag serverId (runOnce limit db round) =
        ((round.answer serverId).map HealthAnswer.text).toList.foldl (step isFailing limit)
          (healthFlag serverId db) ∧
      ((runOnce limit db round).servers.get? serverId).isSome = true ∧
      (checkInstants serverId (runOnce limit db round) rest).Pairwise (· < ·) := by
  cases answered : round.answer serverId with
  | none =>
      have same := @runOnce_raised limit serverId db round answered
      have row : (runOnce limit db round).servers.get? serverId = db.servers.get? serverId :=
        congrArg Prod.fst same
      refine ⟨?_, by rw [row]; exact stored, ?_⟩
      · unfold healthFlag loggedStatuses isActiveIn
        rw [same, row]
        rfl
      · unfold checkInstants at growing ⊢
        rw [same]
        refine growing.sublist ?_
        rw [List.map_cons]
        exact (List.Sublist.refl _).append (List.sublist_cons_self _ _)
  | some answer =>
      rcases Option.isSome_iff_exists.mp stored with ⟨server, found⟩
      have after := @runOnce_answered limit serverId db round server answer found answered
      have row : (runOnce limit db round).servers.get? serverId =
          some (checkedServer limit serverId (round.instant serverId) answer server
            (db.of serverId).2) := congrArg Prod.fst after
      have instants : checkInstants serverId (runOnce limit db round) rest =
          checkInstants serverId db (round :: rest) := by
        unfold checkInstants
        rw [after, List.map_append, List.map_cons, List.append_assoc]
        rfl
      refine ⟨?_, by rw [row]; rfl, by rw [instants]; exact growing⟩
      have own : ((db.of serverId).2 ++ [logEntry serverId (round.instant serverId) answer]).filter
            (fun other => other.serverId = serverId) =
          (db.of serverId).2 ++ [logEntry serverId (round.instant serverId) answer] := by
        rw [List.filter_append, of_own, logEntry_kept]
      have times : ((db.of serverId).2 ++
          [logEntry serverId (round.instant serverId) answer]).Pairwise
            (fun first second => first.ts < second.ts) := by
        rw [← instants] at growing
        unfold checkInstants at growing
        rw [after, List.pairwise_append, List.pairwise_map] at growing
        exact growing.1
      have active : isActiveIn db.servers serverId = server.isActive := by
        unfold isActiveIn
        rw [found]
        rfl
      unfold healthFlag
      rw [active, Option.map_some, Option.toList_some, List.foldl_cons, List.foldl_nil, step_eq]
      apply Prod.ext
      · unfold isActiveIn
        rw [row]
        exact checkedActive_judged server.isActive own times
      · unfold loggedStatuses
        rw [after, List.map_append]
        rfl

theorem rounds_flag {db : HealthDb} {rounds : List HealthRound}
    (stored : (db.servers.get? serverId).isSome = true)
    (growing : (checkInstants serverId db rounds).Pairwise (· < ·)) :
    healthFlag serverId (rounds.foldl (runOnce limit) db) =
      (checkedStatuses serverId rounds).foldl (step isFailing limit) (healthFlag serverId db) := by
  induction rounds generalizing db with
  | nil => rfl
  | cons round rest ih =>
      rcases @runOnce_flag limit serverId db round rest stored growing with ⟨flag, there, later⟩
      rw [List.foldl_cons, ih there later, flag, checkedStatuses_cons, List.foldl_append]

/-- A server is switched off exactly when it was off and no check answered well, or when it was
checked and its last logs fail, those from before the rounds counted in. -/
theorem inactive_after_rounds_iff {db : HealthDb} (rounds : List HealthRound) (limit : Nat)
    (stored : (db.servers.get? serverId).isSome = true)
    (growing : (checkInstants serverId db rounds).Pairwise (· < ·)) :
    isActiveIn (rounds.foldl (runOnce limit) db).servers serverId = false ↔
      (isActiveIn db.servers serverId = false ∧
          ∀ status ∈ checkedStatuses serverId rounds, isFailing status = true) ∨
        (checkedStatuses serverId rounds ≠ [] ∧
          max 1 limit ≤ failuresInARow isFailing
            (loggedStatuses serverId db ++ checkedStatuses serverId rounds)) := by
  have flag := congrArg Prod.fst (@rounds_flag limit serverId db rounds stored growing)
  have active : isActiveIn (rounds.foldl (runOnce limit) db).servers serverId =
      ((checkedStatuses serverId rounds).foldl (step isFailing limit)
        (healthFlag serverId db)).1 := flag
  rw [active]
  exact fallen_iff limit (isActiveIn db.servers serverId) (loggedStatuses serverId db)
    (checkedStatuses serverId rounds)

end Runs

/-! ### A server that is switched on again -/

/-- A server that failed twice and is on, because it was switched on by hand. -/
def reactivatedDb : HealthDb :=
  ⟨sampleAgentServers,
    [⟨"node-1", "unreachable", none, some false, 0⟩,
      ⟨"node-1", "unreachable", none, some false, 60⟩]⟩

def unreachableRound : HealthRound :=
  ⟨fun _ => 120, fun _ => some ⟨some "unreachable", none, some false⟩⟩

/-- One more failure is enough. -/
theorem reactivated_server_goes_off :
    isActiveIn ([unreachableRound].foldl (runOnce 3) reactivatedDb).servers "node-1" = false := by
  rw [inactive_after_rounds_iff [unreachableRound] 3 (by decide) (by decide)]
  decide

end VpnSuite.ControlPlane
