/-
The loop that syncs the servers (`core/server_sync_loop.py`).

A pass selects servers, keeps those whose last snapshot is old enough, and tries each of them
that is not held back.  A failure holds a server back for a delay that doubles up to a cap; a
success frees it.

A pass brings the rows in the order in which the database returns them, the instants at which
each task starts and ends, and which syncs succeed.  The state also remembers the attempts.
Instants are in microseconds; the tasks of a pass touch different servers, and stand in the order
of the rows.
-/

import VpnSuite.ControlPlane.ServerSync
import VpnSuite.Foundations.ExponentialBackoff
import VpnSuite.Foundations.KeyedPass
import VpnSuite.Foundations.StepRuns

set_option autoImplicit false

namespace VpnSuite.ControlPlane

open Foundations
open Foundations.ExponentialBackoff

structure SyncLoopSettings where
  intervalSeconds : Int
  minIntervalSeconds : Int
  backoffMaxSeconds : Int
  skipDraining : Bool

structure ScheduledServer extends SyncedServer where
  autoSyncIntervalSec : Option Int

structure SyncPass where
  now : Int
  rows : Dict String ScheduledServer
  startedAt : String → Int
  endedAt : String → Int
  succeeds : String → Bool

structure SyncLoopState where
  backoff : Dict String (Int × Nat)
  attempts : List (String × Attempt)

def microseconds (seconds : Int) : Int := seconds * 1000000

section Loop

variable (settings : SyncLoopSettings)

def minInterval : Int := max 15 settings.minIntervalSeconds

/-- A minute, doubled up to `BACKOFF_MAX`. -/
def backoffRule : Rule :=
  ⟨microseconds 60, microseconds (max 60 settings.backoffMaxSeconds)⟩

/-! ### The servers of a pass -/

def isSelected (server : ScheduledServer) : Bool :=
  server.isActive && !(settings.skipDraining && server.isDraining)

def effectiveInterval (server : ScheduledServer) : Int :=
  max (numberOr server.autoSyncIntervalSec settings.intervalSeconds) (minInterval settings)

def isDueForSync (now : Int) (server : ScheduledServer) : Bool :=
  microseconds (effectiveInterval settings server) ≤ now - server.lastSnapshotAt.getD 0

/-- `_server_ids_due_for_sync` of the selected servers, of which there are 200 at most. -/
def serverIdsDueForSync (pass : SyncPass) : List String :=
  (((pass.rows.entries.filter (fun entry => isSelected settings entry.2)).take 200).filter
    (fun entry => isDueForSync settings pass.now entry.2)).map Prod.fst

/-! ### The backoff -/

def shouldSkip (state : SyncLoopState) (serverId : String) (now : Int) : Bool :=
  (state.backoff.get? serverId).any (fun entry => now < entry.1)

def recordFailure (now : Int) (serverId : String) (backoff : Dict String (Int × Nat)) :
    Dict String (Int × Nat) :=
  let failCount := ((backoff.get? serverId).map Prod.snd).getD 0 + 1
  backoff.set serverId (now + (backoffRule settings).delay failCount, failCount)

def recordSuccess (serverId : String) (backoff : Dict String (Int × Nat)) :
    Dict String (Int × Nat) := backoff.erase serverId

def SyncPass.attempt (pass : SyncPass) (serverId : String) : Attempt :=
  ⟨pass.startedAt serverId, pass.endedAt serverId, !pass.succeeds serverId⟩

def runOneSync (pass : SyncPass) (state : SyncLoopState) (serverId : String) : SyncLoopState :=
  if shouldSkip state serverId (pass.startedAt serverId) then state
  else
    ⟨if pass.succeeds serverId then recordSuccess serverId state.backoff
      else recordFailure settings (pass.endedAt serverId) serverId state.backoff,
      state.attempts ++ [(serverId, pass.attempt serverId)]⟩

def syncPass (state : SyncLoopState) (pass : SyncPass) : SyncLoopState :=
  (serverIdsDueForSync settings pass).foldl (runOneSync settings pass) state

def loopStart : SyncLoopState := ⟨Dict.empty, []⟩

/-! ### The attempts at a server -/

def attemptsOf (serverId : String) (attempts : List (String × Attempt)) : List Attempt :=
  (attempts.filter (fun entry => entry.1 = serverId)).map Prod.snd

def SyncLoopState.of (state : SyncLoopState) (serverId : String) :
    Option (Int × Nat) × List Attempt :=
  (state.backoff.get? serverId, attemptsOf serverId state.attempts)

/-- What a pass does to a server that is due. -/
def triedOf (pass : SyncPass) (serverId : String) (held : Option (Int × Nat) × List Attempt) :
    Option (Int × Nat) × List Attempt :=
  if held.1.any (fun entry => pass.startedAt serverId < entry.1) then held
  else
    (if pass.succeeds serverId then none
      else some (pass.endedAt serverId +
          (backoffRule settings).delay ((held.1.map Prod.snd).getD 0 + 1),
        (held.1.map Prod.snd).getD 0 + 1),
      held.2 ++ [pass.attempt serverId])

variable {settings}

theorem attemptsOf_concat (serverId other : String) (attempt : Attempt)
    (attempts : List (String × Attempt)) :
    attemptsOf serverId (attempts ++ [(other, attempt)]) =
      attemptsOf serverId attempts ++ (if other = serverId then [attempt] else []) := by
  unfold attemptsOf
  rw [List.filter_append, List.map_append]
  by_cases same : other = serverId
  · rw [if_pos same, List.filter_cons_of_pos (by simpa using same)]
    rfl
  · rw [if_neg same, List.filter_cons_of_neg (by simpa using same)]
    rfl

theorem runOneSync_keyed (pass : SyncPass) :
    KeyedStep SyncLoopState.of id (triedOf settings pass) (runOneSync settings pass) where
  own := by
    intro state serverId
    unfold runOneSync triedOf shouldSkip SyncLoopState.of
    dsimp only [id]
    by_cases held : ((state.backoff.get? serverId).any
        (fun entry => pass.startedAt serverId < entry.1)) = true
    · rw [if_pos held, if_pos held]
    · rw [if_neg held, if_neg held]
      dsimp only
      rw [attemptsOf_concat, if_pos rfl]
      by_cases succeeds : pass.succeeds serverId = true
      · rw [if_pos succeeds, if_pos succeeds, recordSuccess, Dict.get?_erase, if_pos rfl]
      · rw [if_neg succeeds, if_neg succeeds, recordFailure, Dict.get?_set, if_pos rfl]
  frame := by
    intro state serverId other apart
    have aside : other ≠ serverId := apart
    unfold runOneSync SyncLoopState.of
    by_cases held : shouldSkip state serverId (pass.startedAt serverId) = true
    · rw [if_pos held]
    · rw [if_neg held]
      dsimp only
      have foreign : ¬ serverId = other := fun same => aside same.symm
      rw [attemptsOf_concat, if_neg foreign, List.append_nil]
      by_cases succeeds : pass.succeeds serverId = true
      · rw [if_pos succeeds, recordSuccess, Dict.get?_erase, if_neg aside]
      · rw [if_neg succeeds, recordFailure, Dict.get?_set, if_neg aside]

theorem syncPass_of (state : SyncLoopState) (pass : SyncPass) (serverId : String) :
    (syncPass settings state pass).of serverId =
      if serverId ∈ serverIdsDueForSync settings pass then
        triedOf settings pass serverId (state.of serverId)
      else state.of serverId := by
  have distinct : ((serverIdsDueForSync settings pass).map id).Nodup := by
    rw [List.map_id]
    have rows := pass.rows.distinct
    unfold serverIdsDueForSync
    exact rows.sublist ((List.filter_sublist.trans ((List.take_sublist _ _).trans
      List.filter_sublist)).map Prod.fst)
  unfold syncPass
  by_cases due : serverId ∈ serverIdsDueForSync settings pass
  · rw [if_pos due]
    exact (runOneSync_keyed pass).foldl_own _ distinct state due
  · rw [if_neg due]
    exact (runOneSync_keyed pass).foldl_frame _ state serverId (by rwa [List.map_id])

/-! ### Runs of passes -/

/-- Whether a server may be tried, by the attempts made so far. -/
def mayTry (settings : SyncLoopSettings) (history : List Attempt) (now : Int) : Bool :=
  (retryOf (backoffRule settings) history).all (fun retry => retry.1 ≤ now)

/-- A pass at a server whose entry is the one of its history. -/
theorem triedOf_history (pass : SyncPass) (serverId : String) (history : List Attempt) :
    triedOf settings pass serverId (retryOf (backoffRule settings) history, history) =
      if mayTry settings history (pass.startedAt serverId) then
        (retryOf (backoffRule settings) (history ++ [pass.attempt serverId]),
          history ++ [pass.attempt serverId])
      else (retryOf (backoffRule settings) history, history) := by
  have opposite : (retryOf (backoffRule settings) history).any
        (fun entry => pass.startedAt serverId < entry.1) =
      !mayTry settings history (pass.startedAt serverId) := by
    unfold mayTry
    cases retryOf (backoffRule settings) history with
    | none => rfl
    | some retry =>
        rw [Option.any_some, Option.all_some]
        by_cases early : pass.startedAt serverId < retry.1
        · simp [early]
        · simp [early, Int.not_lt.mp early]
  unfold triedOf
  dsimp only
  rw [opposite, retryOf_count]
  cases mayTry settings history (pass.startedAt serverId) with
  | false => rfl
  | true =>
      rw [Bool.not_true, if_neg (by decide), if_pos rfl]
      cases succeeds : pass.succeeds serverId with
      | false =>
          have failed : (pass.attempt serverId).failed = true := by
            unfold SyncPass.attempt
            rw [succeeds]
            rfl
          rw [retryOf_concat_failed failed, if_neg (by decide)]
          rfl
      | true =>
          have passed : (pass.attempt serverId).failed = false := by
            unfold SyncPass.attempt
            rw [succeeds]
            rfl
          rw [retryOf_concat_passed passed, if_pos rfl]

/-- A pass tries a server that is due and not held back by the attempts before. -/
theorem syncPass_history {state : SyncLoopState} {pass : SyncPass} {serverId : String}
    {history : List Attempt}
    (held : state.of serverId = (retryOf (backoffRule settings) history, history)) :
    (syncPass settings state pass).of serverId =
      if serverId ∈ serverIdsDueForSync settings pass ∧
          mayTry settings history (pass.startedAt serverId) = true then
        (retryOf (backoffRule settings) (history ++ [pass.attempt serverId]),
          history ++ [pass.attempt serverId])
      else (retryOf (backoffRule settings) history, history) := by
  rw [syncPass_of, held, triedOf_history]
  by_cases due : serverId ∈ serverIdsDueForSync settings pass
  · rw [if_pos due]
    by_cases free : mayTry settings history (pass.startedAt serverId) = true
    · rw [if_pos free, if_pos ⟨due, free⟩]
    · rw [if_neg free, if_neg (fun both => free both.2)]
  · rw [if_neg due, if_neg (fun both => due both.1)]

/-- What the loop holds of a server is what its attempts say. -/
theorem loop_history (passes : List SyncPass) (serverId : String) :
    ∃ history, (passes.foldl (syncPass settings) loopStart).of serverId =
        (retryOf (backoffRule settings) history, history) ∧
      Spaced (backoffRule settings) history ∧
      ∀ attempt ∈ history, ∃ pass ∈ passes, attempt = pass.attempt serverId := by
  induction passes using List.reverseRecOn with
  | nil => exact ⟨[], rfl, spaced_nil, by simp⟩
  | append_singleton earlier pass ih =>
      rcases ih with ⟨history, held, spaced, made⟩
      have before : ∀ attempt ∈ history,
          ∃ other ∈ earlier ++ [pass], attempt = other.attempt serverId := by
        intro attempt member
        rcases made attempt member with ⟨other, inside, same⟩
        exact ⟨other, List.mem_append_left _ inside, same⟩
      rw [List.foldl_append, List.foldl_cons, List.foldl_nil, syncPass_history held]
      by_cases tries : serverId ∈ serverIdsDueForSync settings pass ∧
          mayTry settings history (pass.startedAt serverId) = true
      · rw [if_pos tries]
        refine ⟨history ++ [pass.attempt serverId], rfl, ?_, ?_⟩
        · apply spaced.concat
          intro retry noted
          have free := tries.2
          unfold mayTry at free
          rw [noted, Option.all_some, decide_eq_true_eq] at free
          exact free
        · intro attempt member
          rcases List.mem_append.mp member with old | new
          · exact before attempt old
          · exact ⟨pass, List.mem_append_right _ (List.mem_singleton.mpr rfl),
              List.mem_singleton.mp new⟩
      · rw [if_neg tries]
        exact ⟨history, rfl, spaced, before⟩

/-- Whether a pass tries a server depends on its rows and on the attempts made at that server,
and on nothing that happened to others. -/
theorem attempts_follow_history (settings : SyncLoopSettings) (passes : List SyncPass)
    (pass : SyncPass) (serverId : String) :
    attemptsOf serverId ((passes ++ [pass]).foldl (syncPass settings) loopStart).attempts =
      attemptsOf serverId (passes.foldl (syncPass settings) loopStart).attempts ++
        (if serverId ∈ serverIdsDueForSync settings pass ∧
            mayTry settings
              (attemptsOf serverId (passes.foldl (syncPass settings) loopStart).attempts)
              (pass.startedAt serverId) = true then
          [pass.attempt serverId]
        else []) := by
  rcases @loop_history settings passes serverId with ⟨history, held, _, _⟩
  have made : attemptsOf serverId (passes.foldl (syncPass settings) loopStart).attempts =
      history := congrArg Prod.snd held
  rw [List.foldl_append, List.foldl_cons, List.foldl_nil, made]
  have after := congrArg Prod.snd (@syncPass_history settings _ pass serverId history held)
  have attempts : attemptsOf serverId (syncPass settings
      (passes.foldl (syncPass settings) loopStart) pass).attempts = _ := after
  rw [attempts]
  by_cases tries : serverId ∈ serverIdsDueForSync settings pass ∧
      mayTry settings history (pass.startedAt serverId) = true
  · rw [if_pos tries, if_pos tries]
  · rw [if_neg tries, if_neg tries, List.append_nil]

/-- Attempts at a server that fail one after the other are spread over the delays between
them. -/
theorem failing_attempts_are_spread (settings : SyncLoopSettings) {passes : List SyncPass}
    {serverId : String} {before rest : List Attempt} {first : Attempt}
    (forward : ∀ pass ∈ passes, pass.startedAt serverId ≤ pass.endedAt serverId)
    (attempted : attemptsOf serverId (passes.foldl (syncPass settings) loopStart).attempts =
      before ++ first :: rest)
    (failing : ∀ attempt ∈ first :: rest, attempt.failed = true) :
    first.endedAt + waits (backoffRule settings) rest.length ≤
      ((first :: rest).getLast (List.cons_ne_nil first rest)).endedAt := by
  rcases @loop_history settings passes serverId with ⟨history, held, spaced, made⟩
  have same : history = before ++ first :: rest := by
    have kept : attemptsOf serverId (passes.foldl (syncPass settings) loopStart).attempts =
        history := congrArg Prod.snd held
    rw [← kept, attempted]
  subst same
  apply waits_le_elapsed _ spaced failing
  · intro attempt member
    have listed : attempt ∈ before ++ first :: rest :=
      List.mem_append_right before (List.mem_cons_of_mem first member)
    rcases made attempt listed with ⟨pass, inside, given⟩
    rw [given]
    exact forward pass inside
  · exact (by decide : (0 : Int) ≤ microseconds 60)

end Loop

/-! ### A server that keeps failing -/

def sampleSyncSettings : SyncLoopSettings := ⟨60, 15, 900, true⟩

/-- A pass a minute; every sync takes a second and fails. -/
def failingPass (minute : Int) : SyncPass :=
  ⟨microseconds (60 * minute), Dict.ofList [("node-1", ⟨staleServer, none⟩)],
    fun _ => microseconds (60 * minute), fun _ => microseconds (60 * minute + 1), fun _ => false⟩

/-- Of four passes the first and the third try. -/
theorem failing_server_is_held_back :
    (⟨microseconds 60, microseconds 61, true⟩ : Attempt).endedAt +
        waits (backoffRule sampleSyncSettings) 1 ≤ microseconds 181 :=
  @failing_attempts_are_spread sampleSyncSettings
    [failingPass 1, failingPass 2, failingPass 3, failingPass 4] "node-1" []
    [⟨microseconds 180, microseconds 181, true⟩] ⟨microseconds 60, microseconds 61, true⟩
    (by decide) rfl (by decide)

end VpnSuite.ControlPlane
