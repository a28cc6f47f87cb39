/-
Concurrent polls of the action queue (`agent_v1_actions_poll` at READ COMMITTED).

A poll selects the oldest pending action without a lock, updates the row by its key and
commits.  The update waits while another transaction holds the row, and then writes
whatever status the row has by that time.  A poll that fails before its commit is rolled
back.

The polls are for one server.  A poll answers when its commit returns, so the order of the
answers is that of the commits.
-/

import VpnSuite.ControlPlane.AgentActions
import VpnSuite.Foundations.ExclusiveWrites

set_option autoImplicit false

namespace VpnSuite.ControlPlane

open Foundations

inductive PollPhase where
  | waiting
  | selected (actionId : String)
  | updated (actionId : String) (now : Int)
  | finished
  deriving DecidableEq, Repr

def PollPhase.actionId : PollPhase → Option String
  | .selected actionId => some actionId
  | .updated actionId _ => some actionId
  | _ => none

/-- The committed tables, the rows that open transactions have updated, the polls, and the
actions of their answers in order. -/
structure PollSystem where
  db : ActionDb
  locked : List String
  polls : Nat → PollPhase
  handedOut : List String

def PollSystem.start (db : ActionDb) : PollSystem := ⟨db, [], fun _ => .waiting, []⟩

def PollSystem.setPoll (system : PollSystem) (poll : Nat) (phase : PollPhase) : PollSystem :=
  { system with polls := Function.update system.polls poll phase }

inductive PollEvent where
  | select (poll : Nat) (first : String)
  | update (poll : Nat) (now : Int)
  | commit (poll : Nat)
  | fail (poll : Nat)
  deriving DecidableEq, Repr

/-- What a commit makes visible: the update of the row and the line of the log. -/
def startAction (actionId : String) (now : Int) (db : ActionDb) : ActionDb :=
  appendLog actionId "info" "Agent started execution"
    (setStatus actionId "running" none (some now) none db)

/-- One statement of a poll.  A statement out of turn, or one that waits for a lock, does
nothing. -/
def pollStep (serverId : String) (system : PollSystem) : PollEvent → PollSystem
  | .select poll first =>
      match system.polls poll with
      | .waiting =>
          match getPendingAction serverId first system.db.actions with
          | none => system.setPoll poll .finished
          | some actionId => system.setPoll poll (.selected actionId)
      | _ => system
  | .update poll now =>
      match system.polls poll with
      | .selected actionId =>
          if actionId ∈ system.locked then system
          else { system.setPoll poll (.updated actionId now) with
            locked := actionId :: system.locked }
      | _ => system
  | .commit poll =>
      match system.polls poll with
      | .updated actionId now =>
          { system.setPoll poll .finished with
            db := startAction actionId now system.db
            locked := system.locked.erase actionId
            handedOut := system.handedOut ++ [actionId] }
      | _ => system
  | .fail poll =>
      match system.polls poll with
      | .selected _ => system.setPoll poll .finished
      | .updated actionId _ =>
          { system.setPoll poll .finished with locked := system.locked.erase actionId }
      | _ => system

/-- Undisturbed, the statements of a poll are `agent_v1_actions_poll`. -/
theorem poll_alone (serverId first : String) (now : Int) {system : PollSystem} {poll : Nat}
    (waiting : system.polls poll = .waiting) (unlocked : system.locked = []) :
    let after := [PollEvent.select poll first, .update poll now, .commit poll].foldl
      (pollStep serverId) system
    after.db = agentV1ActionsPoll serverId first now system.db ∧
      after.handedOut = system.handedOut ++
        (getPendingAction serverId first system.db.actions).toList := by
  cases chosen : getPendingAction serverId first system.db.actions with
  | none => simp [pollStep, waiting, chosen, PollSystem.setPoll, agentV1ActionsPoll]
  | some actionId =>
      simp [pollStep, waiting, chosen, PollSystem.setPoll, agentV1ActionsPoll, unlocked,
        startAction]

/-! ### What is promised, and what each run keeps -/

/-- No action is in two answers, and the answers follow `requested_at`. -/
structure HandedOutInTurn (system : PollSystem) : Prop where
  once : system.handedOut.Nodup
  ordered : system.handedOut.Pairwise (fun earlier later => ∀ before after,
    system.db.actions.get? earlier = some before → system.db.actions.get? later = some after →
    before.requestedAt ≤ after.requestedAt)

/-- No pending action of the server was requested before this one. -/
def NoneOlder (serverId : String) (actions : Dict String AgentAction) (action : AgentAction) :
    Prop :=
  ∀ id other, actions.get? id = some other → other.serverId = serverId →
    other.status = "pending" → action.requestedAt ≤ other.requestedAt

/-- Any row a poll holds or has handed out was the oldest, and it is pending unless it has
been handed out. -/
structure PollFacts (serverId : String) (system : PollSystem) : Prop where
  chosen : ∀ poll id, (system.polls poll).actionId = some id → ∃ action,
    system.db.actions.get? id = some action ∧ action.serverId = serverId ∧
      NoneOlder serverId system.db.actions action ∧
      (action.status = "pending" ∨ id ∈ system.handedOut)
  handed : ∀ id, id ∈ system.handedOut → ∃ action,
    system.db.actions.get? id = some action ∧ action.status = "running" ∧
      NoneOlder serverId system.db.actions action

/-- The condition: the row a poll commits is still pending. -/
def commitsPending (system : PollSystem) : PollEvent → Bool
  | .commit poll =>
      match system.polls poll with
      | .updated actionId _ =>
          (system.db.actions.get? actionId).any (fun action => action.status = "pending")
      | _ => true
  | _ => true

/-! ### One step -/

section Steps

variable {serverId : String} {system : PollSystem}

theorem mem_pendingActions {id : String} {action : AgentAction}
    {actions : Dict String AgentAction} :
    (id, action) ∈ pendingActions serverId actions ↔
      actions.get? id = some action ∧ action.serverId = serverId ∧ action.status = "pending" := by
  unfold pendingActions
  rw [List.mem_filter, Dict.mem_entries_iff, decide_eq_true_eq]

theorem oldest_of_getPendingAction {first id : String} {actions : Dict String AgentAction}
    (selected : getPendingAction serverId first actions = some id) :
    ∃ action, actions.get? id = some action ∧ action.serverId = serverId ∧
      action.status = "pending" ∧ NoneOlder serverId actions action := by
  have listed : id ∈ oldestPending serverId actions := by
    unfold getPendingAction at selected
    split at selected
    · rename_i member
      exact Option.some.inj selected ▸ member
    · exact List.mem_of_head? selected
  obtain ⟨entry, oldest, rfl⟩ := List.mem_map.mp listed
  obtain ⟨member, least⟩ := List.mem_filter.mp oldest
  obtain ⟨found, own, pending⟩ := mem_pendingActions.mp member
  refine ⟨entry.2, found, own, pending, ?_⟩
  intro other row there same waiting
  have bound := List.all_eq_true.mp least (other, row) (mem_pendingActions.mpr ⟨there, same, waiting⟩)
  exact of_decide_eq_true bound

/-- A step of one poll that changes neither the tables nor the answers. -/
theorem PollFacts.setPoll (facts : PollFacts serverId system) {poll : Nat} {phase : PollPhase}
    {locked : List String}
    (known : ∀ id, phase.actionId = some id → (system.polls poll).actionId = some id ∨
      ∃ action, system.db.actions.get? id = some action ∧ action.serverId = serverId ∧
        action.status = "pending" ∧ NoneOlder serverId system.db.actions action) :
    PollFacts serverId { system.setPoll poll phase with locked := locked } := by
  refine ⟨?_, facts.handed⟩
  intro other id holds
  change ((Function.update system.polls poll phase) other).actionId = some id at holds
  by_cases own : other = poll
  · rw [own, Function.update_self] at holds
    rcases known id holds with before | ⟨action, found, same, pending, oldest⟩
    · exact facts.chosen poll id before
    · exact ⟨action, found, same, oldest, Or.inl pending⟩
  · rw [Function.update_of_ne own] at holds
    exact facts.chosen other id holds

theorem startAction_get? {id : String} {action : AgentAction} {db : ActionDb} (now : Int)
    (found : db.actions.get? id = some action) (other : String) :
    (startAction id now db).actions.get? other =
      if other = id then some (action.withStatus "running" none (some now) none)
      else db.actions.get? other := by
  simp only [startAction, appendLog, setStatus, found, Dict.get?_set]

/-- Starting an action takes it out of the pending ones and brings none in. -/
theorem NoneOlder.startAction {id : String} {action other : AgentAction} {db : ActionDb}
    {now : Int} (found : db.actions.get? id = some action)
    (oldest : NoneOlder serverId db.actions other) :
    NoneOlder serverId (startAction id now db).actions other := by
  intro key row there same pending
  rw [startAction_get? now found] at there
  split at there
  · obtain rfl := Option.some.inj there
    exact absurd (show "running" = "pending" from pending) (by decide)
  · exact oldest key row there same pending

/-- A row of the tables before a commit, as it is after. -/
theorem startAction_kept {id other : String} {action row : AgentAction} {db : ActionDb} (now : Int)
    (found : db.actions.get? id = some action) (there : db.actions.get? other = some row) :
    ∃ later, (startAction id now db).actions.get? other = some later ∧
      later.serverId = row.serverId ∧ later.requestedAt = row.requestedAt ∧
      (other = id → later.status = "running") ∧ (other ≠ id → later = row) := by
  rw [startAction_get? now found]
  by_cases same : other = id
  · subst same
    obtain rfl := Option.some.inj (found.symm.trans there)
    exact ⟨_, if_pos rfl, rfl, rfl, fun _ => rfl, fun different => absurd rfl different⟩
  · exact ⟨row, (if_neg same).trans there, rfl, rfl, fun equal => absurd equal same, fun _ => rfl⟩

theorem PollFacts.commit (facts : PollFacts serverId system) {poll : Nat} {id : String} {now : Int}
    (updated : system.polls poll = .updated id now) :
    PollFacts serverId (pollStep serverId system (.commit poll)) := by
  have held : (system.polls poll).actionId = some id := by rw [updated, PollPhase.actionId]
  obtain ⟨action, found, own, oldest, -⟩ := facts.chosen poll id held
  simp only [pollStep, updated]
  have carried : ∀ other row, system.db.actions.get? other = some row →
      NoneOlder serverId system.db.actions row → ∃ later,
      (startAction id now system.db).actions.get? other = some later ∧
        later.serverId = row.serverId ∧
        NoneOlder serverId (startAction id now system.db).actions later ∧
        (other = id → later.status = "running") ∧ (other ≠ id → later = row) := by
    intro other row there least
    obtain ⟨later, shown, server, time, started, kept⟩ := startAction_kept now found there
    refine ⟨later, shown, server, ?_, started, kept⟩
    intro key next present same pending
    rw [time]
    exact least.startAction found key next present same pending
  constructor
  · intro other wanted holds
    have before : (system.polls other).actionId = some wanted := by
      change ((Function.update system.polls poll .finished) other).actionId = some wanted at holds
      by_cases mine : other = poll
      · rw [mine, Function.update_self] at holds
        cases holds
      · rwa [Function.update_of_ne mine] at holds
    obtain ⟨row, there, server, least, standing⟩ := facts.chosen other wanted before
    obtain ⟨later, shown, same, carries, -, kept⟩ := carried wanted row there least
    refine ⟨later, shown, same.trans server, carries, ?_⟩
    by_cases here : wanted = id
    · rw [here]
      exact Or.inr (List.mem_append_right _ (List.mem_singleton_self id))
    · rw [kept here]
      exact standing.imp_right (List.mem_append_left _)
  · intro wanted listed
    rcases List.mem_append.mp listed with earlier | here
    · obtain ⟨row, there, running, least⟩ := facts.handed wanted earlier
      obtain ⟨later, shown, -, carries, started, kept⟩ := carried wanted row there least
      refine ⟨later, shown, ?_, carries⟩
      by_cases same : wanted = id
      · exact started same
      · rw [kept same]
        exact running
    · obtain rfl := List.mem_singleton.mp here
      obtain ⟨later, shown, -, carries, started, -⟩ := carried wanted action found oldest
      exact ⟨later, shown, started rfl, carries⟩

theorem PollFacts.step (facts : PollFacts serverId system) (event : PollEvent) :
    PollFacts serverId (pollStep serverId system event) := by
  cases event with
  | select poll first =>
      simp only [pollStep]
      split
      · cases selected : getPendingAction serverId first system.db.actions with
        | none =>
            apply facts.setPoll
            intro id impossible
            cases impossible
        | some actionId =>
            apply facts.setPoll
            rintro id ⟨⟩
            exact Or.inr (oldest_of_getPendingAction selected)
      · exact facts
  | update poll now =>
      simp only [pollStep]
      split
      · rename_i actionId phase
        split
        · exact facts
        · apply facts.setPoll
          rintro id ⟨⟩
          rw [phase]
          exact Or.inl rfl
      · exact facts
  | commit poll =>
      cases phase : system.polls poll with
      | updated id now => exact facts.commit phase
      | _ =>
          simp only [pollStep, phase]
          exact facts
  | fail poll =>
      simp only [pollStep]
      split
      · apply facts.setPoll
        intro id impossible
        cases impossible
      · apply facts.setPoll
        intro id impossible
        cases impossible
      · exact facts

/-- Answers and rows unchanged, or nothing but a lock or a phase. -/
theorem HandedOutInTurn.of_same {after : PollSystem} (sameDb : after.db = system.db)
    (sameAnswers : after.handedOut = system.handedOut) :
    HandedOutInTurn after ↔ HandedOutInTurn system := by
  constructor
  · rintro ⟨once, ordered⟩
    rw [sameAnswers] at once ordered
    rw [sameDb] at ordered
    exact ⟨once, ordered⟩
  · rintro ⟨once, ordered⟩
    constructor
    · rw [sameAnswers]
      exact once
    · rw [sameAnswers, sameDb]
      exact ordered

/-- A commit keeps the promise exactly when its row was pending. -/
theorem handedOut_commit_iff (facts : PollFacts serverId system)
    (inTurn : HandedOutInTurn system) {poll : Nat} {id : String} {now : Int}
    (updated : system.polls poll = .updated id now) :
    HandedOutInTurn (pollStep serverId system (.commit poll)) ↔
      commitsPending system (.commit poll) = true := by
  have held : (system.polls poll).actionId = some id := by rw [updated, PollPhase.actionId]
  obtain ⟨action, found, own, -, standing⟩ := facts.chosen poll id held
  have condition : commitsPending system (.commit poll) = true ↔ action.status = "pending" := by
    simp [commitsPending, updated, found]
  rw [condition]
  simp only [pollStep, updated]
  constructor
  · intro after
    rcases standing with pending | already
    · exact pending
    · have distinct := (List.nodup_append.mp after.once).2.2
      exact absurd rfl (distinct id already id (List.mem_singleton_self id))
  · intro pending
    have unused : id ∉ system.handedOut := by
      intro listed
      obtain ⟨row, there, running, -⟩ := facts.handed id listed
      obtain rfl := Option.some.inj (found.symm.trans there)
      exact absurd (pending.symm.trans running) (by decide)
    -- every row keeps its `requested_at`
    have times : ∀ other later, (startAction id now system.db).actions.get? other = some later →
        ∃ row, system.db.actions.get? other = some row ∧ later.requestedAt = row.requestedAt := by
      intro other later shown
      rw [startAction_get? now found] at shown
      split at shown
      · rename_i same
        obtain rfl := Option.some.inj shown
        exact ⟨action, same ▸ found, rfl⟩
      · exact ⟨later, shown, rfl⟩
    constructor
    · apply List.nodup_append.mpr
      refine ⟨inTurn.once, List.nodup_singleton id, ?_⟩
      intro left listed right here same
      obtain rfl := List.mem_singleton.mp here
      exact unused (same ▸ listed)
    · apply List.pairwise_append.mpr
      refine ⟨?_, List.pairwise_singleton _ id, ?_⟩
      · apply inTurn.ordered.imp
        intro left right inOrder before after atLeft atRight
        obtain ⟨leftRow, leftFound, leftTime⟩ := times left before atLeft
        obtain ⟨rightRow, rightFound, rightTime⟩ := times right after atRight
        rw [leftTime, rightTime]
        exact inOrder leftRow rightRow leftFound rightFound
      · intro left listed right here before after atLeft atRight
        obtain rfl := List.mem_singleton.mp here
        obtain ⟨leftRow, leftFound, leftTime⟩ := times left before atLeft
        obtain ⟨rightRow, rightFound, rightTime⟩ := times right after atRight
        obtain ⟨row, there, -, oldest⟩ := facts.handed left listed
        obtain rfl := Option.some.inj (there.symm.trans leftFound)
        obtain rfl := Option.some.inj (found.symm.trans rightFound)
        rw [leftTime, rightTime]
        exact oldest right action found own pending

theorem handedOut_step_iff (event : PollEvent) (facts : PollFacts serverId system)
    (inTurn : HandedOutInTurn system) :
    HandedOutInTurn (pollStep serverId system event) ↔ commitsPending system event = true := by
  have unchanged (sameDb : (pollStep serverId system event).db = system.db)
      (sameAnswers : (pollStep serverId system event).handedOut = system.handedOut)
      (free : commitsPending system event = true) :
      HandedOutInTurn (pollStep serverId system event) ↔ commitsPending system event = true :=
    iff_of_true ((HandedOutInTurn.of_same sameDb sameAnswers).mpr inTurn) free
  cases event with
  | select poll first =>
      apply unchanged ?_ ?_ rfl
      all_goals
        simp only [pollStep]
        split
        · cases getPendingAction serverId first system.db.actions <;> rfl
        · rfl
  | update poll now =>
      apply unchanged ?_ ?_ rfl
      all_goals
        simp only [pollStep]
        split
        · split <;> rfl
        · rfl
  | fail poll =>
      apply unchanged ?_ ?_ rfl
      all_goals
        simp only [pollStep]
        split <;> rfl
  | commit poll =>
      cases phase : system.polls poll with
      | updated id now => exact handedOut_commit_iff facts inTurn phase
      | _ =>
          apply unchanged
          all_goals simp only [pollStep, commitsPending, phase]

end Steps

theorem pollFacts_start (serverId : String) (db : ActionDb) :
    PollFacts serverId (PollSystem.start db) := by
  constructor
  · intro poll id impossible
    cases impossible
  · intro id impossible
    cases impossible

theorem handedOutInTurn_start (db : ActionDb) : HandedOutInTurn (PollSystem.start db) :=
  ⟨List.nodup_nil, List.Pairwise.nil⟩

/-! ### Every run -/

/-- From any tables, the answers stay in turn exactly as long as every poll that commits finds
its row still pending. -/
theorem polls_in_turn_iff (serverId : String) (db : ActionDb) (events : List PollEvent) :
    EveryState (pollStep serverId) (PollSystem.start db) events HandedOutInTurn ↔
      EveryStep (pollStep serverId) (PollSystem.start db) events
        (fun system event => commitsPending system event = true) := by
  have steady : ∀ system event, PollFacts serverId system →
      PollFacts serverId (pollStep serverId system event) :=
    fun _ event facts => facts.step event
  exact everyState_iff_everyStep steady
    (fun _ event facts inTurn => handedOut_step_iff event facts inTurn)
    (pollFacts_start serverId db) (handedOutInTurn_start db)

/-- Two actions of one server. -/
def twoPending : ActionDb :=
  createAction "b" "node-1" "restart" 2 (createAction "a" "node-1" "sync" 1 ActionDb.empty)

/-- The second poll selects before the first commits: both answer with the older action, the
second one after the younger has been handed out. -/
theorem overlapping_polls_share_action :
    ([PollEvent.select 0 "", .select 1 "", .update 0 5, .commit 0, .select 2 "", .update 2 6,
        .commit 2, .update 1 7, .commit 1].foldl (pollStep "node-1")
          (PollSystem.start twoPending)).handedOut = ["a", "b", "a"] ∧
      ¬ EveryState (pollStep "node-1") (PollSystem.start twoPending)
        [PollEvent.select 0 "", .select 1 "", .update 0 5, .commit 0, .update 1 7, .commit 1]
        HandedOutInTurn := by
  refine ⟨by decide +kernel, ?_⟩
  intro every
  have last := every _ [] (List.append_nil _).symm
  exact absurd last.once (by decide +kernel)

/-! ### Polls that take turns -/

/-- A poll selects no action that another unfinished poll has selected. -/
def SelectsFree (serverId : String) (system : PollSystem) : PollEvent → Prop
  | .select _ first => ∀ other id, getPendingAction serverId first system.db.actions = some id →
      (system.polls other).actionId ≠ some id
  | _ => True

def sameAction (left right : PollPhase) : Prop :=
  ∃ id, left.actionId = some id ∧ right.actionId = some id

structure TakingTurns (system : PollSystem) : Prop where
  apart : Apart sameAction system.polls
  pending : ∀ poll id, (system.polls poll).actionId = some id → ∃ action,
    system.db.actions.get? id = some action ∧ action.status = "pending"

theorem sameAction_symm {left right : PollPhase} (same : sameAction left right) :
    sameAction right left := by
  obtain ⟨id, atLeft, atRight⟩ := same
  exact ⟨id, atRight, atLeft⟩

section Turns

variable {serverId : String} {system : PollSystem}

theorem TakingTurns.setPoll (turns : TakingTurns system) {poll : Nat} {phase : PollPhase}
    {locked : List String}
    (known : ∀ id, phase.actionId = some id → (system.polls poll).actionId = some id ∨
      (∀ other, (system.polls other).actionId ≠ some id) ∧
        ∃ action, system.db.actions.get? id = some action ∧ action.status = "pending") :
    TakingTurns { system.setPoll poll phase with locked := locked } := by
  constructor
  · apply turns.apart.update sameAction_symm
    rintro other different ⟨id, mine, theirs⟩
    rcases known id mine with before | ⟨free, -⟩
    · exact turns.apart different.symm ⟨id, before, theirs⟩
    · exact free other theirs
  · intro other id holds
    change ((Function.update system.polls poll phase) other).actionId = some id at holds
    by_cases own : other = poll
    · rw [own, Function.update_self] at holds
      rcases known id holds with before | ⟨-, present⟩
      · exact turns.pending poll id before
      · exact present
    · rw [Function.update_of_ne own] at holds
      exact turns.pending other id holds

theorem TakingTurns.commit (turns : TakingTurns system) {poll : Nat} {id : String} {now : Int}
    (updated : system.polls poll = .updated id now) :
    TakingTurns (pollStep serverId system (.commit poll)) := by
  have held : (system.polls poll).actionId = some id := by rw [updated, PollPhase.actionId]
  obtain ⟨action, found, -⟩ := turns.pending poll id held
  have finished : TakingTurns (system.setPoll poll .finished) := by
    apply turns.setPoll
    intro other impossible
    cases impossible
  simp only [pollStep, updated]
  refine ⟨finished.apart, ?_⟩
  intro other wanted holds
  obtain ⟨row, there, pending⟩ := finished.pending other wanted holds
  refine ⟨row, ?_, pending⟩
  -- the others hold other rows, which the commit leaves as they are
  have different : wanted ≠ id := by
    rintro rfl
    change ((Function.update system.polls poll .finished) other).actionId = some wanted at holds
    by_cases own : other = poll
    · rw [own, Function.update_self] at holds
      cases holds
    · rw [Function.update_of_ne own] at holds
      exact turns.apart own ⟨wanted, holds, held⟩
  exact (startAction_get? now found wanted).trans ((if_neg different).trans there)

theorem TakingTurns.step (event : PollEvent) (turns : TakingTurns system)
    (free : SelectsFree serverId system event) : TakingTurns (pollStep serverId system event) := by
  cases event with
  | select poll first =>
      simp only [pollStep]
      split
      · cases selected : getPendingAction serverId first system.db.actions with
        | none =>
            apply turns.setPoll
            intro id impossible
            cases impossible
        | some actionId =>
            obtain ⟨action, found, -, pending, -⟩ := oldest_of_getPendingAction selected
            apply turns.setPoll
            rintro id ⟨⟩
            exact Or.inr ⟨fun other => free other actionId selected, action, found, pending⟩
      · exact turns
  | update poll now =>
      simp only [pollStep]
      split
      · rename_i actionId phase
        split
        · exact turns
        · apply turns.setPoll
          rintro id ⟨⟩
          rw [phase]
          exact Or.inl rfl
      · exact turns
  | commit poll =>
      cases phase : system.polls poll with
      | updated id now => exact turns.commit phase
      | _ =>
          simp only [pollStep, phase]
          exact turns
  | fail poll =>
      simp only [pollStep]
      split
      · apply turns.setPoll
        intro id impossible
        cases impossible
      · apply turns.setPoll
        intro id impossible
        cases impossible
      · exact turns

theorem TakingTurns.commitsPending (turns : TakingTurns system) (event : PollEvent) :
    commitsPending system event = true := by
  cases event with
  | commit poll =>
      cases phase : system.polls poll with
      | updated id now =>
          obtain ⟨action, found, pending⟩ := turns.pending poll id (by rw [phase, PollPhase.actionId])
          simp [ControlPlane.commitsPending, phase, found, pending]
      | _ => simp [ControlPlane.commitsPending, phase]
  | _ => rfl

end Turns

/-- Polls that select no action another unfinished poll has selected commit pending rows only. -/
theorem commitsPending_of_selectsFree (serverId : String) (db : ActionDb) (events : List PollEvent)
    (free : EveryStep (pollStep serverId) (PollSystem.start db) events (SelectsFree serverId)) :
    EveryStep (pollStep serverId) (PollSystem.start db) events
      (fun system event => commitsPending system event = true) := by
  have turns : EveryState (pollStep serverId) (PollSystem.start db) events TakingTurns := by
    have kept : ∀ system event, TakingTurns system → SelectsFree serverId system event →
        TakingTurns (pollStep serverId system event) :=
      fun _ event held allowed => held.step event allowed
    refine free.keeps kept ?_
    constructor
    · rintro left right _ ⟨id, impossible, -⟩
      cases impossible
    · intro poll id impossible
      cases impossible
  intro earlier event later split
  exact (turns earlier (event :: later) split).commitsPending event

end VpnSuite.ControlPlane
