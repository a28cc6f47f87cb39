/-
The queue of agent actions (`services/agent_action_service.py`; `actions/poll` and
`actions/report` in `api/v1/agent.py`).

An action is created pending, handed out by a poll and closed by a report.  Both requests
write through `set_status`, which takes any status for any action.  A report therefore
follows the life cycle exactly when it finds its action running and says how it ended.

Requests are authenticated.  Payloads, the audit log and metrics are left out.  The log of
an unknown action violates a foreign key, so such a report changes nothing.
-/

import VpnSuite.Foundations.OrderedDict
import VpnSuite.Foundations.StepRuns

set_option autoImplicit false

namespace VpnSuite.ControlPlane

open Foundations

structure AgentAction where
  serverId : String
  type : String
  status : String
  requestedAt : Int
  startedAt : Option Int
  finishedAt : Option Int
  error : Option String
  deriving DecidableEq, Repr

structure AgentActionLog where
  actionId : String
  level : String
  message : String
  deriving DecidableEq, Repr

/-- The actions, their log and `last_snapshot_at` of the servers. -/
structure ActionDb where
  actions : Dict String AgentAction
  logs : List AgentActionLog
  snapshots : Dict String (Option Int)
  deriving DecidableEq

def ActionDb.empty : ActionDb := ⟨Dict.empty, [], Dict.empty⟩

/-! ### The service -/

def createAction (id serverId type : String) (now : Int) (db : ActionDb) : ActionDb :=
  if id ∈ db.actions.keys then db
  else { db with
    actions := db.actions.set id ⟨serverId, type, "pending", now, none, none, none⟩ }

def appendLog (actionId level message : String) (db : ActionDb) : ActionDb :=
  { db with logs := db.logs ++ [⟨actionId, level, message⟩] }

/-- The columns a call of `set_status` sets; a time or an error that is not given stays. -/
def AgentAction.withStatus (action : AgentAction) (status : String) (error : Option String)
    (startedAt finishedAt : Option Int) : AgentAction :=
  { action with
    status := status
    error := error <|> action.error
    startedAt := startedAt <|> action.startedAt
    finishedAt := finishedAt <|> action.finishedAt }

def setStatus (actionId status : String) (error : Option String)
    (startedAt finishedAt : Option Int) (db : ActionDb) : ActionDb :=
  match db.actions.get? actionId with
  | none => db
  | some action =>
      { db with
        actions := db.actions.set actionId (action.withStatus status error startedAt finishedAt) }

def pendingActions (serverId : String) (actions : Dict String AgentAction) :
    List (String × AgentAction) :=
  actions.entries.filter (fun entry =>
    entry.2.serverId = serverId ∧ entry.2.status = "pending")

/-- The pending actions no other one is older than. -/
def oldestPending (serverId : String) (actions : Dict String AgentAction) : List String :=
  ((pendingActions serverId actions).filter (fun entry =>
    (pendingActions serverId actions).all (fun other =>
      entry.2.requestedAt ≤ other.2.requestedAt))).map Prod.fst

/-- `order_by(requested_at.asc()).limit(1)`: among equally old ones the database may return
any, `first` if it is among them. -/
def getPendingAction (serverId first : String) (actions : Dict String AgentAction) :
    Option String :=
  if first ∈ oldestPending serverId actions then some first
  else (oldestPending serverId actions).head?

/-! ### The endpoints -/

def agentV1ActionsPoll (serverId first : String) (now : Int) (db : ActionDb) : ActionDb :=
  match getPendingAction serverId first db.actions with
  | none => db
  | some actionId =>
      appendLog actionId "info" "Agent started execution"
        (setStatus actionId "running" none (some now) none db)

structure ActionReport where
  actionId : String
  status : String
  message : String
  deriving DecidableEq, Repr

/-- The columns take the report: `status` is a `String(32)`, and no text holds a NUL. -/
def ActionReport.storable (report : ActionReport) : Bool :=
  report.status.length ≤ 32 && Char.ofNat 0 ∉ report.status.toList &&
    Char.ofNat 0 ∉ report.message.toList

def ActionReport.error (report : ActionReport) : Option String :=
  if report.status = "failed" then some report.message else none

/-- The row a report leaves behind. -/
def ActionReport.row (report : ActionReport) (now : Int) (action : AgentAction) : AgentAction :=
  action.withStatus report.status report.error none (some now)

/-- A finished synchronisation refreshes the snapshot time of its server. -/
def takeSnapshot (action : AgentAction) (status : String) (now : Int)
    (snapshots : Dict String (Option Int)) : Dict String (Option Int) :=
  if action.type = "sync" ∧ status = "completed" ∧ action.serverId ∈ snapshots.keys then
    snapshots.set action.serverId (some now)
  else snapshots

def agentV1ActionsReport (report : ActionReport) (now : Int) (db : ActionDb) : ActionDb :=
  match db.actions.get? report.actionId with
  | none => db
  | some action =>
      if report.storable then
        let logged := appendLog report.actionId
          (if report.status = "failed" then "error" else "info")
          (if report.message = "" then report.status else report.message) db
        { (setStatus report.actionId report.status report.error none (some now) logged) with
          snapshots := takeSnapshot action report.status now db.snapshots }
      else db

inductive ActionRequest where
  | create (id serverId type : String) (now : Int)
  | poll (serverId first : String) (now : Int)
  | report (report : ActionReport) (now : Int)
  deriving DecidableEq, Repr

def actionStep (db : ActionDb) : ActionRequest → ActionDb
  | .create id serverId type now => createAction id serverId type now db
  | .poll serverId first now => agentV1ActionsPoll serverId first now db
  | .report report now => agentV1ActionsReport report now db

/-! ### The life cycle -/

def finalStatus (status : String) : Bool := status = "completed" || status = "failed"

/-- How a status may change: pending, running, then completed or failed. -/
def statusMoves (before after : String) : Bool :=
  after = before || (before = "pending" && after = "running") ||
    (before = "running" && finalStatus after)

/-- Every action is in one of the four states, and has an end exactly in a final one. -/
def WellKept (db : ActionDb) : Prop :=
  ∀ id action, db.actions.get? id = some action →
    (action.status = "pending" ∨ action.status = "running" ∨ finalStatus action.status = true) ∧
      (action.finishedAt.isSome = true ↔ finalStatus action.status = true)

/-- What the life cycle says of one request. -/
structure FollowsLifeCycle (before : ActionDb) (request : ActionRequest) : Prop where
  moves : ∀ id action, before.actions.get? id = some action →
    ∃ later, (actionStep before request).actions.get? id = some later ∧
      statusMoves action.status later.status = true
  final : ∀ id action later, before.actions.get? id = some action →
    finalStatus action.status = true →
    (actionStep before request).actions.get? id = some later →
    later.status = action.status ∧ later.error = action.error ∧
      later.finishedAt = action.finishedAt
  reported : ∀ report now, request = .report report now → ∀ id action,
    before.actions.get? id = some action →
    (actionStep before request).actions.get? id ≠ some action → action.status = "running"
  starts : ∀ id later, before.actions.get? id = none →
    (actionStep before request).actions.get? id = some later → later.status = "pending"

/-- The condition on a request: a report that reaches an action finds it running and says
how it ended, or repeats what the row holds. -/
def reportInTurn (db : ActionDb) : ActionRequest → Bool
  | .report report now =>
      match db.actions.get? report.actionId with
      | none => true
      | some action =>
          !report.storable || report.row now action = action ||
            (action.status = "running" && finalStatus report.status)
  | _ => true

/-! ### What one request does to the rows -/

section Steps

variable {db : ActionDb} {request : ActionRequest}

theorem pending_of_getPendingAction {serverId first id : String}
    {actions : Dict String AgentAction}
    (handed : getPendingAction serverId first actions = some id) :
    ∃ action, actions.get? id = some action ∧ action.status = "pending" := by
  have listed : id ∈ oldestPending serverId actions := by
    unfold getPendingAction at handed
    split at handed
    · rename_i member
      exact Option.some.inj handed ▸ member
    · exact List.mem_of_head? handed
  obtain ⟨entry, oldest, rfl⟩ := List.mem_map.mp listed
  obtain ⟨member, pending⟩ := List.mem_filter.mp (List.mem_of_mem_filter oldest)
  exact ⟨entry.2, (actions.mem_entries_iff entry.1 entry.2).mp member,
    (of_decide_eq_true pending).2⟩

theorem statusMoves_refl (status : String) : statusMoves status status = true := by
  simp [statusMoves]

theorem follows_of_same (same : (actionStep db request).actions = db.actions) :
    FollowsLifeCycle db request := by
  refine ⟨?_, ?_, ?_, ?_⟩
  · intro id action found
    exact ⟨action, same ▸ found, statusMoves_refl action.status⟩
  · intro id action later found _ after
    rw [same, found] at after
    obtain rfl := Option.some.inj after
    exact ⟨rfl, rfl, rfl⟩
  · intro report now _ id action found changed
    rw [same] at changed
    exact absurd found changed
  · intro id later absent after
    rw [same, absent] at after
    cases after

/-- A request that writes one existing row. -/
theorem follows_of_set {id : String} {action later : AgentAction}
    (found : db.actions.get? id = some action)
    (written : (actionStep db request).actions = db.actions.set id later)
    (moves : statusMoves action.status later.status = true)
    (final : finalStatus action.status = true → later.status = action.status ∧
      later.error = action.error ∧ later.finishedAt = action.finishedAt)
    (reported : ∀ report now, request = .report report now → later ≠ action →
      action.status = "running") : FollowsLifeCycle db request := by
  have after : ∀ other, (actionStep db request).actions.get? other =
      if other = id then some later else db.actions.get? other := by
    intro other
    rw [written, Dict.get?_set]
  refine ⟨?_, ?_, ?_, ?_⟩
  · intro other stored there
    rw [after]
    by_cases here : other = id
    · subst here
      obtain rfl := Option.some.inj (found.symm.trans there)
      exact ⟨later, if_pos rfl, moves⟩
    · exact ⟨stored, (if_neg here).trans there, statusMoves_refl stored.status⟩
  · intro other stored new there ended shown
    rw [after] at shown
    by_cases here : other = id
    · subst here
      obtain rfl := Option.some.inj (found.symm.trans there)
      rw [if_pos rfl] at shown
      obtain rfl := Option.some.inj shown
      exact final ended
    · rw [if_neg here, there] at shown
      obtain rfl := Option.some.inj shown
      exact ⟨rfl, rfl, rfl⟩
  · intro report now same other stored there changed
    rw [after] at changed
    by_cases here : other = id
    · subst here
      obtain rfl := Option.some.inj (found.symm.trans there)
      rw [if_pos rfl] at changed
      exact reported report now same (fun equal => changed (congrArg some equal))
    · rw [if_neg here] at changed
      exact absurd there changed
  · intro other new absent shown
    rw [after] at shown
    by_cases here : other = id
    · rw [here, found] at absent
      cases absent
    · rw [if_neg here, absent] at shown
      cases shown

theorem follows_of_created {id : String} {row : AgentAction}
    (absent : db.actions.get? id = none)
    (written : (actionStep db request).actions = db.actions.set id row)
    (pending : row.status = "pending") : FollowsLifeCycle db request := by
  have after : ∀ other, (actionStep db request).actions.get? other =
      if other = id then some row else db.actions.get? other := by
    intro other
    rw [written, Dict.get?_set]
  have kept : ∀ other stored, db.actions.get? other = some stored →
      (actionStep db request).actions.get? other = some stored := by
    intro other stored there
    have different : other ≠ id := by
      intro here
      rw [here, absent] at there
      cases there
    rw [after, if_neg different, there]
  refine ⟨?_, ?_, ?_, ?_⟩
  · intro other stored there
    exact ⟨stored, kept other stored there, statusMoves_refl stored.status⟩
  · intro other stored new there _ shown
    obtain rfl := Option.some.inj ((kept other stored there).symm.trans shown)
    exact ⟨rfl, rfl, rfl⟩
  · intro report now _ other stored there changed
    exact absurd (kept other stored there) changed
  · intro other new missing shown
    rw [after] at shown
    split at shown
    · exact Option.some.inj shown ▸ pending
    · rw [missing] at shown
      cases shown

theorem wellKept_set {id : String} {row : AgentAction} {after : ActionDb} (kept : WellKept db)
    (written : after.actions = db.actions.set id row)
    (known : row.status = "pending" ∨ row.status = "running" ∨ finalStatus row.status = true)
    (ended : row.finishedAt.isSome = true ↔ finalStatus row.status = true) : WellKept after := by
  intro other stored shown
  rw [written, Dict.get?_set] at shown
  split at shown
  · obtain rfl := Option.some.inj shown
    exact ⟨known, ended⟩
  · exact kept other stored shown

theorem create_follows (kept : WellKept db) (id serverId type : String) (now : Int) :
    FollowsLifeCycle db (.create id serverId type now) ∧
      WellKept (actionStep db (.create id serverId type now)) := by
  by_cases used : id ∈ db.actions.keys
  · have same : actionStep db (.create id serverId type now) = db := if_pos used
    refine ⟨follows_of_same (congrArg ActionDb.actions same), ?_⟩
    rw [same]
    exact kept
  · have written : actionStep db (.create id serverId type now) = { db with
        actions := db.actions.set id ⟨serverId, type, "pending", now, none, none, none⟩ } :=
      if_neg used
    have rows := congrArg ActionDb.actions written
    have absent : db.actions.get? id = none := (Dict.get?_eq_none_iff ..).mpr used
    exact ⟨follows_of_created absent rows rfl, wellKept_set kept rows (Or.inl rfl)
      (iff_of_false Bool.false_ne_true (by decide : ¬ finalStatus "pending" = true))⟩

theorem poll_follows (kept : WellKept db) (serverId first : String) (now : Int) :
    FollowsLifeCycle db (.poll serverId first now) ∧
      WellKept (actionStep db (.poll serverId first now)) := by
  cases handed : getPendingAction serverId first db.actions with
  | none =>
      have same : actionStep db (.poll serverId first now) = db := by
        simp only [actionStep, agentV1ActionsPoll, handed]
      refine ⟨follows_of_same (congrArg ActionDb.actions same), ?_⟩
      rw [same]
      exact kept
  | some id =>
      obtain ⟨action, found, pending⟩ := pending_of_getPendingAction handed
      have rows : (actionStep db (.poll serverId first now)).actions =
          db.actions.set id (action.withStatus "running" none (some now) none) := by
        simp only [actionStep, agentV1ActionsPoll, handed, setStatus, found, appendLog]
      have open_ : finalStatus action.status = false := by
        rw [pending]
        decide
      constructor
      · refine follows_of_set found rows ?_ ?_ ?_
        · rw [pending]
          exact (by decide : statusMoves "pending" "running" = true)
        · intro ended
          rw [open_] at ended
          cases ended
        · intro report other impossible
          cases impossible
      · refine wellKept_set kept rows (Or.inr (Or.inl rfl)) ?_
        have unfinished := (kept id action found).2
        rw [open_] at unfinished
        exact unfinished

/-- A report obeys the life cycle exactly in turn. -/
theorem report_follows_iff (kept : WellKept db) (report : ActionReport) (now : Int) :
    FollowsLifeCycle db (.report report now) ∧ WellKept (actionStep db (.report report now)) ↔
      reportInTurn db (.report report now) = true := by
  cases found : db.actions.get? report.actionId with
  | none =>
      have same : actionStep db (.report report now) = db := by
        simp only [actionStep, agentV1ActionsReport, found]
      have allowed : reportInTurn db (.report report now) = true := by
        simp only [reportInTurn, found]
      refine iff_of_true ⟨follows_of_same (congrArg ActionDb.actions same), ?_⟩ allowed
      rw [same]
      exact kept
  | some action =>
      cases storable : report.storable with
      | false =>
          have same : actionStep db (.report report now) = db := by
            simp [actionStep, agentV1ActionsReport, found, storable]
          have allowed : reportInTurn db (.report report now) = true := by
            simp [reportInTurn, found, storable]
          refine iff_of_true ⟨follows_of_same (congrArg ActionDb.actions same), ?_⟩ allowed
          rw [same]
          exact kept
      | true =>
          have rows : (actionStep db (.report report now)).actions =
              db.actions.set report.actionId (report.row now action) := by
            simp [actionStep, agentV1ActionsReport, setStatus, appendLog, ActionReport.row, found,
              storable]
          have shown : (actionStep db (.report report now)).actions.get? report.actionId =
              some (report.row now action) := by
            rw [rows, Dict.get?_set, if_pos rfl]
          have allowed : reportInTurn db (.report report now) = true ↔
              report.row now action = action ∨
                action.status = "running" ∧ finalStatus report.status = true := by
            simp [reportInTurn, found, storable]
          rw [allowed]
          constructor
          · rintro ⟨follows, after⟩
            by_cases same : report.row now action = action
            · exact Or.inl same
            · have running := follows.reported report now rfl _ action found
                (fun equal => same (Option.some.inj (shown.symm.trans equal)))
              exact Or.inr ⟨running, (after _ _ shown).2.mp rfl⟩
          · rintro (same | ⟨running, ended⟩)
            · rw [same, Dict.set_of_get? found] at rows
              refine ⟨follows_of_same rows, ?_⟩
              intro id stored there
              rw [rows] at there
              exact kept id stored there
            · have open_ : finalStatus action.status = false := by
                rw [running]
                decide
              constructor
              · refine follows_of_set found rows ?_ ?_ (fun _ _ _ _ => running)
                · simp [statusMoves, running, ActionReport.row, AgentAction.withStatus, ended]
                · intro final
                  rw [open_] at final
                  cases final
              · exact wellKept_set kept rows (Or.inr (Or.inr ended))
                  (iff_of_true rfl ended)

theorem request_follows_iff (db : ActionDb) (request : ActionRequest) (kept : WellKept db) :
    FollowsLifeCycle db request ∧ WellKept (actionStep db request) ↔
      reportInTurn db request = true := by
  cases request with
  | create id serverId type now =>
      exact iff_of_true (create_follows kept id serverId type now) rfl
  | poll serverId first now => exact iff_of_true (poll_follows kept serverId first now) rfl
  | report report now => exact report_follows_iff kept report now

end Steps

/-! ### Runs -/

/-- From a table in order, a run of requests follows the life cycle throughout exactly when
each of its reports comes in turn. -/
theorem life_cycle_iff_reports_in_turn (db : ActionDb) (requests : List ActionRequest)
    (kept : WellKept db) :
    EveryStep actionStep db requests FollowsLifeCycle ∧
        EveryState actionStep db requests WellKept ↔
      EveryStep actionStep db requests (fun before request =>
        reportInTurn before request = true) :=
  everyStep_and_everyState_iff request_follows_iff kept

theorem empty_wellKept : WellKept ActionDb.empty := by
  intro id action found
  cases found

/-- One action, handed out and completed. -/
def finishedRun : List ActionRequest :=
  [.create "a" "node-1" "sync" 1, .poll "node-1" "" 2, .report ⟨"a", "completed", ""⟩ 3]

/-- A late report reopens a completed action, a stray one ends it before it was handed out,
and any text is taken for a status. -/
theorem late_and_stray_reports :
    ¬ EveryStep actionStep ActionDb.empty
        (finishedRun ++ [.report ⟨"a", "failed", "timeout"⟩ 4]) FollowsLifeCycle ∧
      ¬ EveryStep actionStep ActionDb.empty
        [.create "a" "node-1" "sync" 1, .report ⟨"a", "completed", ""⟩ 2] FollowsLifeCycle ∧
      ¬ EveryState actionStep ActionDb.empty
        [.create "a" "node-1" "sync" 1, .poll "node-1" "" 2, .report ⟨"a", "running", ""⟩ 3]
        WellKept := by
  refine ⟨?_, ?_, ?_⟩
  · intro every
    have late := every finishedRun (.report ⟨"a", "failed", "timeout"⟩ 4) [] rfl
    have kept := late.final "a" ⟨"node-1", "sync", "completed", 1, some 2, some 3, none⟩
      ⟨"node-1", "sync", "failed", 1, some 2, some 4, some "timeout"⟩
      (by decide +kernel) (by decide) (by decide +kernel)
    exact absurd kept.1 (by decide)
  · intro every
    have stray := every [.create "a" "node-1" "sync" 1] (.report ⟨"a", "completed", ""⟩ 2) [] rfl
    have running := stray.reported ⟨"a", "completed", ""⟩ 2 rfl "a"
      ⟨"node-1", "sync", "pending", 1, none, none, none⟩ (by decide +kernel) (by decide +kernel)
    exact absurd running (by decide)
  · intro every
    have kept := every [.create "a" "node-1" "sync" 1, .poll "node-1" "" 2,
      .report ⟨"a", "running", ""⟩ 3] [] rfl "a"
      ⟨"node-1", "sync", "running", 1, some 2, some 3, none⟩ (by decide +kernel)
    exact absurd (kept.2.mp rfl) (by decide)

/-- A report in turn. -/
theorem finished_run_follows :
    EveryStep actionStep ActionDb.empty finishedRun FollowsLifeCycle ∧
      EveryState actionStep ActionDb.empty finishedRun WellKept :=
  (life_cycle_iff_reports_in_turn ActionDb.empty finishedRun empty_wellKept).mpr
    (everyStep_iff_stepsAll.mpr (by decide +kernel))

end VpnSuite.ControlPlane
