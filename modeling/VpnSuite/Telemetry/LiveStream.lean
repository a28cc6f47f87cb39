/-
The live metrics stream (`api/v1/live_metrics.py`).

A stream reads the cluster snapshot over and over and sends what changed since its last read:
first the whole, then patches with the nodes that changed.  The client holds what it was sent,
by the rules of the documentation of the stream: a snapshot replaces all, a patch merges nodes
and replaces the rest, a keepalive brings the time.

A read finds the snapshot, finds none, or raises before anything was remembered.  The
degradation mode is read with it.  The text of an event is only measured, so that its length
is a parameter; nodes, summaries and times are arbitrary.
-/

import VpnSuite.Foundations.DictionaryPatches
import VpnSuite.Foundations.RunSimulations
import Mathlib.Data.List.Induction

set_option autoImplicit false

namespace VpnSuite.Telemetry

open Foundations

inductive LiveMode where
  | normal
  | degraded
  | tier1Slow
  | tier2Paused
  | circuitOpen
  deriving DecidableEq, Repr

def LiveMode.text : LiveMode → String
  | .normal => "normal"
  | .degraded => "degraded"
  | .tier1Slow => "tier1_slow"
  | .tier2Paused => "tier2_paused"
  | .circuitOpen => "circuit_open"

section Stream

variable {τ σ ν : Type}

/-- The part of a cluster snapshot that patches can bring. -/
structure ClusterSnapshot (τ σ ν : Type) where
  ts : τ
  summary : σ
  nodes : Dict String ν
  mode : LiveMode
  degradationReason : Option String

inductive LiveEvent (τ σ ν : Type) where
  | snapshot (whole : ClusterSnapshot τ σ ν)
  | patch (changed : ClusterSnapshot τ σ ν)
  | keepalive (ts : τ)
  | degraded (mode : LiveMode) (reason : String)

/-- What one iteration of the stream finds. -/
inductive LiveRead (τ σ ν : Type) where
  | found (snapshot : ClusterSnapshot τ σ ν)
  | absent (mode : Option LiveMode)
  | raised (mode : Option LiveMode)

structure StreamState (τ σ ν : Type) where
  previous : Option (ClusterSnapshot τ σ ν)
  consecutiveErrors : Nat
  running : Bool

def StreamState.start : StreamState τ σ ν := ⟨none, 0, true⟩

/-- `_compute_patch`; `none` is its noop. -/
def computePatch [DecidableEq ν] (previous : Option (ClusterSnapshot τ σ ν))
    (current : ClusterSnapshot τ σ ν) : Option (LiveEvent τ σ ν) :=
  match previous with
  | none => some (.snapshot current)
  | some earlier =>
      if (earlier.nodes.changes current.nodes).keys = [] then none
      else some (.patch { current with nodes := earlier.nodes.changes current.nodes })

/-- The event of one read, before its size is looked at, and whether it may be too large. -/
def liveEvent [DecidableEq ν] (state : StreamState τ σ ν) :
    LiveRead τ σ ν → Option (LiveEvent τ σ ν × Bool)
  | .absent mode => some (.degraded (mode.getD .circuitOpen) "no_snapshot", false)
  | .raised mode =>
      if 3 ≤ state.consecutiveErrors + 1 then
        some (.degraded (mode.getD .degraded) "internal_error", false)
      else none
  | .found current =>
      match computePatch state.previous current with
      | none => some (.keepalive current.ts, false)
      | some event => some (event, true)

/-- The event that is sent. -/
def sentEvent [DecidableEq ν] (size : LiveEvent τ σ ν → Nat) (maxEventBytes : Nat)
    (state : StreamState τ σ ν) (read : LiveRead τ σ ν) : Option (LiveEvent τ σ ν) :=
  if state.running then
    match liveEvent state read with
    | none => none
    | some (event, measured) => if measured ∧ maxEventBytes < size event then none else some event
  else none

/-- The snapshot is remembered whether its event was sent or not. -/
def streamStep (state : StreamState τ σ ν) (read : LiveRead τ σ ν) : StreamState τ σ ν :=
  if state.running then
    match read with
    | .found current => ⟨some current, 0, true⟩
    | .absent _ => ⟨state.previous, 0, true⟩
    | .raised _ => ⟨state.previous, state.consecutiveErrors + 1, state.consecutiveErrors + 1 < 3⟩
  else state

/-! ### The client -/

/-- What the client shows of the cluster. -/
abbrev ClientView (τ σ ν : Type) : Type := Option (ClusterSnapshot τ σ ν)

def applyEvent (view : ClientView τ σ ν) : LiveEvent τ σ ν → ClientView τ σ ν
  | .snapshot whole => some whole
  | .patch changed => view.map (fun held => { changed with nodes := held.nodes.merge changed.nodes })
  | .keepalive ts => view.map (fun held => { held with ts := ts })
  | .degraded _ _ => view

structure LiveSession (τ σ ν : Type) where
  stream : StreamState τ σ ν
  view : ClientView τ σ ν

def LiveSession.start : LiveSession τ σ ν := ⟨.start, none⟩

def sessionStep [DecidableEq ν] (size : LiveEvent τ σ ν → Nat) (maxEventBytes : Nat)
    (session : LiveSession τ σ ν) (read : LiveRead τ σ ν) : LiveSession τ σ ν :=
  ⟨streamStep session.stream read,
    match sentEvent size maxEventBytes session.stream read with
    | none => session.view
    | some event => applyEvent session.view event⟩

/-! ### When the client shows the snapshot -/

def Displays (view : ClientView τ σ ν) : Option (ClusterSnapshot τ σ ν) → Prop
  | none => view = none
  | some snapshot => ∃ held, view = some held ∧ held.nodes.Agree snapshot.nodes ∧
      held = { snapshot with nodes := held.nodes }

/-- The client shows the snapshot that the stream remembers. -/
def Shows (session : LiveSession τ σ ν) : Prop :=
  Displays session.view session.stream.previous

/-- No node is gone, and what is to be sent is sent: with nothing else than the time to be
sent, the rest has to be as it was. -/
def CanConvey [DecidableEq ν] (size : LiveEvent τ σ ν → Nat) (maxEventBytes : Nat)
    (current : ClusterSnapshot τ σ ν) : Option (ClusterSnapshot τ σ ν) → Prop
  | none => size (.snapshot current) ≤ maxEventBytes
  | some earlier =>
      (∀ node ∈ earlier.nodes.keys, node ∈ current.nodes.keys) ∧
        if (earlier.nodes.changes current.nodes).keys = [] then
          current.summary = earlier.summary ∧ current.mode = earlier.mode ∧
            current.degradationReason = earlier.degradationReason
        else size (.patch { current with nodes := earlier.nodes.changes current.nodes }) ≤
          maxEventBytes

/-- Nothing of a read is lost. -/
def Conveyed [DecidableEq ν] (size : LiveEvent τ σ ν → Nat) (maxEventBytes : Nat)
    (session : LiveSession τ σ ν) (read : LiveRead τ σ ν) : Prop :=
  session.stream.running = true → ∀ current, read = .found current →
    CanConvey size maxEventBytes current session.stream.previous

section Conveying

variable [DecidableEq ν] {size : LiveEvent τ σ ν → Nat} {maxEventBytes : Nat}
  {session : LiveSession τ σ ν} {current earlier : ClusterSnapshot τ σ ν}

theorem sessionStep_stopped (stopped : session.stream.running = false) (read : LiveRead τ σ ν) :
    sessionStep size maxEventBytes session read = session := by
  simp only [sessionStep, streamStep, sentEvent, stopped, Bool.false_eq_true, if_false]

/-- A read that finds no snapshot moves neither what is remembered nor what is shown. -/
theorem sessionStep_unfound {read : LiveRead τ σ ν} (unfound : ∀ current, read ≠ .found current) :
    (sessionStep size maxEventBytes session read).stream.previous = session.stream.previous ∧
      (sessionStep size maxEventBytes session read).view = session.view := by
  cases running : session.stream.running with
  | false =>
      rw [sessionStep_stopped running]
      exact ⟨rfl, rfl⟩
  | true =>
      cases read with
      | found current => exact absurd rfl (unfound current)
      | absent mode => simp [sessionStep, streamStep, sentEvent, liveEvent, running, applyEvent]
      | raised mode =>
          by_cases third : 3 ≤ session.stream.consecutiveErrors + 1
          · simp [sessionStep, streamStep, sentEvent, liveEvent, running, third, applyEvent]
          · simp [sessionStep, streamStep, sentEvent, liveEvent, running, third]

theorem shows_unfound {read : LiveRead τ σ ν} (unfound : ∀ current, read ≠ .found current) :
    Shows (sessionStep size maxEventBytes session read) ↔ Shows session := by
  rcases @sessionStep_unfound _ _ _ _ size maxEventBytes session read unfound with
    ⟨remembered, view⟩
  unfold Shows
  rw [view, remembered]

theorem shows_first (running : session.stream.running = true)
    (first : session.stream.previous = none) (shows : Shows session) :
    Shows (sessionStep size maxEventBytes session (.found current)) ↔
      size (.snapshot current) ≤ maxEventBytes := by
  have blank : session.view = none := by
    unfold Shows at shows
    rw [first] at shows
    exact shows
  by_cases large : maxEventBytes < size (.snapshot current)
  · have step : Shows (sessionStep size maxEventBytes session (.found current)) ↔
        Displays (none : ClientView τ σ ν) (some current) := by
      simp only [Shows, sessionStep, streamStep, sentEvent, liveEvent, computePatch, running,
        first, large, blank, if_true, and_self]
    rw [step]
    constructor
    · intro shown
      rcases shown with ⟨held, absent, _⟩
      cases absent
    · intro small
      omega
  · have step : Shows (sessionStep size maxEventBytes session (.found current)) ↔
        Displays (some current) (some current) := by
      simp only [Shows, sessionStep, streamStep, sentEvent, liveEvent, computePatch, running,
        first, large, if_true, and_false, if_false, applyEvent]
    rw [step]
    exact iff_of_true ⟨current, rfl, fun _ => rfl, rfl⟩ (Nat.le_of_not_lt large)

/-- A read without changes brings the time alone. -/
theorem shows_unchanged (running : session.stream.running = true)
    (known : session.stream.previous = some earlier) (shows : Shows session)
    (unchanged : (earlier.nodes.changes current.nodes).keys = []) :
    Shows (sessionStep size maxEventBytes session (.found current)) ↔
      (∀ node ∈ earlier.nodes.keys, node ∈ current.nodes.keys) ∧
        current.summary = earlier.summary ∧ current.mode = earlier.mode ∧
          current.degradationReason = earlier.degradationReason := by
  unfold Shows at shows
  rw [known] at shows
  rcases shows with ⟨held, showing, agree, same⟩
  have step : Shows (sessionStep size maxEventBytes session (.found current)) ↔
      Displays (some { held with ts := current.ts }) (some current) := by
    simp only [Shows, sessionStep, streamStep, sentEvent, liveEvent, computePatch, running, known,
      unchanged, showing, if_true, Bool.false_eq_true, false_and, if_false, applyEvent,
      Option.map_some]
  rw [step, ← Dict.agree_of_no_changes_iff unchanged agree]
  constructor
  · intro shown
    rcases shown with ⟨after, equal, agreed, rest⟩
    cases Option.some.inj equal
    have summary := congrArg ClusterSnapshot.summary rest
    have mode := congrArg ClusterSnapshot.mode rest
    have reason := congrArg ClusterSnapshot.degradationReason rest
    rw [same] at summary mode reason
    exact ⟨agreed, summary.symm, mode.symm, reason.symm⟩
  · intro all
    rcases all with ⟨agreed, summary, mode, reason⟩
    refine ⟨_, rfl, agreed, ?_⟩
    rw [same, ← summary, ← mode, ← reason]

theorem shows_changed (running : session.stream.running = true)
    (known : session.stream.previous = some earlier) (shows : Shows session)
    (changed : (earlier.nodes.changes current.nodes).keys ≠ []) :
    Shows (sessionStep size maxEventBytes session (.found current)) ↔
      (∀ node ∈ earlier.nodes.keys, node ∈ current.nodes.keys) ∧
        size (.patch { current with nodes := earlier.nodes.changes current.nodes }) ≤
          maxEventBytes := by
  unfold Shows at shows
  rw [known] at shows
  rcases shows with ⟨held, showing, agree, same⟩
  by_cases large :
      maxEventBytes < size (.patch { current with nodes := earlier.nodes.changes current.nodes })
  · have step : Shows (sessionStep size maxEventBytes session (.found current)) ↔
        Displays (some held) (some current) := by
      simp only [Shows, sessionStep, streamStep, sentEvent, liveEvent, computePatch, running,
        known, changed, large, showing, if_true, if_false, and_self]
    rw [step]
    constructor
    · intro shown
      rcases shown with ⟨after, equal, agreed, _⟩
      cases Option.some.inj equal
      have unchanged : (earlier.nodes.changes current.nodes).keys = [] := by
        rw [Dict.changes_keys_nil_iff]
        intro node value found
        rw [← agree node, agreed node, found]
      exact absurd unchanged changed
    · intro both
      have small := both.2
      omega
  · have step : Shows (sessionStep size maxEventBytes session (.found current)) ↔
        Displays (some { current with
          nodes := held.nodes.merge (earlier.nodes.changes current.nodes) }) (some current) := by
      simp only [Shows, sessionStep, streamStep, sentEvent, liveEvent, computePatch, running,
        known, changed, large, showing, if_true, if_false, and_false, applyEvent, Option.map_some]
    rw [step, ← Dict.agree_merge_changes_iff agree, and_iff_left (Nat.le_of_not_lt large)]
    constructor
    · intro shown
      rcases shown with ⟨after, equal, agreed, _⟩
      cases Option.some.inj equal
      exact agreed
    · intro agreed
      exact ⟨_, rfl, agreed, rfl⟩

theorem shows_found_iff (running : session.stream.running = true) (shows : Shows session) :
    Shows (sessionStep size maxEventBytes session (.found current)) ↔
      CanConvey size maxEventBytes current session.stream.previous := by
  cases known : session.stream.previous with
  | none => exact shows_first running known shows
  | some earlier =>
      by_cases unchanged : (earlier.nodes.changes current.nodes).keys = []
      · rw [shows_unchanged running known shows unchanged]
        simp only [CanConvey, if_pos unchanged]
      · rw [shows_changed running known shows unchanged]
        simp only [CanConvey, if_neg unchanged]

theorem shows_step_iff (read : LiveRead τ σ ν) (shows : Shows session) :
    Shows (sessionStep size maxEventBytes session read) ↔
      Conveyed size maxEventBytes session read := by
  cases running : session.stream.running with
  | false =>
      rw [sessionStep_stopped running]
      apply iff_of_true shows
      intro alive
      rw [running] at alive
      cases alive
  | true =>
      by_cases other : ∀ current, read ≠ .found current
      · rw [shows_unfound other]
        apply iff_of_true shows
        intro alive current found
        exact absurd found (other current)
      · simp only [not_forall, not_not] at other
        rcases other with ⟨current, rfl⟩
        rw [shows_found_iff running shows]
        constructor
        · intro conveyed _ same equal
          cases equal
          exact conveyed
        · intro conveyed
          exact conveyed running current rfl

end Conveying

/-- The client shows what the stream remembers all along exactly when every read of the run is
conveyed. -/
theorem client_shows_snapshot_iff [DecidableEq ν] (size : LiveEvent τ σ ν → Nat)
    (maxEventBytes : Nat) (reads : List (LiveRead τ σ ν)) :
    EveryState (sessionStep size maxEventBytes) LiveSession.start reads Shows ↔
      EveryStep (sessionStep size maxEventBytes) LiveSession.start reads
        (Conveyed size maxEventBytes) := by
  apply everyState_iff_everyStep (fun session read (_ : True) => trivial)
  · intro session read _ shows
    exact shows_step_iff read shows
  · trivial
  · rfl

/-! ### The nodes a client shows -/

/-- The entry of a node in the last snapshot that has one. -/
def lastSeen (node : String) (reads : List (LiveRead τ σ ν)) : Option ν :=
  reads.foldl (fun seen read =>
    match read with
    | .found current => (current.nodes.get? node).or seen
    | .absent _ => seen
    | .raised _ => seen) none

def shownNode (node : String) (view : ClientView τ σ ν) : Option ν :=
  view.bind (fun held => held.nodes.get? node)

/-- What a node is shown as, next to what the stream remembers of it. -/
structure Tracks (node : String) (seen : Option ν) (session : LiveSession τ σ ν) : Prop where
  shown : shownNode node session.view = seen
  blank : session.stream.previous = none → session.view = none
  remembered : ∀ snapshot, session.stream.previous = some snapshot →
    session.view.isSome = true ∧
      ∀ value, snapshot.nodes.get? node = some value → seen = some value

section Tracking

variable [DecidableEq ν] {size : LiveEvent τ σ ν → Nat} {maxEventBytes : Nat}
  {session : LiveSession τ σ ν} {node : String} {seen : Option ν}

theorem running_before {read : LiveRead τ σ ν}
    (after : (sessionStep size maxEventBytes session read).stream.running = true) :
    session.stream.running = true := by
  cases running : session.stream.running with
  | true => rfl
  | false =>
      rw [sessionStep_stopped running, running] at after
      exact after

/-- With room for every event, a read moves what is shown to what it found. -/
theorem Tracks.found (fits : ∀ event, size event ≤ maxEventBytes)
    (tracks : Tracks node seen session) (running : session.stream.running = true)
    (current : ClusterSnapshot τ σ ν) :
    Tracks node ((current.nodes.get? node).or seen)
      (sessionStep size maxEventBytes session (.found current)) := by
  have small (event : LiveEvent τ σ ν) : ¬ maxEventBytes < size event :=
    Nat.not_lt_of_le (fits event)
  have remembered : (sessionStep size maxEventBytes session (.found current)).stream.previous =
      some current := by
    simp only [sessionStep, streamStep, running, if_true]
  have whole (value : ν) (found : current.nodes.get? node = some value) :
      (current.nodes.get? node).or seen = some value := by
    rw [found]
    rfl
  cases known : session.stream.previous with
  | none =>
      have unseen : seen = none := by
        rw [← tracks.shown, tracks.blank known]
        rfl
      have view : (sessionStep size maxEventBytes session (.found current)).view =
          some current := by
        simp only [sessionStep, sentEvent, liveEvent, computePatch, running, known, small,
          if_true, and_false, if_false, applyEvent]
      constructor
      · rw [view, unseen, Option.or_none]
        rfl
      · intro absent
        rw [remembered] at absent
        cases absent
      · intro snapshot same
        cases remembered.symm.trans same
        exact ⟨by rw [view]; rfl, whole⟩
  | some earlier =>
      rcases tracks.remembered earlier known with ⟨held, latest⟩
      rcases Option.isSome_iff_exists.mp held with ⟨shown, showing⟩
      have before : shown.nodes.get? node = seen := by
        rw [← tracks.shown, showing]
        rfl
      have viewed : ∃ after, (sessionStep size maxEventBytes session (.found current)).view =
          some after ∧ after.nodes.get? node = (current.nodes.get? node).or seen := by
        by_cases unchanged : (earlier.nodes.changes current.nodes).keys = []
        · refine ⟨{ shown with ts := current.ts }, ?_, ?_⟩
          · simp only [sessionStep, sentEvent, liveEvent, computePatch, running, known, unchanged,
              showing, if_true, Bool.false_eq_true, false_and, if_false, applyEvent,
              Option.map_some]
          · rw [before]
            cases found : current.nodes.get? node with
            | none => rfl
            | some value =>
                have kept := (Dict.changes_keys_nil_iff.mp unchanged) node value found
                exact latest value kept
        · refine ⟨{ current with
            nodes := shown.nodes.merge (earlier.nodes.changes current.nodes) }, ?_, ?_⟩
          · simp only [sessionStep, sentEvent, liveEvent, computePatch, running, known, unchanged,
              small, showing, if_true, if_false, and_false, applyEvent, Option.map_some]
          · rw [Dict.get?_merge, Dict.get?_changes, before]
            by_cases same : earlier.nodes.get? node = current.nodes.get? node
            · rw [if_pos same]
              cases found : current.nodes.get? node with
              | none => rfl
              | some value => exact latest value (same.trans found)
            · rw [if_neg same]
      rcases viewed with ⟨after, view, nodes⟩
      constructor
      · rw [view]
        exact nodes
      · intro absent
        rw [remembered] at absent
        cases absent
      · intro snapshot same
        cases remembered.symm.trans same
        exact ⟨by rw [view]; rfl, whole⟩

theorem Tracks.unfound (tracks : Tracks node seen session) {read : LiveRead τ σ ν}
    (unfound : ∀ current, read ≠ .found current) :
    Tracks node seen (sessionStep size maxEventBytes session read) := by
  rcases sessionStep_unfound unfound with ⟨previous, view⟩
  constructor
  · rw [view]
    exact tracks.shown
  · rw [previous, view]
    exact tracks.blank
  · rw [previous, view]
    exact tracks.remembered

end Tracking

/-- With room for every event, a node is shown as in the last snapshot that had it. -/
theorem shown_as_last_seen [DecidableEq ν] (size : LiveEvent τ σ ν → Nat) (maxEventBytes : Nat)
    (fits : ∀ event, size event ≤ maxEventBytes) (reads : List (LiveRead τ σ ν))
    (running : (reads.foldl (sessionStep size maxEventBytes) .start).stream.running = true)
    (node : String) :
    shownNode node (reads.foldl (sessionStep size maxEventBytes) .start).view =
      lastSeen node reads := by
  have tracks : Tracks node (lastSeen node reads)
      (reads.foldl (sessionStep size maxEventBytes) .start) := by
    induction reads using List.reverseRecOn with
    | nil => exact ⟨rfl, fun _ => rfl, fun snapshot absent => by cases absent⟩
    | append_singleton earlier read ih =>
        unfold lastSeen at ih ⊢
        rw [List.foldl_append, List.foldl_cons, List.foldl_nil] at running ⊢
        rw [List.foldl_append, List.foldl_cons, List.foldl_nil]
        have before := running_before running
        cases read with
        | found current => exact (ih before).found fits before current
        | absent mode => exact (ih before).unfound (fun current same => by cases same)
        | raised mode => exact (ih before).unfound (fun current same => by cases same)
  exact tracks.shown

/-- Two nodes, and then the first alone. -/
def shrinkingReads : List (LiveRead Nat Nat Nat) :=
  [.found ⟨1, 2, Dict.ofList [("a", 10), ("b", 20)], .normal, none⟩,
    .found ⟨2, 1, Dict.ofList [("a", 11)], .normal, none⟩]

theorem gone_node_is_shown :
    shownNode "b" (shrinkingReads.foldl (sessionStep (fun _ => 0) 64000) .start).view = some 20 :=
  shown_as_last_seen (fun _ => 0) 64000 (fun _ => Nat.zero_le _) shrinkingReads rfl "b"

end Stream

end VpnSuite.Telemetry
