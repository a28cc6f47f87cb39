/-
Calls that remember their results in a shared cache, without reserving a slot.

A call looks its slot up, computes when it finds nothing, and stores the result afterwards.
Two calls of one slot can both find it empty.  What the cache promises, that a slot is
computed once and all its calls return one value, holds exactly as long as no call finishes
computing what another has stored, is about to store, or has failed to compute.

A call without a slot always computes and stores nothing.  Slots and values are arbitrary.
-/

import VpnSuite.Foundations.OrderedDict
import VpnSuite.Foundations.StepRuns
import Mathlib.Logic.Function.Basic

set_option autoImplicit false

namespace VpnSuite.Foundations.MemoizedCalls

variable {κ β : Type} [DecidableEq κ]

inductive Phase (β : Type) where
  | idle
  | computing
  | computed (value : β)
  | returned (value : β)
  | replayed (value : β) (origin : Nat)
  | failed
  deriving DecidableEq, Repr

/-- A stored value, and the call that stored it. -/
structure Entry (β : Type) where
  value : β
  origin : Nat
  deriving DecidableEq, Repr

structure System (κ β : Type) [DecidableEq κ] where
  cache : Dict κ (Entry β)
  calls : Nat → Phase β

def System.start : System κ β := ⟨Dict.empty, fun _ => .idle⟩

def System.setCall (system : System κ β) (call : Nat) (phase : Phase β) : System κ β :=
  { system with calls := Function.update system.calls call phase }

inductive Event (β : Type) where
  | lookup (call : Nat)
  | finish (call : Nat) (outcome : Option β)
  | store (call : Nat)
  deriving DecidableEq, Repr

/-- One part of a call.  A part out of turn does nothing. -/
def step (slot : Nat → Option κ) (system : System κ β) : Event β → System κ β
  | .lookup call =>
      match system.calls call with
      | .idle =>
          match (slot call).bind system.cache.get? with
          | none => system.setCall call .computing
          | some entry => system.setCall call (.replayed entry.value entry.origin)
      | _ => system
  | .finish call outcome =>
      match system.calls call with
      | .computing =>
          match outcome with
          | none => system.setCall call .failed
          | some value => system.setCall call (.computed value)
      | _ => system
  | .store call =>
      match system.calls call with
      | .computed value =>
          match slot call with
          | none => system.setCall call (.returned value)
          | some key =>
              { system.setCall call (.returned value) with
                cache := system.cache.set key ⟨value, call⟩ }
      | _ => system

/-- The call has run its computation, whether it gave a value or failed. -/
def Phase.ran : Phase β → Bool
  | .computed _ => true
  | .returned _ => true
  | .failed => true
  | _ => false

/-- The value a call has answered with. -/
def Phase.answer : Phase β → Option β
  | .returned value => some value
  | .replayed value _ => some value
  | _ => none

/-! ### The promise and its condition -/

/-- No two calls of one slot compute. -/
def ComputedOnce (slot : Nat → Option κ) (system : System κ β) : Prop :=
  ∀ ⦃left right key⦄, slot left = some key → slot right = some key →
    (system.calls left).ran = true → (system.calls right).ran = true → left = right

/-- A call that finishes computing finds its slot empty, and no other call of the slot that is
about to store or has failed. -/
def FinishesAlone (slot : Nat → Option κ) (system : System κ β) : Event β → Prop
  | .finish call _ => system.calls call = .computing → ∀ key, slot call = some key →
      system.cache.get? key = none ∧
        ∀ other, slot other = some key →
          system.calls other ≠ .failed ∧ ∀ value, system.calls other ≠ .computed value
  | _ => True

/-- Where the values come from: a slot holds what a call of that slot has returned, a replayed
value too, and the slot of a call that has returned is not empty. -/
structure Origins (slot : Nat → Option κ) (system : System κ β) : Prop where
  stored : ∀ key entry, system.cache.get? key = some entry →
    slot entry.origin = some key ∧ system.calls entry.origin = .returned entry.value
  replayed : ∀ call value origin, system.calls call = .replayed value origin →
    ∃ key, slot call = some key ∧ slot origin = some key ∧
      system.calls origin = .returned value
  kept : ∀ call value key, system.calls call = .returned value → slot call = some key →
    (system.cache.get? key).isSome = true

section Steps

variable {slot : Nat → Option κ} {system : System κ β}

theorem origins_start : Origins slot (System.start : System κ β) := by
  refine ⟨?_, ?_, ?_⟩
  · intro key entry impossible
    cases impossible
  · intro call value origin impossible
    cases impossible
  · intro call value key impossible
    cases impossible

theorem computedOnce_start : ComputedOnce slot (System.start : System κ β) := by
  intro left right key _ _ impossible
  cases impossible

/-- A phase change of a call that has not returned, to one that has not either. -/
theorem Origins.setCall (origins : Origins slot system) {call : Nat} {phase : Phase β}
    (unreturned : ∀ value, system.calls call ≠ .returned value)
    (still : ∀ value, phase ≠ .returned value)
    (sourced : ∀ value origin, phase = .replayed value origin → ∃ key, slot call = some key ∧
      slot origin = some key ∧ system.calls origin = .returned value) :
    Origins slot (system.setCall call phase) := by
  have others : ∀ origin value, system.calls origin = .returned value →
      (system.setCall call phase).calls origin = .returned value := by
    intro origin value returned
    have different : origin ≠ call := by
      rintro rfl
      exact unreturned value returned
    exact (Function.update_of_ne different ..).trans returned
  refine ⟨?_, ?_, ?_⟩
  · intro key entry found
    obtain ⟨own, returned⟩ := origins.stored key entry found
    exact ⟨own, others entry.origin entry.value returned⟩
  · intro other value origin shown
    change Function.update system.calls call phase other = _ at shown
    by_cases mine : other = call
    · rw [mine, Function.update_self] at shown
      obtain ⟨key, own, theirs, returned⟩ := sourced value origin shown
      exact ⟨key, mine ▸ own, theirs, others origin value returned⟩
    · rw [Function.update_of_ne mine] at shown
      obtain ⟨key, own, theirs, returned⟩ := origins.replayed other value origin shown
      exact ⟨key, own, theirs, others origin value returned⟩
  · intro other value key shown own
    change Function.update system.calls call phase other = _ at shown
    by_cases mine : other = call
    · rw [mine, Function.update_self] at shown
      exact absurd shown (still value)
    · rw [Function.update_of_ne mine] at shown
      exact origins.kept other value key shown own

theorem Origins.store (origins : Origins slot system) {call : Nat} {value : β}
    (ready : system.calls call = .computed value) :
    Origins slot (step slot system (.store call)) := by
  have others : ∀ origin result, system.calls origin = .returned result →
      Function.update system.calls call (.returned value) origin = .returned result := by
    intro origin result returned
    have different : origin ≠ call := by
      rintro rfl
      cases ready.symm.trans returned
    exact (Function.update_of_ne different ..).trans returned
  have replayed : ∀ other result origin,
      Function.update system.calls call (.returned value) other = .replayed result origin →
      ∃ key, slot other = some key ∧ slot origin = some key ∧
        Function.update system.calls call (.returned value) origin = .returned result := by
    intro other result origin shown
    have different : other ≠ call := by
      rintro rfl
      rw [Function.update_self] at shown
      cases shown
    rw [Function.update_of_ne different] at shown
    obtain ⟨key, own, theirs, returned⟩ := origins.replayed other result origin shown
    exact ⟨key, own, theirs, others origin result returned⟩
  cases own : slot call with
  | none =>
      simp only [step, ready, own]
      refine ⟨?_, replayed, ?_⟩
      · intro key entry found
        obtain ⟨theirs, returned⟩ := origins.stored key entry found
        exact ⟨theirs, others entry.origin entry.value returned⟩
      · intro other result key shown theirs
        have different : other ≠ call := by
          rintro rfl
          cases own.symm.trans theirs
        change Function.update system.calls call (.returned value) other = _ at shown
        rw [Function.update_of_ne different] at shown
        exact origins.kept other result key shown theirs
  | some slotKey =>
      simp only [step, ready, own]
      refine ⟨?_, replayed, ?_⟩
      · intro key entry found
        change (system.cache.set slotKey ⟨value, call⟩).get? key = some entry at found
        rw [Dict.get?_set] at found
        split at found
        · rename_i same
          obtain rfl := Option.some.inj found
          exact ⟨same ▸ own, Function.update_self ..⟩
        · obtain ⟨theirs, returned⟩ := origins.stored key entry found
          exact ⟨theirs, others entry.origin entry.value returned⟩
      · intro other result key shown theirs
        change ((system.cache.set slotKey ⟨value, call⟩).get? key).isSome = true
        rw [Dict.get?_set]
        split
        · rfl
        · rename_i elsewhere
          have different : other ≠ call := by
            rintro rfl
            exact elsewhere (Option.some.inj (theirs.symm.trans own))
          change Function.update system.calls call (.returned value) other = _ at shown
          rw [Function.update_of_ne different] at shown
          exact origins.kept other result key shown theirs

theorem Origins.step (origins : Origins slot system) (event : Event β) :
    Origins slot (step slot system event) := by
  cases event with
  | lookup call =>
      cases phase : system.calls call with
      | idle =>
          have unreturned : ∀ value, system.calls call ≠ .returned value := by
            intro value returned
            cases phase.symm.trans returned
          cases found : (slot call).bind system.cache.get? with
          | none =>
              simp only [MemoizedCalls.step, phase, found]
              apply origins.setCall unreturned
              · rintro value ⟨⟩
              · rintro value origin ⟨⟩
          | some entry =>
              obtain ⟨key, own, there⟩ := Option.bind_eq_some_iff.mp found
              obtain ⟨theirs, returned⟩ := origins.stored key entry there
              simp only [MemoizedCalls.step, phase, found]
              apply origins.setCall unreturned
              · rintro value ⟨⟩
              · rintro value origin ⟨⟩
                exact ⟨key, own, theirs, returned⟩
      | _ =>
          simp only [MemoizedCalls.step, phase]
          exact origins
  | finish call outcome =>
      cases phase : system.calls call with
      | computing =>
          have unreturned : ∀ value, system.calls call ≠ .returned value := by
            intro value returned
            cases phase.symm.trans returned
          cases outcome with
          | none =>
              simp only [MemoizedCalls.step, phase]
              apply origins.setCall unreturned
              · rintro value ⟨⟩
              · rintro value origin ⟨⟩
          | some result =>
              simp only [MemoizedCalls.step, phase]
              apply origins.setCall unreturned
              · rintro value ⟨⟩
              · rintro value origin ⟨⟩
      | _ =>
          simp only [MemoizedCalls.step, phase]
          exact origins
  | store call =>
      cases phase : system.calls call with
      | computed value => exact origins.store phase
      | _ =>
          simp only [MemoizedCalls.step, phase]
          exact origins

/-- A step after which the same calls have run. -/
theorem ComputedOnce.of_same {after : System κ β} (once : ComputedOnce slot system)
    (same : ∀ call, (after.calls call).ran = (system.calls call).ran) :
    ComputedOnce slot after := by
  intro left right key atLeft atRight first second
  rw [same] at first second
  exact once atLeft atRight first second

theorem ran_setCall {call : Nat} {phase : Phase β} (same : phase.ran = (system.calls call).ran)
    (other : Nat) :
    ((system.setCall call phase).calls other).ran = (system.calls other).ran := by
  change (Function.update system.calls call phase other).ran = _
  by_cases mine : other = call
  · rw [mine, Function.update_self, same]
  · rw [Function.update_of_ne mine]

/-- Finishing a computation, with a value or without, keeps the promise exactly when it is done
alone. -/
theorem computedOnce_finish_iff (origins : Origins slot system) (once : ComputedOnce slot system)
    {call : Nat} {phase : Phase β} (computing : system.calls call = .computing)
    (ran : phase.ran = true) (outcome : Option β) :
    ComputedOnce slot (system.setCall call phase) ↔
      FinishesAlone slot system (.finish call outcome) := by
  have own : ((system.setCall call phase).calls call).ran = true := by
    change (Function.update system.calls call phase call).ran = true
    rw [Function.update_self]
    exact ran
  have others : ∀ other, other ≠ call →
      (system.setCall call phase).calls other = system.calls other :=
    fun other different => Function.update_of_ne different ..
  constructor
  · intro after _ key mine
    have blocked : ∀ other, slot other = some key → (system.calls other).ran = true → False := by
      intro other theirs earlier
      have different : other ≠ call := by
        rintro rfl
        rw [computing] at earlier
        cases earlier
      have both : ((system.setCall call phase).calls other).ran = true := by
        rw [others other different]
        exact earlier
      exact different (after theirs mine both own)
    constructor
    · cases found : system.cache.get? key with
      | none => rfl
      | some entry =>
          obtain ⟨theirs, returned⟩ := origins.stored key entry found
          exact (blocked entry.origin theirs (by rw [returned]; rfl)).elim
    · intro other theirs
      constructor
      · intro failed
        exact blocked other theirs (by rw [failed]; rfl)
      · intro value ready
        exact blocked other theirs (by rw [ready]; rfl)
  · intro alone
    have clear : ∀ other key, slot call = some key → slot other = some key →
        (system.calls other).ran ≠ true := by
      intro other key mine theirs earlier
      obtain ⟨empty, unready⟩ := alone computing key mine
      cases shown : system.calls other with
      | computed result => exact (unready other theirs).2 result shown
      | failed => exact (unready other theirs).1 shown
      | returned result =>
          have there := origins.kept other result key shown theirs
          rw [empty] at there
          cases there
      | _ =>
          rw [shown] at earlier
          cases earlier
    intro left right key atLeft atRight first second
    by_cases leftMine : left = call
    · by_cases rightMine : right = call
      · exact leftMine.trans rightMine.symm
      · rw [others right rightMine] at second
        exact absurd second (clear right key (leftMine ▸ atLeft) atRight)
    · rw [others left leftMine] at first
      by_cases rightMine : right = call
      · exact absurd first (clear left key (rightMine ▸ atRight) atLeft)
      · rw [others right rightMine] at second
        exact once atLeft atRight first second

theorem computedOnce_step_iff (origins : Origins slot system) (once : ComputedOnce slot system)
    (event : Event β) :
    ComputedOnce slot (step slot system event) ↔ FinishesAlone slot system event := by
  cases event with
  | lookup call =>
      refine iff_of_true ?_ trivial
      cases phase : system.calls call with
      | idle =>
          cases found : (slot call).bind system.cache.get? with
          | none =>
              simp only [step, phase, found]
              exact once.of_same (ran_setCall (by rw [phase]; rfl))
          | some entry =>
              simp only [step, phase, found]
              exact once.of_same (ran_setCall (by rw [phase]; rfl))
      | _ =>
          simp only [step, phase]
          exact once
  | finish call outcome =>
      cases phase : system.calls call with
      | computing =>
          cases outcome with
          | none =>
              simp only [step, phase]
              exact computedOnce_finish_iff origins once phase rfl none
          | some value =>
              simp only [step, phase]
              exact computedOnce_finish_iff origins once phase rfl (some value)
      | _ =>
          simp only [step, phase]
          apply iff_of_true once
          intro impossible
          cases phase.symm.trans impossible
  | store call =>
      refine iff_of_true ?_ trivial
      cases phase : system.calls call with
      | computed value =>
          cases own : slot call with
          | none =>
              simp only [step, phase, own]
              exact once.of_same (ran_setCall (by rw [phase]; rfl))
          | some key =>
              simp only [step, phase, own]
              exact once.of_same (ran_setCall (by rw [phase]; rfl))
      | _ =>
          simp only [step, phase]
          exact once

/-- Calls of one slot answer with one value, as long as the slot is computed once. -/
theorem ComputedOnce.answers_agree (once : ComputedOnce slot system)
    (origins : Origins slot system) {left right : Nat} {key : κ} {first second : β}
    (atLeft : slot left = some key) (atRight : slot right = some key)
    (answeredLeft : (system.calls left).answer = some first)
    (answeredRight : (system.calls right).answer = some second) : first = second := by
  -- either call has its answer from a call of the slot that has returned it
  have source : ∀ call value, slot call = some key → (system.calls call).answer = some value →
      ∃ origin, slot origin = some key ∧ system.calls origin = .returned value := by
    intro call value own answered
    cases phase : system.calls call with
    | returned result =>
        rw [phase] at answered
        obtain rfl := Option.some.inj answered
        exact ⟨call, own, phase⟩
    | replayed result origin =>
        rw [phase] at answered
        obtain rfl := Option.some.inj answered
        obtain ⟨found, mine, theirs, returned⟩ := origins.replayed call result origin phase
        obtain rfl := Option.some.inj (mine.symm.trans own)
        exact ⟨origin, theirs, returned⟩
    | _ =>
        rw [phase] at answered
        cases answered
  obtain ⟨one, oneSlot, oneReturned⟩ := source left first atLeft answeredLeft
  obtain ⟨two, twoSlot, twoReturned⟩ := source right second atRight answeredRight
  have same : one = two :=
    once oneSlot twoSlot (by rw [oneReturned]; rfl) (by rw [twoReturned]; rfl)
  rw [same, twoReturned] at oneReturned
  exact (Phase.returned.inj oneReturned).symm

end Steps

/-- A run computes every slot once exactly when each of its computations finishes alone. -/
theorem computedOnce_run_iff (slot : Nat → Option κ) (events : List (Event β)) :
    EveryState (step slot) System.start events (ComputedOnce slot) ↔
      EveryStep (step slot) System.start events (FinishesAlone slot) := by
  have steady : ∀ (system : System κ β) event, Origins slot system →
      Origins slot (step slot system event) := fun _ event origins => origins.step event
  exact everyState_iff_everyStep steady
    (fun _ event origins once => computedOnce_step_iff origins once event)
    origins_start computedOnce_start

theorem origins_run (slot : Nat → Option κ) (events : List (Event β)) :
    EveryState (step slot) System.start events (Origins slot) :=
  everyState_of_step (fun _ event origins => origins.step event) origins_start

end VpnSuite.Foundations.MemoizedCalls
