/-
Programs that change a state and may raise.

What a program did before it raised stays done.  A call to something outside either raises
and leaves the state alone, or takes effect; a handler goes on from the state the body has
reached.  The rules say when the state, or the part of it a view shows, is kept.

The state, the errors and the views are arbitrary.
-/

import Mathlib.Logic.Basic

set_option autoImplicit false

namespace VpnSuite.Foundations

def Raising (σ ε α : Type) : Type := σ → Except ε α × σ

namespace Raising

variable {σ ε δ α β ν : Type}

instance : Monad (Raising σ ε) where
  pure value := fun state => (.ok value, state)
  bind first next := fun state =>
    match first state with
    | (.ok value, after) => next value after
    | (.error error, after) => (.error error, after)

def raise (error : ε) : Raising σ ε α := fun state => (.error error, state)

def check (condition : Bool) (error : ε) : Raising σ ε Unit :=
  if condition then pure () else raise error

def write (effect : σ → σ) : Raising σ ε Unit := fun state => (.ok (), effect state)

/-- A call that raises, or takes effect. -/
def call (raised : Option ε) (effect : σ → σ) : Raising σ ε Unit :=
  match raised with
  | some error => raise error
  | none => write effect

/-- A question to the state, which may raise. -/
def query (answer : σ → Except ε α) : Raising σ ε α := fun state => (answer state, state)

def read (view : σ → α) : Raising σ ε α := query (fun state => .ok (view state))

/-- `try body except handler`. -/
def attempt (body : Raising σ ε α) (handler : ε → Raising σ δ α) : Raising σ δ α := fun state =>
  match body state with
  | (.ok value, after) => (.ok value, after)
  | (.error error, after) => handler error after

/-! ### What a program does, step by step -/

@[simp] theorem pure_run (value : α) (state : σ) :
    (pure value : Raising σ ε α) state = (.ok value, state) := rfl

@[simp] theorem raise_run (error : ε) (state : σ) :
    (raise error : Raising σ ε α) state = (.error error, state) := rfl

@[simp] theorem write_run (effect : σ → σ) (state : σ) :
    (write effect : Raising σ ε Unit) state = (.ok (), effect state) := rfl

@[simp] theorem query_run (answer : σ → Except ε α) (state : σ) :
    query answer state = (answer state, state) := rfl

@[simp] theorem read_run (view : σ → α) (state : σ) :
    (read view : Raising σ ε α) state = (.ok (view state), state) := rfl

@[simp] theorem call_some (error : ε) (effect : σ → σ) : call (some error) effect = raise error :=
  rfl

@[simp] theorem call_none (effect : σ → σ) : (call none effect : Raising σ ε Unit) = write effect :=
  rfl

@[simp] theorem check_true (error : ε) : (check true error : Raising σ ε Unit) = pure () := rfl

@[simp] theorem check_false (error : ε) : (check false error : Raising σ ε Unit) = raise error :=
  rfl

@[simp] theorem pure_bind_eq (value : α) (next : α → Raising σ ε β) :
    (pure value >>= next) = next value := rfl

@[simp] theorem raise_bind (error : ε) (next : α → Raising σ ε β) :
    (raise error >>= next) = raise error := rfl

@[simp] theorem write_bind_run (effect : σ → σ) (next : Unit → Raising σ ε β) (state : σ) :
    (write effect >>= next) state = next () (effect state) := rfl

@[simp] theorem attempt_pure (value : α) (handler : ε → Raising σ δ α) :
    attempt (pure value) handler = pure value := rfl

@[simp] theorem attempt_raise (error : ε) (handler : ε → Raising σ δ α) :
    attempt (raise error) handler = handler error := rfl

@[simp] theorem attempt_write (effect : σ → σ) (handler : ε → Raising σ δ Unit) :
    attempt (write effect) handler = write effect := rfl

/-! ### Sequences -/

section Sequences

variable {first : Raising σ ε α} {next : α → Raising σ ε β} {state after : σ}

/-- A sequence goes on from where its first part ended, or ends there. -/
theorem bind_cases (first : Raising σ ε α) (next : α → Raising σ ε β) (state : σ) :
    (∃ value, (first state).1 = .ok value ∧
      (first >>= next) state = next value (first state).2) ∨
    ∃ error, (first state).1 = .error error ∧
      (first >>= next) state = (.error error, (first state).2) := by
  cases ran : first state with
  | mk result reached =>
      cases result with
      | ok value =>
          refine Or.inl ⟨value, rfl, ?_⟩
          simp only [bind, ran]
      | error error =>
          refine Or.inr ⟨error, rfl, ?_⟩
          simp only [bind, ran]

theorem bind_eq_ok {result : β} :
    (first >>= next) state = (.ok result, after) ↔
      ∃ value between, first state = (.ok value, between) ∧
        next value between = (.ok result, after) := by
  constructor
  · intro ran
    obtain ⟨value, ended, goesOn⟩ | ⟨error, ended, stops⟩ := bind_cases first next state
    · exact ⟨value, (first state).2, Prod.ext ended rfl, goesOn.symm.trans ran⟩
    · rw [stops] at ran
      cases ran
  · rintro ⟨value, between, ran, rest⟩
    simp only [bind, ran, rest]

theorem bind_run_ok {value : α} {between : σ} (ran : first state = (.ok value, between)) :
    (first >>= next) state = next value between := by
  simp only [bind, ran]

theorem bind_run_error {error : ε} {between : σ} (ran : first state = (.error error, between)) :
    (first >>= next) state = (.error error, between) := by
  simp only [bind, ran]

theorem attempt_run_ok {body : Raising σ ε α} {handler : ε → Raising σ δ α} {value : α}
    (ran : body state = (.ok value, after)) : attempt body handler state = (.ok value, after) := by
  simp only [attempt, ran]

theorem attempt_run_error {body : Raising σ ε α} {handler : ε → Raising σ δ α} {error : ε}
    (ran : body state = (.error error, after)) :
    attempt body handler state = handler error after := by
  simp only [attempt, ran]

theorem check_eq_ok {condition : Bool} {error : ε} {value : Unit} :
    check condition error state = (.ok value, after) ↔ condition = true ∧ state = after := by
  cases condition with
  | true => simp
  | false => simp

end Sequences

/-! ### Programs that only read -/

/-- The program leaves the state as it is, however it ends. -/
def ReadOnly (program : Raising σ ε α) : Prop := ∀ state, (program state).2 = state

theorem readOnly_check (condition : Bool) (error : ε) :
    ReadOnly (check condition error : Raising σ ε Unit) := by
  intro state
  cases condition <;> rfl

theorem readOnly_query (answer : σ → Except ε α) : ReadOnly (query answer) := fun _ => rfl

theorem ReadOnly.bind {first : Raising σ ε α} {next : α → Raising σ ε β} (reads : ReadOnly first)
    (rest : ∀ value, ReadOnly (next value)) : ReadOnly (first >>= next) := by
  intro state
  obtain ⟨value, _, goesOn⟩ | ⟨error, _, stops⟩ := bind_cases first next state
  · rw [goesOn, rest, reads]
  · rw [stops]
    exact reads state

/-- A program that begins by reading goes on from the same state, or ends there. -/
theorem ReadOnly.bind_cases {first : Raising σ ε α} (reads : ReadOnly first)
    (next : α → Raising σ ε β) (state : σ) :
    (∃ value, first state = (.ok value, state) ∧ (first >>= next) state = next value state) ∨
      ∃ error, (first >>= next) state = (.error error, state) := by
  obtain ⟨value, ended, goesOn⟩ | ⟨error, _, stops⟩ := Raising.bind_cases first next state
  · rw [reads] at goesOn
    exact Or.inl ⟨value, Prod.ext ended (reads state), goesOn⟩
  · rw [reads] at stops
    exact Or.inr ⟨error, stops⟩

/-! ### What an error leaves -/

/-- If the run raised, what it left satisfies the condition. -/
def KeptOnError (kept : σ → Prop) (run : Except ε α × σ) : Prop :=
  ∀ error, run.1 = .error error → kept run.2

theorem keptOnError_error_iff {kept : σ → Prop} {error : ε} {after : σ} :
    KeptOnError kept ((.error error, after) : Except ε α × σ) ↔ kept after := by
  constructor
  · intro keeps
    exact keeps error rfl
  · intro isKept other _
    exact isKept

theorem keptOnError_ok (kept : σ → Prop) (value : α) (after : σ) :
    KeptOnError kept ((.ok value, after) : Except ε α × σ) := nofun

theorem not_keptOnError {kept : σ → Prop} {run : Except ε α × σ} (raised : run.1.toBool = false)
    (lost : ¬ kept run.2) : ¬ KeptOnError kept run := by
  intro keeps
  cases outcome : run.1 with
  | ok value =>
      rw [outcome] at raised
      cases raised
  | error error => exact lost (keeps error outcome)

end Raising

end VpnSuite.Foundations
