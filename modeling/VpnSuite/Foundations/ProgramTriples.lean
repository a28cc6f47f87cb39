/-
Pre- and postconditions of programs that change a state and may raise.

A triple says what holds when the program returns, and what holds of the state it leaves when it
raises.  There is one rule a construct.  What a program keeps however it ends, a run of such
programs keeps.
-/

import VpnSuite.Foundations.RaisingPrograms

set_option autoImplicit false

namespace VpnSuite.Foundations

namespace Raising

variable {σ ε δ α β ι : Type}

/-- From states with the precondition: what is returned, and what is left by raising. -/
structure Triple (pre : σ → Prop) (program : Raising σ ε α) (post : α → σ → Prop)
    (left : ε → σ → Prop) : Prop where
  returns : ∀ state value after, pre state → program state = (.ok value, after) →
    post value after
  raises : ∀ state error after, pre state → program state = (.error error, after) →
    left error after

/-- The program keeps the condition, however it ends. -/
def Keeps (kept : σ → Prop) (program : Raising σ ε α) : Prop :=
  Triple kept program (fun _ => kept) (fun _ => kept)

/-- What a program leaves, whether it returns or raises. -/
def leaves (program : ι → Raising σ ε α) (state : σ) (item : ι) : σ := (program item state).2

section Rules

variable {pre kept : σ → Prop} {left : ε → σ → Prop}

theorem triple_pure {post : α → σ → Prop} (value : α)
    (holds : ∀ state, pre state → post value state) :
    Triple pre (pure value : Raising σ ε α) post left where
  returns := by
    intro state _ after before ran
    cases ran
    exact holds state before
  raises := by
    intro state error after _ ran
    cases ran

theorem triple_raise {post : α → σ → Prop} (error : ε)
    (holds : ∀ state, pre state → left error state) :
    Triple pre (raise error : Raising σ ε α) post left where
  returns := by
    intro state value after _ ran
    cases ran
  raises := by
    intro state _ after before ran
    cases ran
    exact holds state before

theorem triple_write {post : Unit → σ → Prop} (effect : σ → σ)
    (holds : ∀ state, pre state → post () (effect state)) :
    Triple pre (write effect : Raising σ ε Unit) post left where
  returns := by
    intro state _ after before ran
    cases ran
    exact holds state before
  raises := by
    intro state error after _ ran
    cases ran

theorem triple_query {post : α → σ → Prop} (answer : σ → Except ε α)
    (holds : ∀ state value, pre state → answer state = .ok value → post value state)
    (refuses : ∀ state error, pre state → answer state = .error error → left error state) :
    Triple pre (query answer) post left where
  returns := by
    intro state value after before ran
    rw [query_run, Prod.mk.injEq] at ran
    rw [← ran.2]
    exact holds state value before ran.1
  raises := by
    intro state error after before ran
    rw [query_run, Prod.mk.injEq] at ran
    rw [← ran.2]
    exact refuses state error before ran.1

theorem triple_read {post : α → σ → Prop} (view : σ → α)
    (holds : ∀ state, pre state → post (view state) state) :
    Triple pre (read view : Raising σ ε α) post left := by
  apply triple_query
  · intro state value before answered
    cases answered
    exact holds state before
  · intro state error _ answered
    cases answered

theorem triple_check {post : Unit → σ → Prop} (condition : Bool) (error : ε)
    (holds : ∀ state, pre state → condition = true → post () state)
    (refuses : ∀ state, pre state → condition = false → left error state) :
    Triple pre (check condition error : Raising σ ε Unit) post left := by
  cases condition with
  | true => exact triple_pure () (fun state before => holds state before rfl)
  | false => exact triple_raise error (fun state before => refuses state before rfl)

theorem Triple.bind {mid : α → σ → Prop} {post : β → σ → Prop} {first : Raising σ ε α}
    {next : α → Raising σ ε β} (opening : Triple pre first mid left)
    (rest : ∀ value, Triple (mid value) (next value) post left) :
    Triple pre (first >>= next) post left where
  returns := by
    intro state value after before ran
    rcases bind_eq_ok.mp ran with ⟨given, between, began, ended⟩
    exact (rest given).returns between value after
      (opening.returns state given between before began) ended
  raises := by
    intro state error after before ran
    rcases bind_cases first next state with goes | stops
    · rcases goes with ⟨given, began, goesOn⟩
      rw [goesOn] at ran
      exact (rest given).raises _ error after
        (opening.returns state given _ before (Prod.ext began rfl)) ran
    · rcases stops with ⟨raised, began, stopped⟩
      rw [stopped] at ran
      cases ran
      exact opening.raises state error _ before (Prod.ext began rfl)

theorem Triple.attempt {mid : ε → σ → Prop} {post : α → σ → Prop} {later : δ → σ → Prop}
    {body : Raising σ ε α} {handler : ε → Raising σ δ α} (opening : Triple pre body post mid)
    (rest : ∀ error, Triple (mid error) (handler error) post later) :
    Triple pre (attempt body handler) post later where
  returns := by
    intro state value after before ran
    cases began : body state with
    | mk result between =>
        cases result with
        | ok given =>
            rw [attempt_run_ok began] at ran
            cases ran
            exact opening.returns state value after before began
        | error error =>
            rw [attempt_run_error began] at ran
            exact (rest error).returns between value after
              (opening.raises state error between before began) ran
  raises := by
    intro state error after before ran
    cases began : body state with
    | mk result between =>
        cases result with
        | ok given =>
            rw [attempt_run_ok began] at ran
            cases ran
        | error given =>
            rw [attempt_run_error began] at ran
            exact (rest given).raises between error after
              (opening.raises state given between before began) ran

/-- A stronger precondition, weaker postconditions. -/
theorem Triple.weaken {pre' : σ → Prop} {post post' : α → σ → Prop} {left' : ε → σ → Prop}
    {program : Raising σ ε α} (triple : Triple pre program post left)
    (stronger : ∀ state, pre' state → pre state)
    (returned : ∀ value state, post value state → post' value state)
    (raised : ∀ error state, left error state → left' error state) :
    Triple pre' program post' left' where
  returns := by
    intro state value after before ran
    exact returned value after (triple.returns state value after (stronger state before) ran)
  raises := by
    intro state error after before ran
    exact raised error after (triple.raises state error after (stronger state before) ran)

/-- A program that never raises. -/
theorem Triple.orElse {post : α → σ → Prop} {program : Raising σ ε α}
    (triple : Triple pre program post (fun _ _ => False)) (left' : ε → σ → Prop) :
    Triple pre program post left' :=
  triple.weaken (fun _ before => before) (fun _ _ after => after) (fun _ _ => False.elim)

/-- What the precondition says besides the state may be assumed. -/
theorem Triple.given {fact : Prop} {post : α → σ → Prop} {program : Raising σ ε α}
    (triple : fact → Triple pre program post left) :
    Triple (fun state => pre state ∧ fact) program post left where
  returns := by
    intro state value after before ran
    exact (triple before.2).returns state value after before.1 ran
  raises := by
    intro state error after before ran
    exact (triple before.2).raises state error after before.1 ran

/-- A question whose answer is known. -/
theorem Triple.answer {post : β → σ → Prop} {answer : Except ε α} {value : α}
    {next : α → Raising σ ε β} (known : answer = .ok value)
    (rest : Triple pre (next value) post left) :
    Triple pre (query (fun _ => answer) >>= next) post left := by
  rw [known]
  exact rest

/-- What is read is known from the precondition. -/
theorem Triple.knows {post : β → σ → Prop} {view : σ → α} {value : α}
    {next : α → Raising σ ε β} (known : ∀ state, pre state → view state = value)
    (rest : Triple pre (next value) post left) :
    Triple pre (read view >>= next) post left := by
  have seen : Triple pre (read view) (fun found state => pre state ∧ found = value) left :=
    triple_read view (fun state before => ⟨before, known state before⟩)
  apply seen.bind
  intro found
  apply Triple.given
  intro same
  rw [same]
  exact rest

theorem keeps_write {effect : σ → σ} (holds : ∀ state, kept state → kept (effect state)) :
    Keeps kept (write effect : Raising σ ε Unit) :=
  triple_write effect holds

theorem keeps_query (answer : σ → Except ε α) : Keeps kept (query answer) := by
  apply triple_query
  · intro state value before _
    exact before
  · intro state error before _
    exact before

theorem keeps_check (condition : Bool) (error : ε) :
    Keeps kept (check condition error : Raising σ ε Unit) := by
  apply triple_check
  · intro state before _
    exact before
  · intro state before _
    exact before

theorem keeps_pure (value : α) : Keeps kept (pure value : Raising σ ε α) :=
  triple_pure value (fun _ before => before)

theorem keeps_raise (error : ε) : Keeps kept (raise error : Raising σ ε α) :=
  triple_raise error (fun _ before => before)

theorem Keeps.bind {first : Raising σ ε α} {next : α → Raising σ ε β} (opening : Keeps kept first)
    (rest : ∀ value, Keeps kept (next value)) : Keeps kept (first >>= next) :=
  Triple.bind opening rest

theorem Keeps.attempt {body : Raising σ ε α} {handler : ε → Raising σ δ α}
    (opening : Keeps kept body) (rest : ∀ error, Keeps kept (handler error)) :
    Keeps kept (attempt body handler) :=
  Triple.attempt opening rest

/-- What holds however the program ends. -/
theorem Triple.leaves {post : σ → Prop} {program : Raising σ ε α}
    (triple : Triple pre program (fun _ => post) (fun _ => post)) {state : σ}
    (before : pre state) : post (program state).2 := by
  cases ran : program state with
  | mk result after =>
      cases result with
      | ok value => exact triple.returns state value after before ran
      | error error => exact triple.raises state error after before ran

theorem Keeps.leaves {program : Raising σ ε α} (keeps : Keeps kept program) {state : σ}
    (before : kept state) : kept (program state).2 :=
  Triple.leaves keeps before

/-- Programs that keep a condition keep it over a run of them. -/
theorem foldl_of_keeps {program : ι → Raising σ ε α} {items : List ι} {start : σ}
    (keeps : ∀ item ∈ items, Keeps kept (program item)) (initial : kept start) :
    kept (items.foldl (leaves program) start) := by
  induction items generalizing start with
  | nil => exact initial
  | cons item rest ih =>
      apply ih
      · intro other member
        exact keeps other (List.mem_cons_of_mem item member)
      · exact (keeps item List.mem_cons_self).leaves initial

end Rules

end Raising

end VpnSuite.Foundations
