/-
Runs of a step function over a list of inputs.

A run is a left fold.  `EveryStep` speaks about each step together with the state it
finds, `EveryState` about each state a run passes through.  When one step keeps an
invariant exactly under a condition, a run keeps it exactly when each of its steps meets
the condition.
-/

import Mathlib.Data.List.Basic

set_option autoImplicit false

namespace VpnSuite.Foundations

variable {σ ι : Type}

/-- Each step of the run, from the state it finds. -/
def EveryStep (step : σ → ι → σ) (start : σ) (items : List ι) (holds : σ → ι → Prop) : Prop :=
  ∀ earlier item later, items = earlier ++ item :: later → holds (earlier.foldl step start) item

/-- Each state of the run, the first and the last included. -/
def EveryState (step : σ → ι → σ) (start : σ) (items : List ι) (holds : σ → Prop) : Prop :=
  ∀ earlier later, items = earlier ++ later → holds (earlier.foldl step start)

section Runs

variable {step : σ → ι → σ} {start : σ} {items : List ι} {holds : σ → Prop}
  {allowed : σ → ι → Prop}

theorem everyStep_nil : EveryStep step start [] allowed := by
  intro earlier item later split
  simp at split

theorem everyStep_cons {item : ι} :
    EveryStep step start (item :: items) allowed ↔
      allowed start item ∧ EveryStep step (step start item) items allowed := by
  constructor
  · intro every
    refine ⟨every [] item items rfl, ?_⟩
    intro earlier next later split
    exact every (item :: earlier) next later (by rw [split, List.cons_append])
  · rintro ⟨here, rest⟩ earlier next later split
    cases earlier with
    | nil =>
        obtain ⟨rfl, _⟩ := List.cons.inj split
        exact here
    | cons first others =>
        rw [List.cons_append] at split
        obtain ⟨rfl, tail⟩ := List.cons.inj split
        exact rest others next later tail

theorem everyStep_append {later : List ι} :
    EveryStep step start (items ++ later) allowed ↔
      EveryStep step start items allowed ∧ EveryStep step (items.foldl step start) later allowed := by
  induction items generalizing start with
  | nil => exact (and_iff_right everyStep_nil).symm
  | cons item rest ih =>
      rw [List.cons_append, everyStep_cons, everyStep_cons, ih, List.foldl_cons, and_assoc]

theorem everyState_cons {item : ι} :
    EveryState step start (item :: items) holds ↔
      holds start ∧ EveryState step (step start item) items holds := by
  constructor
  · intro every
    refine ⟨every [] (item :: items) rfl, ?_⟩
    intro earlier later split
    exact every (item :: earlier) later (by rw [split, List.cons_append])
  · rintro ⟨here, rest⟩ earlier later split
    cases earlier with
    | nil => exact here
    | cons first others =>
        rw [List.cons_append] at split
        obtain ⟨rfl, tail⟩ := List.cons.inj split
        exact rest others later tail

theorem EveryState.start_holds (every : EveryState step start items holds) : holds start :=
  every [] items rfl

theorem EveryState.imp {stronger : σ → Prop} (every : EveryState step start items stronger)
    (weaken : ∀ {state}, stronger state → holds state) : EveryState step start items holds := by
  intro earlier later split
  exact weaken (every earlier later split)

/-- A step that keeps the invariant under a condition: runs that meet it keep the invariant. -/
theorem EveryStep.keeps (kept : ∀ state item, holds state → allowed state item →
      holds (step state item))
    (initial : holds start) (every : EveryStep step start items allowed) :
    EveryState step start items holds := by
  induction items generalizing start with
  | nil =>
      intro earlier later split
      obtain ⟨rfl, _⟩ := List.append_eq_nil_iff.mp split.symm
      exact initial
  | cons item rest ih =>
      obtain ⟨here, later⟩ := everyStep_cons.mp every
      exact everyState_cons.mpr ⟨initial, ih (kept start item initial here) later⟩

/-- An invariant of every step is one of every run. -/
theorem everyState_of_step (kept : ∀ state item, holds state → holds (step state item))
    (initial : holds start) : EveryState step start items holds := by
  apply EveryStep.keeps (fun state item held (_ : True) => kept state item held) initial
  intro earlier item later split
  trivial

/-- A step that keeps the invariant exactly under a condition, against a background that
every step keeps. -/
theorem everyState_iff_everyStep {background : σ → Prop}
    (steady : ∀ state item, background state → background (step state item))
    (exact_step : ∀ state item, background state → holds state →
      (holds (step state item) ↔ allowed state item))
    (grounded : background start) (initial : holds start) :
    EveryState step start items holds ↔ EveryStep step start items allowed := by
  constructor
  · intro every
    induction items generalizing start with
    | nil => exact everyStep_nil
    | cons item rest ih =>
        obtain ⟨_, later⟩ := everyState_cons.mp every
        have here := (exact_step start item grounded initial).mp later.start_holds
        exact everyStep_cons.mpr ⟨here, ih (steady start item grounded) later.start_holds later⟩
  · intro every
    have both : EveryState step start items (fun state => background state ∧ holds state) :=
      every.keeps (fun state item held permitted => ⟨steady state item held.1,
        (exact_step state item held.1 held.2).mpr permitted⟩) ⟨grounded, initial⟩
    exact both.imp And.right

/-- A law of steps next to an invariant: when a step obeys both exactly under a condition, a
run does exactly when each of its steps meets the condition. -/
theorem everyStep_and_everyState_iff {law : σ → ι → Prop}
    (exact_step : ∀ state item, holds state →
      (law state item ∧ holds (step state item) ↔ allowed state item))
    (initial : holds start) :
    EveryStep step start items law ∧ EveryState step start items holds ↔
      EveryStep step start items allowed := by
  constructor
  · rintro ⟨lawful, every⟩ earlier item later split
    have before := every earlier (item :: later) split
    have after := every (earlier ++ [item]) later (by rw [split, List.append_assoc]; rfl)
    rw [List.foldl_append] at after
    exact (exact_step _ item before).mp ⟨lawful earlier item later split, after⟩
  · intro every
    have kept : EveryState step start items holds :=
      every.keeps (fun state item held permitted =>
        ((exact_step state item held).mpr permitted).2) initial
    refine ⟨?_, kept⟩
    intro earlier item later split
    have before := kept earlier (item :: later) split
    exact ((exact_step _ item before).mpr (every earlier item later split)).1

/-- Inputs read through a function. -/
theorem everyStep_map {κ : Type} {read : κ → ι} {inputs : List κ} :
    EveryStep step start (inputs.map read) allowed ↔
      EveryStep (fun state input => step state (read input)) start inputs
        (fun state input => allowed state (read input)) := by
  induction inputs generalizing start with
  | nil => exact iff_of_true everyStep_nil everyStep_nil
  | cons input rest ih => rw [List.map_cons, everyStep_cons, everyStep_cons, ih]

theorem everyState_map {κ : Type} {read : κ → ι} {inputs : List κ} :
    EveryState step start (inputs.map read) holds ↔
      EveryState (fun state input => step state (read input)) start inputs holds := by
  induction inputs generalizing start with
  | nil =>
      constructor <;> intro every earlier later split
      · obtain ⟨rfl, rfl⟩ := List.append_eq_nil_iff.mp split.symm
        exact every.start_holds
      · obtain ⟨rfl, rfl⟩ := List.append_eq_nil_iff.mp split.symm
        exact every.start_holds
  | cons input rest ih => rw [List.map_cons, everyState_cons, everyState_cons, ih]

variable (holds) in
/-- What holds at the start and not at the end is left in some step. -/
theorem exists_leaving_step (initial : holds start) (final : ¬ holds (items.foldl step start)) :
    ∃ earlier item later, items = earlier ++ item :: later ∧ holds (earlier.foldl step start) ∧
      ¬ holds (step (earlier.foldl step start) item) := by
  induction items generalizing start with
  | nil => exact absurd initial final
  | cons item rest ih =>
      by_cases kept : holds (step start item)
      · obtain ⟨earlier, left, later, split, before, after⟩ := ih kept final
        exact ⟨item :: earlier, left, later, by rw [split, List.cons_append], before, after⟩
      · exact ⟨[], item, rest, rfl, initial, kept⟩

/-- Seen through a view, a run is the run of those inputs alone that can move the view. -/
theorem view_foldl_filter {β : Type} (view : σ → β) (moves : ι → Bool)
    (still : ∀ state, ∀ item ∈ items, moves item = false → view (step state item) = view state)
    (steered : ∀ left right, ∀ item ∈ items, moves item = true → view left = view right →
      view (step left item) = view (step right item))
    {other : σ} (agree : view start = view other) :
    view (items.foldl step start) = view ((items.filter moves).foldl step other) := by
  induction items generalizing start other with
  | nil => exact agree
  | cons item rest ih =>
      have later {left right : σ} (agreed : view left = view right) :
          view (rest.foldl step left) = view ((rest.filter moves).foldl step right) :=
        ih (fun state next member => still state next (List.mem_cons_of_mem item member))
          (fun first second next member =>
            steered first second next (List.mem_cons_of_mem item member)) agreed
      rw [List.foldl_cons, List.filter_cons]
      split
      · rename_i moved
        rw [List.foldl_cons]
        exact later (steered start other item List.mem_cons_self moved agree)
      · rename_i unmoved
        rw [Bool.not_eq_true] at unmoved
        exact later ((still start item List.mem_cons_self unmoved).trans agree)

/-- A computable condition, checked along the run. -/
def stepsAll (step : σ → ι → σ) (test : σ → ι → Bool) : σ → List ι → Bool
  | _, [] => true
  | state, item :: rest => test state item && stepsAll step test (step state item) rest

theorem everyStep_iff_stepsAll {test : σ → ι → Bool} :
    EveryStep step start items (fun state item => test state item = true) ↔
      stepsAll step test start items = true := by
  induction items generalizing start with
  | nil => exact iff_of_true everyStep_nil rfl
  | cons item rest ih => rw [everyStep_cons, ih, stepsAll, Bool.and_eq_true]

end Runs

end VpnSuite.Foundations
