/-
Two runs compared step by step.

A relation between the states of two step functions that every step keeps relates whole
runs: what is observed at each step is the same, and some step of one run fires exactly when
some step of the other does.  For the second rule the relation need only be kept while
nothing has fired, so that it may speak about a run up to a first event.
-/

import VpnSuite.Foundations.StepRuns

set_option autoImplicit false

namespace VpnSuite.Foundations

variable {σ τ ι κ β : Type}

/-- Some step of the run fires, from the state it finds. -/
def SomeStep (step : σ → ι → σ) (start : σ) (items : List ι) (fires : σ → ι → Prop) : Prop :=
  ∃ earlier item later, items = earlier ++ item :: later ∧ fires (earlier.foldl step start) item

/-- What is observed at each step of a run, in its order. -/
def observations (step : σ → ι → σ) (observe : σ → ι → β) (start : σ) : List ι → List β
  | [] => []
  | item :: rest => observe start item :: observations step observe (step start item) rest

section Runs

variable {step : σ → ι → σ} {start : σ} {items : List ι} {fires : σ → ι → Prop}
  {other : τ → ι → τ} {begun : τ} {meets : τ → ι → Prop}

theorem someStep_nil : ¬ SomeStep step start [] fires := by
  intro some
  rcases some with ⟨earlier, item, later, split, _⟩
  simp at split

theorem someStep_cons {item : ι} :
    SomeStep step start (item :: items) fires ↔
      fires start item ∨ SomeStep step (step start item) items fires := by
  constructor
  · intro some
    rcases some with ⟨earlier, next, later, split, fired⟩
    cases earlier with
    | nil =>
        rcases List.cons.inj split with ⟨same, _⟩
        subst same
        exact Or.inl fired
    | cons first others =>
        rw [List.cons_append] at split
        rcases List.cons.inj split with ⟨same, tail⟩
        subst same
        exact Or.inr ⟨others, next, later, tail, fired⟩
  · intro cases
    rcases cases with here | rest
    · exact ⟨[], item, items, rfl, here⟩
    · rcases rest with ⟨earlier, next, later, split, fired⟩
      exact ⟨item :: earlier, next, later, by rw [split, List.cons_append], fired⟩

theorem everyStep_not_iff :
    EveryStep step start items (fun state item => ¬ fires state item) ↔
      ¬ SomeStep step start items fires := by
  constructor
  · intro every some
    rcases some with ⟨earlier, item, later, split, fired⟩
    exact every earlier item later split fired
  · intro none earlier item later split fired
    exact none ⟨earlier, item, later, split, fired⟩

/-- A relation that is kept as long as nothing fires. -/
theorem someStep_iff_of_related (related : σ → τ → Prop)
    (agree : ∀ left right, ∀ item ∈ items, related left right →
      (fires left item ↔ meets right item))
    (kept : ∀ left right, ∀ item ∈ items, related left right → ¬ fires left item →
      related (step left item) (other right item))
    (initial : related start begun) :
    SomeStep step start items fires ↔ SomeStep other begun items meets := by
  induction items generalizing start begun with
  | nil => exact iff_of_false someStep_nil someStep_nil
  | cons item rest ih =>
      have here : item ∈ item :: rest := List.mem_cons_self
      have inside {next : ι} (member : next ∈ rest) : next ∈ item :: rest :=
        List.mem_cons_of_mem item member
      rw [someStep_cons, someStep_cons, ← agree start begun item here initial]
      by_cases fired : fires start item
      · exact iff_of_true (Or.inl fired) (Or.inl fired)
      · rw [or_iff_right fired, or_iff_right fired]
        apply ih
        · intro left right next member
          exact agree left right next (inside member)
        · intro left right next member
          exact kept left right next (inside member)
        · exact kept start begun item here initial fired

section Related

variable {observe : σ → ι → β} {shows : τ → ι → β} {allowed : σ → ι → Prop}

/-- Steps that are allowed keep the relation, and so do runs of them. -/
theorem foldl_related (related : σ → τ → Prop)
    (kept : ∀ left right item, related left right → allowed left item →
      related (step left item) (other right item))
    (initial : related start begun) (every : EveryStep step start items allowed) :
    related (items.foldl step start) (items.foldl other begun) := by
  induction items generalizing start begun with
  | nil => exact initial
  | cons item rest ih =>
      rcases everyStep_cons.mp every with ⟨here, later⟩
      exact ih (kept start begun item initial here) later

/-- Related states show the same at a step that is allowed, and so do runs of them. -/
theorem observations_eq_of_related (related : σ → τ → Prop)
    (agree : ∀ left right item, related left right → allowed left item →
      observe left item = shows right item)
    (kept : ∀ left right item, related left right → allowed left item →
      related (step left item) (other right item))
    (initial : related start begun) (every : EveryStep step start items allowed) :
    observations step observe start items = observations other shows begun items := by
  induction items generalizing start begun with
  | nil => rfl
  | cons item rest ih =>
      rcases everyStep_cons.mp every with ⟨here, later⟩
      unfold observations
      rw [agree start begun item initial here, ih (kept start begun item initial here) later]

theorem observations_map (view : κ → ι) (items : List κ) :
    observations step observe start (items.map view) =
      observations (fun state item => step state (view item))
        (fun state item => observe state (view item)) start items := by
  induction items generalizing start with
  | nil => rfl
  | cons item rest ih =>
      rw [List.map_cons]
      unfold observations
      rw [ih]

end Related

theorem everyStep_true : EveryStep step start items (fun _ _ => True) := by
  intro earlier item later split
  trivial

end Runs

end VpnSuite.Foundations
