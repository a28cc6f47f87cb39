/-
Latches that runs of a step function close and never open.

What fires needs an open latch and closes it, so that it fires once at most.  A latch is open
at the end of a run exactly when it was at the start and no step closed it.

A flag goes up and down; where a run leaves it depends on what raised it last.
-/

import VpnSuite.Foundations.StepRuns

set_option autoImplicit false

namespace VpnSuite.Foundations

variable {σ ι : Type}

/-- A latch, and the steps that close it. -/
structure Latch (step : σ → ι → σ) (isOpen : σ → Prop) (closing : σ → ι → Prop) : Prop where
  open_step : ∀ state item, isOpen (step state item) ↔ isOpen state ∧ ¬ closing state item

/-- Steps that need the latch open, close it, and are counted. -/
structure Firing (step : σ → ι → σ) (isOpen : σ → Prop) (closing fires : σ → ι → Prop)
    (count : σ → Nat) : Prop where
  needs : ∀ state item, fires state item → isOpen state
  closes : ∀ state item, fires state item → closing state item
  fired : ∀ state item, fires state item → count (step state item) = count state + 1
  idle : ∀ state item, ¬ fires state item → count (step state item) = count state

section Latches

variable {step : σ → ι → σ} {isOpen : σ → Prop} {closing fires : σ → ι → Prop} {count : σ → Nat}
  {start : σ} {items : List ι}

theorem Latch.open_run (latch : Latch step isOpen closing) :
    isOpen (items.foldl step start) ↔
      isOpen start ∧ EveryStep step start items (fun state item => ¬ closing state item) := by
  induction items generalizing start with
  | nil => exact (and_iff_left everyStep_nil).symm
  | cons item rest ih =>
      rw [List.foldl_cons, ih, latch.open_step, everyStep_cons, and_assoc]

/-- A closed latch stays closed, so that nothing fires any more. -/
theorem Firing.count_of_closed (firing : Firing step isOpen closing fires count)
    (latch : Latch step isOpen closing) (closed : ¬ isOpen start) :
    count (items.foldl step start) = count start ∧
      EveryStep step start items (fun state item => ¬ fires state item) := by
  induction items generalizing start with
  | nil => exact ⟨rfl, everyStep_nil⟩
  | cons item rest ih =>
      have quiet : ¬ fires start item := fun fires => closed (firing.needs start item fires)
      have still : ¬ isOpen (step start item) := fun opened =>
        closed ((latch.open_step start item).mp opened).1
      obtain ⟨later, laterQuiet⟩ := ih still
      exact ⟨later.trans (firing.idle start item quiet), everyStep_cons.mpr ⟨quiet, laterQuiet⟩⟩

/-- A run counts one more exactly when some step of it fires. -/
theorem Firing.count_run (firing : Firing step isOpen closing fires count)
    (latch : Latch step isOpen closing) :
    count (items.foldl step start) = count start + 1 ↔
      ∃ earlier item later, items = earlier ++ item :: later ∧
        fires (earlier.foldl step start) item := by
  have counted : (count (items.foldl step start) = count start ∧
        EveryStep step start items (fun state item => ¬ fires state item)) ∨
      (count (items.foldl step start) = count start + 1 ∧
        ¬ EveryStep step start items (fun state item => ¬ fires state item)) := by
    induction items generalizing start with
    | nil => exact Or.inl ⟨rfl, everyStep_nil⟩
    | cons item rest ih =>
        by_cases now : fires start item
        · have still : ¬ isOpen (step start item) := fun opened =>
            ((latch.open_step start item).mp opened).2 (firing.closes start item now)
          obtain ⟨later, _⟩ := @Firing.count_of_closed _ _ _ _ _ _ _ _ rest firing latch still
          right
          rw [List.foldl_cons, later, firing.fired start item now]
          exact ⟨rfl, fun every => (everyStep_cons.mp every).1 now⟩
        · rw [List.foldl_cons, everyStep_cons, ← firing.idle start item now]
          rcases @ih (step start item) with ⟨same, quiet⟩ | ⟨more, some⟩
          · exact Or.inl ⟨same, now, quiet⟩
          · exact Or.inr ⟨more, fun both => some both.2⟩
  have exists_iff : (∃ earlier item later, items = earlier ++ item :: later ∧
        fires (earlier.foldl step start) item) ↔
      ¬ EveryStep step start items (fun state item => ¬ fires state item) := by
    simp only [EveryStep, not_forall, not_not, exists_prop]
  rw [exists_iff]
  rcases counted with ⟨same, quiet⟩ | ⟨more, some⟩
  · exact iff_of_false (by omega) (not_not_intro quiet)
  · exact iff_of_true more some

end Latches

/-! ### Flags that some steps raise and others lower -/

/-- A flag that a raising step raises and a lowering step lowers. -/
structure Flag (step : σ → ι → σ) (isUp : σ → Prop) (raising : σ → ι → Prop)
    (lowering : ι → Prop) : Prop where
  up_step : ∀ state item, isUp (step state item) ↔
    raising state item ∨ (isUp state ∧ ¬ lowering item)

/-- The flag is up at the end exactly when a step raised it that no lowering step follows, or
it was up from the start and nothing lowered it. -/
theorem Flag.up_run {step : σ → ι → σ} {isUp : σ → Prop} {raising : σ → ι → Prop}
    {lowering : ι → Prop} (flag : Flag step isUp raising lowering) {start : σ} {items : List ι} :
    isUp (items.foldl step start) ↔
      (∃ earlier item later, items = earlier ++ item :: later ∧
        raising (earlier.foldl step start) item ∧ ∀ next ∈ later, ¬ lowering next) ∨
      (isUp start ∧ ∀ item ∈ items, ¬ lowering item) := by
  induction items generalizing start with
  | nil =>
      constructor
      · intro up
        exact Or.inr ⟨up, fun item member => absurd member List.not_mem_nil⟩
      · intro cases
        rcases cases with raised | up
        · rcases raised with ⟨earlier, item, later, split, _⟩
          simp at split
        · exact up.1
  | cons item rest ih =>
      rw [List.foldl_cons, ih, flag.up_step, List.forall_mem_cons]
      constructor
      · intro cases
        rcases cases with later | ⟨here, low⟩
        · rcases later with ⟨earlier, next, later, split, raised, low⟩
          exact Or.inl ⟨item :: earlier, next, later, by rw [split, List.cons_append], raised, low⟩
        · rcases here with raised | ⟨up, kept⟩
          · exact Or.inl ⟨[], item, rest, rfl, raised, low⟩
          · exact Or.inr ⟨up, kept, low⟩
      · intro cases
        rcases cases with raised | ⟨up, kept, low⟩
        · rcases raised with ⟨earlier, next, later, split, raised, low⟩
          cases earlier with
          | nil =>
              rw [List.nil_append] at split
              rcases List.cons.inj split with ⟨same, tail⟩
              subst same
              subst tail
              exact Or.inr ⟨Or.inl raised, low⟩
          | cons first others =>
              rw [List.cons_append] at split
              rcases List.cons.inj split with ⟨same, tail⟩
              subst same
              exact Or.inl ⟨others, next, later, tail, raised, low⟩
        · exact Or.inr ⟨Or.inr ⟨up, kept⟩, low⟩

end VpnSuite.Foundations
