/-
Two guarded read-compute-write transactions without locks.

Each transaction checks a guard, reads a shared cell, and commits: if the guard
admitted it, the commit writes what it computed from the value it read and closes
the guard.  Every statement sees the committed state of its own moment.  A
schedule lists which transaction runs its next statement.

The outcome of a schedule in which both commit depends on one number: how many
statements the other transaction has run when the first one commits.  Guards,
cells and updates are arbitrary.
-/

import Mathlib.Data.List.Basic
import Mathlib.Data.List.Count
import Mathlib.Data.List.Induction
import Mathlib.Logic.Function.Basic

set_option autoImplicit false

namespace VpnSuite.Foundations

inductive Side where
  | left
  | right
  deriving DecidableEq, Repr

def Side.other : Side → Side
  | .left => .right
  | .right => .left

@[simp] theorem Side.other_ne (side : Side) : side.other ≠ side := by
  cases side <;> decide

theorem Side.eq_other {side next : Side} (different : next ≠ side) : next = side.other := by
  cases side <;> cases next <;> first | rfl | exact absurd rfl different

namespace GuardedRace

variable {γ β α : Type} [DecidableEq γ]

/-- The two transactions: their guard cells, what admits them, what they write. -/
structure Program (γ β α : Type) where
  guardOf : Side → γ
  admits : Side → β → Bool
  closed : β
  shuts : ∀ side, admits side closed = false
  update : Side → α → α

/-- What a transaction remembers between its statements. -/
structure Memory (α : Type) where
  statements : Nat
  admitted : Bool
  snapshot : Option α

structure State (γ β α : Type) where
  guards : γ → β
  cell : α
  memory : Side → Memory α

def begin (guards : γ → β) (cell : α) : State γ β α :=
  { guards := guards, cell := cell, memory := fun _ => ⟨0, false, none⟩ }

/-- The next statement of one transaction. -/
def advance (program : Program γ β α) (state : State γ β α) (side : Side) : State γ β α :=
  let own := state.memory side
  match own.statements with
  | 0 =>
      { state with
        memory := Function.update state.memory side
          ⟨1, program.admits side (state.guards (program.guardOf side)), none⟩ }
  | 1 =>
      { state with
        memory := Function.update state.memory side ⟨2, own.admitted, some state.cell⟩ }
  | 2 =>
      { guards :=
          if own.admitted then
            Function.update state.guards (program.guardOf side) program.closed
          else state.guards
        cell :=
          if own.admitted then program.update side (own.snapshot.getD state.cell)
          else state.cell
        memory := Function.update state.memory side ⟨3, own.admitted, own.snapshot⟩ }
  | _ => state

def execute (program : Program γ β α) (state : State γ β α) (schedule : List Side) :
    State γ β α :=
  schedule.foldl (advance program) state

theorem execute_append (program : Program γ β α) (state : State γ β α)
    (first second : List Side) :
    execute program state (first ++ second) =
      execute program (execute program state first) second :=
  List.foldl_append

/-! ### The schedule around its first commit -/

/-- Both transactions run their three statements. -/
def Complete (schedule : List Side) : Prop := ∀ side, schedule.count side = 3

/-- The statements of the other transaction at the first commit. -/
def lagFrom (ran : Side → Nat) : List Side → Nat
  | [] => 0
  | side :: rest =>
      if ran side = 2 then ran side.other
      else lagFrom (Function.update ran side (ran side + 1)) rest

def lag (schedule : List Side) : Nat := lagFrom (fun _ => 0) schedule

theorem count_cons_update (ran : Side → Nat) (first side : Side) (rest : List Side) :
    Function.update ran first (ran first + 1) side + rest.count side =
      ran side + (first :: rest).count side := by
  by_cases same : side = first
  · subst same
    rw [Function.update_self, List.count_cons_self]
    omega
  · rw [Function.update_of_ne same, List.count_cons_of_ne (Ne.symm same)]

theorem lagFrom_split (schedule : List Side) (ran : Side → Nat) (early : ∀ side, ran side ≤ 2)
    (committing : ∃ side, 3 ≤ ran side + schedule.count side) :
    ∃ side before after, schedule = before ++ side :: after ∧
      ran side + before.count side = 2 ∧
      ran side.other + before.count side.other = lagFrom ran schedule ∧
      lagFrom ran schedule ≤ 2 := by
  induction schedule generalizing ran with
  | nil =>
      obtain ⟨side, enough⟩ := committing
      have bound := early side
      rw [List.count_nil] at enough
      omega
  | cons first rest ih =>
      rw [lagFrom]
      by_cases ready : ran first = 2
      · rw [if_pos ready]
        exact ⟨first, [], rest, rfl, by simpa using ready, by simp, early first.other⟩
      · rw [if_neg ready]
        have earlyNext : ∀ side, Function.update ran first (ran first + 1) side ≤ 2 := by
          intro side
          have bound := early side
          by_cases same : side = first
          · subst same
            rw [Function.update_self]
            omega
          · rw [Function.update_of_ne same]
            exact bound
        have committingNext : ∃ side,
            3 ≤ Function.update ran first (ran first + 1) side + rest.count side := by
          obtain ⟨side, enough⟩ := committing
          refine ⟨side, ?_⟩
          rw [count_cons_update]
          exact enough
        obtain ⟨side, before, after, split, own, others, bound⟩ := ih _ earlyNext committingNext
        refine ⟨side, first :: before, after, by rw [split]; rfl, ?_, ?_, bound⟩
        · rw [← count_cons_update]
          exact own
        · rw [← count_cons_update]
          exact others

/-- A complete schedule is: both sides in any order, the first commit, and then
what is left of the other side. -/
theorem Complete.split {schedule : List Side} (complete : Complete schedule) :
    ∃ side before, schedule = before ++ side :: List.replicate (3 - lag schedule) side.other ∧
      before.count side = 2 ∧ before.count side.other = lag schedule ∧ lag schedule ≤ 2 := by
  obtain ⟨side, before, after, split, own, others, bound⟩ :=
    lagFrom_split schedule (fun _ => 0) (fun _ => Nat.zero_le 2)
      ⟨.left, by simp [complete .left]⟩
  rw [Nat.zero_add] at own others
  have ownTotal := complete side
  have otherTotal := complete side.other
  rw [split, List.count_append, List.count_cons_self] at ownTotal
  rw [split, List.count_append, List.count_cons_of_ne (Side.other_ne side).symm] at otherTotal
  have onlyOther : ∀ next ∈ after, next = side.other := by
    intro next member
    apply Side.eq_other
    intro same
    subst same
    have positive := List.count_pos_iff.mpr member
    omega
  have rest : after = List.replicate (3 - lag schedule) side.other := by
    rw [List.eq_replicate_iff]
    refine ⟨?_, onlyOther⟩
    have counted : after.count side.other = after.length :=
      List.count_eq_length.mpr (fun next member => (onlyOther next member).symm)
    have lagged : before.count side.other = lag schedule := others
    omega
  exact ⟨side, before, by rw [← rest]; exact split, own, others, bound⟩

/-! ### The outcome of a schedule -/

/-- What a transaction remembers while nothing is committed. -/
def memoryAt (cell : α) : Nat → Memory α
  | 0 => ⟨0, false, none⟩
  | 1 => ⟨1, true, none⟩
  | _ => ⟨2, true, some cell⟩

def earlyState (guards : γ → β) (cell : α) (ran : Side → Nat) : State γ β α :=
  { guards := guards, cell := cell, memory := fun side => memoryAt cell (ran side) }

variable {program : Program γ β α} {guards : γ → β}
  (opened : ∀ side, program.admits side (guards (program.guardOf side)) = true)

include opened in
theorem advance_early (cell : α) (ran : Side → Nat) (side : Side) (early : ran side ≤ 1) :
    advance program (earlyState guards cell ran) side =
      earlyState guards cell (Function.update ran side (ran side + 1)) := by
  have memory : ∀ next, Function.update (fun side => memoryAt cell (ran side)) side
      (memoryAt cell (ran side + 1)) next =
        memoryAt cell (Function.update ran side (ran side + 1) next) := by
    intro next
    by_cases same : next = side
    · subst same
      rw [Function.update_self, Function.update_self]
    · rw [Function.update_of_ne same, Function.update_of_ne same]
  have atMostOne : ran side = 0 ∨ ran side = 1 := by omega
  rcases atMostOne with none | one
  · rw [none] at memory
    simp only [advance, earlyState, none, memoryAt, opened side]
    congr 1
    funext next
    exact memory next
  · rw [one] at memory
    simp only [advance, earlyState, one, memoryAt]
    congr 1
    funext next
    exact memory next

include opened in
/-- Until the first commit every statement sees the starting state. -/
theorem execute_early (cell : α) (before : List Side)
    (early : ∀ side, before.count side ≤ 2) :
    execute program (begin guards cell) before =
      earlyState guards cell (fun side => before.count side) := by
  induction before using List.reverseRecOn with
  | nil => rfl
  | append_singleton before last ih =>
      have earlier : ∀ side, before.count side ≤ 2 := by
        intro side
        have bound := early side
        rw [List.count_append] at bound
        omega
      have room : before.count last ≤ 1 := by
        have bound := early last
        rw [List.count_append, List.count_singleton_self] at bound
        omega
      rw [execute_append, ih earlier]
      change advance program _ last = _
      rw [advance_early opened cell _ last room]
      congr 1
      funext side
      by_cases same : side = last
      · subst same
        rw [Function.update_self, List.count_append, List.count_singleton_self]
      · have absent : [last].count side = 0 := List.count_eq_zero.mpr (by simpa using same)
        rw [Function.update_of_ne same, List.count_append, absent, Nat.add_zero]

/-- The cell after a race in which `side` commits first while the other transaction
has run `lag` statements. -/
def settledCell (program : Program γ β α) (side : Side) (lag : Nat) (cell : α) : α :=
  match lag with
  | 0 =>
      if program.guardOf side.other = program.guardOf side then program.update side cell
      else program.update side.other (program.update side cell)
  | 1 => program.update side.other (program.update side cell)
  | _ => program.update side.other cell

/-- The state after the first commit. -/
theorem advance_commit (cell : α) (ran : Side → Nat) (side : Side) (ready : ran side = 2) :
    advance program (earlyState guards cell ran) side =
      { guards := Function.update guards (program.guardOf side) program.closed
        cell := program.update side cell
        memory := Function.update (fun side => memoryAt cell (ran side)) side
          ⟨3, true, some cell⟩ } := by
  simp [advance, earlyState, ready, memoryAt]

include opened in
theorem execute_rest (cell : α) (ran : Side → Nat) (side : Side) (ready : ran side = 2)
    (behind : ran side.other ≤ 2) :
    (execute program (earlyState guards cell ran)
      (side :: List.replicate (3 - ran side.other) side.other)).cell =
      settledCell program side (ran side.other) cell := by
  have apart := Side.other_ne side
  have admitted := opened side.other
  have refused := program.shuts side.other
  change (execute program (advance program (earlyState guards cell ran) side) _).cell = _
  rw [advance_commit cell ran side ready]
  have few : ran side.other = 0 ∨ ran side.other = 1 ∨ ran side.other = 2 := by omega
  rcases few with none | one | two
  · by_cases shared : program.guardOf side.other = program.guardOf side
    · simp [none, execute, List.replicate, advance, memoryAt, settledCell, apart, shared, refused]
    · simp [none, execute, List.replicate, advance, memoryAt, settledCell, apart, shared, admitted]
  · simp [one, execute, List.replicate, advance, memoryAt, settledCell, apart]
  · simp [two, execute, advance, memoryAt, settledCell, apart]

include opened in
/-- Every complete schedule ends in the cell its lag determines. -/
theorem execute_settled (cell : α) {schedule : List Side} (complete : Complete schedule) :
    ∃ side, (execute program (begin guards cell) schedule).cell =
      settledCell program side (lag schedule) cell := by
  obtain ⟨side, before, split, own, others, bound⟩ := complete.split
  have early : ∀ next, before.count next ≤ 2 := by
    intro next
    by_cases same : next = side
    · rw [same]
      exact Nat.le_of_eq own
    · rw [Side.eq_other same, others]
      exact bound
  have rest := execute_rest opened cell (fun next => before.count next) side own (early side.other)
  rw [others] at rest
  refine ⟨side, ?_⟩
  rw [← rest, ← execute_early opened cell before early, ← execute_append, ← split]

/-- A transaction with nobody beside it. -/
theorem execute_alone (program : Program γ β α) (guards : γ → β) (cell : α) (side : Side) :
    (execute program (begin guards cell) [side, side, side]).cell =
      if program.admits side (guards (program.guardOf side)) then program.update side cell
      else cell := by
  simp [execute, begin, advance]

end GuardedRace

end VpnSuite.Foundations
