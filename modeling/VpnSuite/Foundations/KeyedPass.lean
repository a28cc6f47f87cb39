/-
One pass over a list of items in which every step touches only its own cell.

The state is read through `read`, a view from keys to cells.  When the items have
distinct keys, the pass acts on each cell at most once, and what it does to a cell
depends on that cell alone.  A failing step is one more effect on its cell.

The rule is about any state that can be read by key.
-/

import Mathlib.Data.List.Nodup

set_option autoImplicit false

namespace VpnSuite.Foundations

variable {ι κ α σ : Type}

/-- Each step rewrites the cell of its key by `effect` and keeps the others. -/
structure KeyedStep (read : σ → κ → α) (keyOf : ι → κ) (effect : ι → α → α)
    (step : σ → ι → σ) : Prop where
  own : ∀ state item, read (step state item) (keyOf item) = effect item (read state (keyOf item))
  frame : ∀ state item key, key ≠ keyOf item → read (step state item) key = read state key

namespace KeyedStep

variable {read : σ → κ → α} {keyOf : ι → κ} {effect : ι → α → α} {step : σ → ι → σ}

theorem foldl_frame (keyed : KeyedStep read keyOf effect step) (items : List ι) (state : σ)
    (key : κ) (absent : key ∉ items.map keyOf) :
    read (items.foldl step state) key = read state key := by
  induction items generalizing state with
  | nil => rfl
  | cons item rest ih =>
      rw [List.map_cons, List.mem_cons, not_or] at absent
      rw [List.foldl_cons, ih (step state item) absent.2]
      exact keyed.frame state item key absent.1

theorem foldl_own (keyed : KeyedStep read keyOf effect step) (items : List ι)
    (distinct : (items.map keyOf).Nodup) (state : σ) {item : ι} (member : item ∈ items) :
    read (items.foldl step state) (keyOf item) = effect item (read state (keyOf item)) := by
  induction items generalizing state with
  | nil => cases member
  | cons first rest ih =>
      rw [List.map_cons, List.nodup_cons] at distinct
      rw [List.foldl_cons]
      rcases List.mem_cons.mp member with same | later
      · rw [same, keyed.foldl_frame rest _ _ distinct.1]
        exact keyed.own state first
      · have other : keyOf item ≠ keyOf first := by
          intro equal
          exact distinct.1 (equal ▸ List.mem_map_of_mem later)
        rw [ih distinct.2 (step state first) later, keyed.frame state first _ other]

end KeyedStep

/-- What no step of a pass changes, the pass does not change. -/
theorem foldl_invariant (view : σ → α) (step : σ → ι → σ) (items : List ι)
    (same : ∀ state, ∀ item ∈ items, view (step state item) = view state) (state : σ) :
    view (items.foldl step state) = view state := by
  induction items generalizing state with
  | nil => rfl
  | cons item rest ih =>
      have later := fun state other member => same state other (List.mem_cons_of_mem item member)
      rw [List.foldl_cons, ih later, same state item (List.mem_cons_self ..)]

end VpnSuite.Foundations
