/-
Passes over a list with a reader that may fail.

A pass succeeds exactly when every item is read, and its results stand in the order of the items.
-/

import Mathlib.Data.List.Forall2

set_option autoImplicit false

namespace VpnSuite.Foundations

variable {ε α β : Type} {read : α → Except ε β} {items : List α} {results : List β}

/-- The results are what the reader makes of the items, one by one. -/
theorem mapM_eq_ok_iff :
    items.mapM read = .ok results ↔
      List.Forall₂ (fun item result => read item = .ok result) items results := by
  induction items generalizing results with
  | nil =>
      constructor
      · intro mapped
        obtain rfl := Except.ok.inj mapped
        exact .nil
      · intro related
        cases related
        rfl
  | cons item rest ih =>
      rw [List.mapM_cons]
      constructor
      · intro mapped
        cases first : read item with
        | error error =>
            rw [first] at mapped
            cases mapped
        | ok value =>
            cases later : rest.mapM read with
            | error error =>
                rw [first, later] at mapped
                cases mapped
            | ok values =>
                rw [first, later] at mapped
                obtain rfl := Except.ok.inj mapped
                exact .cons first (ih.mp later)
      · intro related
        cases related with
        | cons first later =>
            rw [first, ih.mpr later]
            rfl

theorem mapM_ok {value : α → β} (reads : ∀ item ∈ items, read item = .ok (value item)) :
    items.mapM read = .ok (items.map value) := by
  rw [mapM_eq_ok_iff, List.forall₂_map_right_iff, List.forall₂_same]
  exact reads

theorem mem_of_mapM (mapped : items.mapM read = .ok results) {result : β}
    (member : result ∈ results) : ∃ item ∈ items, read item = .ok result := by
  have related := mapM_eq_ok_iff.mp mapped
  clear mapped
  induction related with
  | nil => cases member
  | cons first later ih =>
      rcases List.mem_cons.mp member with rfl | inRest
      · exact ⟨_, List.mem_cons_self, first⟩
      · obtain ⟨item, listed, isRead⟩ := ih inRest
        exact ⟨item, List.mem_cons_of_mem _ listed, isRead⟩

theorem exists_read_of_mapM (mapped : items.mapM read = .ok results) :
    ∀ item ∈ items, ∃ result, read item = .ok result := by
  have related := mapM_eq_ok_iff.mp mapped
  clear mapped
  induction related with
  | nil => exact nofun
  | cons first later ih =>
      intro item member
      rcases List.mem_cons.mp member with rfl | inRest
      · exact ⟨_, first⟩
      · exact ih item inRest

theorem exists_mapM_ok (reads : ∀ item ∈ items, ∃ result, read item = .ok result) :
    ∃ results, items.mapM read = .ok results := by
  induction items with
  | nil => exact ⟨[], rfl⟩
  | cons item rest ih =>
      obtain ⟨first, here⟩ := reads item List.mem_cons_self
      obtain ⟨others, later⟩ :=
        ih (fun other member => reads other (List.mem_cons_of_mem item member))
      exact ⟨first :: others, mapM_eq_ok_iff.mpr (.cons here (mapM_eq_ok_iff.mp later))⟩

end VpnSuite.Foundations
