/-
The end of two merged lists from the ends of both.

The last entries of a stable sort of two sorted lists depend on as many of the last entries of
each.  Entries and the order are arbitrary; the order is total and transitive, and need not be
antisymmetric.
-/

import Mathlib.Data.List.DropRight

set_option autoImplicit false

namespace VpnSuite.Foundations

variable {α β : Type}

/-! ### The last entries -/

theorem rtake_of_length_le {count : Nat} {items : List α} (few : items.length ≤ count) :
    items.rtake count = items := by
  unfold List.rtake
  rw [Nat.sub_eq_zero_of_le few, List.drop_zero]

theorem rtake_append {count : Nat} {front items : List α} (many : count ≤ items.length) :
    (front ++ items).rtake count = items.rtake count := by
  unfold List.rtake
  rw [List.length_append, List.drop_append]
  have past : front.length ≤ front.length + items.length - count := by omega
  have rest : front.length + items.length - count - front.length = items.length - count := by
    omega
  rw [List.drop_eq_nil_of_le past, List.nil_append, rest]

theorem rtake_cons {count : Nat} {item : α} {items : List α} (many : count ≤ items.length) :
    (item :: items).rtake count = items.rtake count :=
  @rtake_append _ count [item] items many

theorem rtake_map (count : Nat) (f : α → β) (items : List α) :
    (items.map f).rtake count = (items.rtake count).map f := by
  unfold List.rtake
  rw [List.length_map, List.map_drop]

/-- An entry with enough others after it does not show. -/
theorem rtake_insert {count : Nat} {front after : List α} {item : α}
    (many : count ≤ after.length) :
    (front ++ item :: after).rtake count = (front ++ after).rtake count := by
  rw [rtake_append (by rw [List.length_cons]; omega), rtake_append many, rtake_cons many]

/-! ### Merging -/

section Merge

variable {le : α → α → Bool}

/-- Merging one entry more at the front of the first list puts it before the rest of it. -/
theorem merge_cons_left (transitive : ∀ first second third, le first second = true →
      le second third = true → le first third = true) {item : α} {left : List α}
    (sorted : (item :: left).Pairwise (fun first second => le first second = true))
    (right : List α) :
    ∃ front after, List.merge (item :: left) right le = front ++ item :: after ∧
      List.merge left right le = front ++ after ∧ (∀ other ∈ front, le item other = false) ∧
      left.length ≤ after.length := by
  induction right with
  | nil => exact ⟨[], left, by simp, by simp, by simp, Nat.le_refl _⟩
  | cons other rest ih =>
      by_cases first : le item other = true
      · refine ⟨[], List.merge left (other :: rest) le, ?_, rfl, by simp, ?_⟩
        · rw [List.cons_merge_cons_pos le left rest first, List.nil_append]
        · rw [List.length_merge]
          omega
      · rcases ih with ⟨front, after, merged, without, behind, long⟩
        refine ⟨other :: front, after, ?_, ?_, ?_, long⟩
        · rw [List.cons_merge_cons_neg le left rest first, merged, List.cons_append]
        · cases left with
          | nil => simpa using without
          | cons next later =>
              have below : le item next = true :=
                (List.pairwise_cons.mp sorted).1 next List.mem_cons_self
              have apart : ¬ le next other = true := by
                intro above
                exact first (transitive item next other below above)
              rw [List.cons_merge_cons_neg le later rest apart, without, List.cons_append]
        · intro entry member
          rcases List.mem_cons.mp member with same | inside
          · rw [same]
            exact Bool.eq_false_iff.mpr first
          · exact behind entry inside

/-- Merging one entry more at the front of the second list puts it before the rest of it. -/
theorem merge_cons_right (transitive : ∀ first second third, le first second = true →
      le second third = true → le first third = true) {item : α} {right : List α}
    (sorted : (item :: right).Pairwise (fun first second => le first second = true))
    (left : List α) :
    ∃ front after, List.merge left (item :: right) le = front ++ item :: after ∧
      List.merge left right le = front ++ after ∧ right.length ≤ after.length := by
  induction left with
  | nil => exact ⟨[], right, by simp, by simp, Nat.le_refl _⟩
  | cons other rest ih =>
      by_cases first : le other item = true
      · rcases ih with ⟨front, after, merged, without, long⟩
        refine ⟨other :: front, after, ?_, ?_, long⟩
        · rw [List.cons_merge_cons_pos le rest right first, merged, List.cons_append]
        · cases right with
          | nil => simpa using without
          | cons next later =>
              have below : le item next = true :=
                (List.pairwise_cons.mp sorted).1 next List.mem_cons_self
              rw [List.cons_merge_cons_pos le rest later (transitive other item next first below),
                without, List.cons_append]
      · refine ⟨[], List.merge (other :: rest) right le, ?_, rfl, ?_⟩
        · rw [List.cons_merge_cons_neg le rest right first, List.nil_append]
        · rw [List.length_merge]
          omega

/-- What lies under an entry, in front of what does not, is told apart by the entry. -/
theorem split_unique {item : α} {front after other rest : List α}
    (same : front ++ after = other ++ rest) (behind : ∀ entry ∈ front, le item entry = false)
    (ahead : ∀ entry ∈ after, le item entry = true)
    (otherBehind : ∀ entry ∈ other, le item entry = false)
    (otherAhead : ∀ entry ∈ rest, le item entry = true) : front = other ∧ after = rest := by
  induction front generalizing other with
  | nil =>
      cases other with
      | nil => exact ⟨rfl, same⟩
      | cons entry later =>
          rw [List.nil_append] at same
          have below := otherBehind entry List.mem_cons_self
          rw [ahead entry (same ▸ List.mem_cons_self)] at below
          cases below
  | cons entry later ih =>
      cases other with
      | nil =>
          rw [List.nil_append] at same
          have below := behind entry List.mem_cons_self
          rw [otherAhead entry (same ▸ List.mem_cons_self)] at below
          cases below
      | cons first others =>
          rcases List.cons.inj same with ⟨head, tails⟩
          rcases ih tails (fun next member => behind next (List.mem_cons_of_mem _ member))
            (fun next member => otherBehind next (List.mem_cons_of_mem _ member)) with ⟨fronts, afters⟩
          exact ⟨by rw [head, fronts], afters⟩

variable (transitive : ∀ first second third, le first second = true → le second third = true →
    le first third = true)

include transitive

theorem rtake_merge_left {left right : List α} (count : Nat)
    (sorted : left.Pairwise (fun first second => le first second = true)) :
    (List.merge (left.rtake count) right le).rtake count =
      (List.merge left right le).rtake count := by
  induction left with
  | nil => rw [List.rtake_nil]
  | cons item rest ih =>
      by_cases few : (item :: rest).length ≤ count
      · rw [rtake_of_length_le few]
      · have many : count ≤ rest.length := by
          rw [List.length_cons] at few
          omega
        rcases merge_cons_left transitive sorted right with
          ⟨front, after, merged, without, _, long⟩
        rw [rtake_cons many, ih (List.pairwise_cons.mp sorted).2, merged,
          rtake_insert (by omega), without]

theorem rtake_merge_right {left right : List α} (count : Nat)
    (sorted : right.Pairwise (fun first second => le first second = true)) :
    (List.merge left (right.rtake count) le).rtake count =
      (List.merge left right le).rtake count := by
  induction right with
  | nil => rw [List.rtake_nil]
  | cons item rest ih =>
      by_cases few : (item :: rest).length ≤ count
      · rw [rtake_of_length_le few]
      · have many : count ≤ rest.length := by
          rw [List.length_cons] at few
          omega
        rcases merge_cons_right transitive sorted left with ⟨front, after, merged, without, long⟩
        rw [rtake_cons many, ih (List.pairwise_cons.mp sorted).2, merged,
          rtake_insert (by omega), without]

variable (total : ∀ first second, (le first second || le second first) = true)

include total

/-- A stable sort of two sorted lists merges them. -/
theorem mergeSort_append {left right : List α}
    (leftSorted : left.Pairwise (fun first second => le first second = true))
    (rightSorted : right.Pairwise (fun first second => le first second = true)) :
    (left ++ right).mergeSort le = List.merge left right le := by
  induction left with
  | nil =>
      rw [List.nil_append, List.nil_merge]
      exact List.mergeSort_of_pairwise rightSorted
  | cons item rest ih =>
      have tailSorted := (List.pairwise_cons.mp leftSorted).2
      rcases List.mergeSort_cons transitive total item (rest ++ right) with
        ⟨front, after, whole, without, behind⟩
      rcases merge_cons_left transitive leftSorted right with
        ⟨other, ahead, merged, rests, otherBehind, _⟩
      have sorted := List.pairwise_mergeSort transitive total (item :: (rest ++ right))
      have mergedSorted : (List.merge (item :: rest) right le).Pairwise
          (fun first second => le first second = true) :=
        List.pairwise_merge transitive total _ _ leftSorted rightSorted
      rw [whole, List.pairwise_append] at sorted
      rw [merged, List.pairwise_append] at mergedSorted
      have parts : front = other ∧ after = ahead := by
        apply split_unique
        · rw [← without, ih tailSorted, rests]
        · intro entry member
          have apart := behind entry member
          rwa [Bool.not_eq_true'] at apart
        · exact (List.pairwise_cons.mp sorted.2.1).1
        · exact otherBehind
        · exact (List.pairwise_cons.mp mergedSorted.2.1).1
      rw [List.cons_append, whole, merged, parts.1, parts.2]

/-- The last entries of two sorted lists are in the last entries of each. -/
theorem rtake_mergeSort_tails {left right : List α} (count : Nat)
    (leftSorted : left.Pairwise (fun first second => le first second = true))
    (rightSorted : right.Pairwise (fun first second => le first second = true)) :
    ((left.rtake count ++ right.rtake count).mergeSort le).rtake count =
      ((left ++ right).mergeSort le).rtake count := by
  have shorter {items : List α}
      (sorted : items.Pairwise (fun first second => le first second = true)) :
      (items.rtake count).Pairwise (fun first second => le first second = true) :=
    sorted.sublist (List.drop_sublist _ _)
  rw [mergeSort_append transitive total (shorter leftSorted) (shorter rightSorted),
    mergeSort_append transitive total leftSorted rightSorted,
    rtake_merge_left transitive count leftSorted,
    rtake_merge_right transitive count rightSorted]

end Merge

end VpnSuite.Foundations
