/-
Patches of a dictionary: the entries that changed, without those that are gone.

A reader that merges such patches into what it holds sees the new dictionary exactly when no
key is gone; what it holds under a key that is gone stays.
-/

import VpnSuite.Foundations.OrderedDict

set_option autoImplicit false

namespace VpnSuite.Foundations.Dict

variable {κ α : Type} [DecidableEq κ]

/-- Two dictionaries with the same entries, in whatever order. -/
def Agree (first second : Dict κ α) : Prop := ∀ key, first.get? key = second.get? key

/-- The entries of the new dictionary that the old one has not. -/
def changes [DecidableEq α] (old new : Dict κ α) : Dict κ α :=
  new.sift (fun entry => old.get? entry.1 ≠ some entry.2)

/-- `dict.update(patch)` -/
def merge (dict patch : Dict κ α) : Dict κ α :=
  patch.entries.foldl (fun dict entry => dict.set entry.1 entry.2) dict

theorem get?_merge (dict patch : Dict κ α) (key : κ) :
    (dict.merge patch).get? key = (patch.get? key).or (dict.get? key) :=
  get?_foldl_set dict patch key

section Patches

variable [DecidableEq α] {old new held : Dict κ α}

theorem get?_changes (old new : Dict κ α) (key : κ) :
    (old.changes new).get? key =
      if old.get? key = new.get? key then none else new.get? key := by
  apply Option.ext
  intro value
  unfold changes
  rw [get?_sift]
  by_cases same : old.get? key = new.get? key
  · simp [same]
  · rw [if_neg same]
    constructor
    · intro both
      exact both.1
    · intro found
      rw [found] at same
      exact ⟨found, decide_eq_true same⟩

theorem changes_keys_nil_iff :
    (old.changes new).keys = [] ↔
      ∀ key value, new.get? key = some value → old.get? key = some value := by
  rw [List.eq_nil_iff_forall_not_mem]
  constructor
  · intro none key value found
    have absent := (get?_eq_none_iff _ key).mpr (none key)
    rw [get?_changes] at absent
    by_cases same : old.get? key = new.get? key
    · exact same.trans found
    · rw [if_neg same, found] at absent
      cases absent
  · intro kept key member
    rw [mem_keys_iff, get?_changes] at member
    cases found : new.get? key with
    | none => simp [found] at member
    | some value => simp [found, kept key value found] at member

/-- A reader of the old dictionary that merges the changes reads the new one exactly when no
key is gone. -/
theorem agree_merge_changes_iff (agree : held.Agree old) :
    (held.merge (old.changes new)).Agree new ↔ ∀ key ∈ old.keys, key ∈ new.keys := by
  constructor
  · intro merged key member
    rw [mem_keys_iff] at member ⊢
    rcases member with ⟨value, known⟩
    have here := merged key
    rw [get?_merge, get?_changes, agree key, known] at here
    cases found : new.get? key with
    | some changed => exact ⟨changed, rfl⟩
    | none => simp [found] at here
  · intro kept key
    rw [get?_merge, get?_changes, agree key]
    by_cases same : old.get? key = new.get? key
    · rw [if_pos same, same]
      rfl
    · rw [if_neg same]
      cases found : new.get? key with
      | some value => rfl
      | none =>
          have absent : old.get? key = none := by
            rw [get?_eq_none_iff] at found ⊢
            intro member
            exact found (kept key member)
          rw [absent]
          rfl

/-- When nothing changed, the two dictionaries are the same exactly when no key is gone. -/
theorem agree_of_no_changes_iff (none : (old.changes new).keys = []) (agree : held.Agree old) :
    held.Agree new ↔ ∀ key ∈ old.keys, key ∈ new.keys := by
  have unchanged : held.merge (old.changes new) = held := by
    have empty : (old.changes new).entries = [] := List.map_eq_nil_iff.mp none
    unfold merge
    rw [empty]
    rfl
  rw [← agree_merge_changes_iff agree, unchanged]

end Patches

end VpnSuite.Foundations.Dict
