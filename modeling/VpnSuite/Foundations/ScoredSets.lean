/-
Sets whose members have scores, listed by score and then by rank, as the sorted sets of Redis.

Writing the members of a listing into a dictionary by class keeps the last of each class, which
is the one of highest rank; the dictionary listed by its keys is strictly increasing.  Members,
ranks and classes are arbitrary.
-/

import VpnSuite.Foundations.OrderedDict
import Mathlib.Data.List.Induction
import Mathlib.Order.Lattice

set_option autoImplicit false

namespace VpnSuite.Foundations.ScoredSets

variable {κ ρ γ : Type} [LinearOrder ρ]

abbrev ScoredSet (κ : Type) : Type := Dict κ Int

/-- `ZADD` -/
def add [DecidableEq κ] (score : Int) (member : κ) (set : ScoredSet κ) : ScoredSet κ := set.set member score

/-- `ZREMRANGEBYSCORE key -inf cutoff` -/
def trim (cutoff : Int) (set : ScoredSet κ) : ScoredSet κ :=
  set.sift (fun entry => cutoff < entry.2)

def entryLe (rank : κ → ρ) (left right : κ × Int) : Bool :=
  left.2 < right.2 || (left.2 = right.2 && rank left.1 ≤ rank right.1)

/-- `ZRANGEBYSCORE key cutoff +inf` -/
def range (rank : κ → ρ) (cutoff : Int) (set : ScoredSet κ) : List κ :=
  ((set.entries.filter (fun entry => cutoff ≤ entry.2)).mergeSort (entryLe rank)).map Prod.fst

section Listing

variable {set : ScoredSet κ} {member other : κ} {score cutoff : Int} {rank : κ → ρ}

theorem entryLe_trans (left middle right : κ × Int) (first : entryLe rank left middle = true)
    (second : entryLe rank middle right = true) : entryLe rank left right = true := by
  simp only [entryLe, Bool.or_eq_true, Bool.and_eq_true, decide_eq_true_eq] at first second ⊢
  rcases first with below | ⟨level, ranked⟩
  · rcases second with above | ⟨same, _⟩
    · exact Or.inl (by omega)
    · exact Or.inl (by omega)
  · rcases second with above | ⟨same, higher⟩
    · exact Or.inl (by omega)
    · exact Or.inr ⟨by omega, le_trans ranked higher⟩

theorem entryLe_total (left right : κ × Int) :
    (entryLe rank left right || entryLe rank right left) = true := by
  simp only [entryLe, Bool.or_eq_true, Bool.and_eq_true, decide_eq_true_eq]
  rcases Int.lt_trichotomy left.2 right.2 with below | same | above
  · exact Or.inl (Or.inl below)
  · rcases le_total (rank left.1) (rank right.1) with ranked | ranked
    · exact Or.inl (Or.inr ⟨same, ranked⟩)
    · exact Or.inr (Or.inr ⟨same.symm, ranked⟩)
  · exact Or.inr (Or.inl above)

variable [DecidableEq κ]

theorem get?_add :
    (add score member set).get? other = if other = member then some score else set.get? other :=
  Dict.get?_set ..

theorem get?_trim {found : Int} :
    (trim cutoff set).get? member = some found ↔ set.get? member = some found ∧ cutoff < found := by
  unfold trim
  rw [Dict.get?_sift, decide_eq_true_iff]

theorem mem_range :
    member ∈ range rank cutoff set ↔ ∃ score, set.get? member = some score ∧ cutoff ≤ score := by
  unfold range
  constructor
  · intro listed
    rcases List.mem_map.mp listed with ⟨entry, sorted, rfl⟩
    rcases List.mem_filter.mp (List.mem_mergeSort.mp sorted) with ⟨present, above⟩
    exact ⟨entry.2, (set.mem_entries_iff entry.1 entry.2).mp present, of_decide_eq_true above⟩
  · intro some
    rcases some with ⟨score, found, above⟩
    apply List.mem_map.mpr
    refine ⟨(member, score), ?_, rfl⟩
    rw [List.mem_mergeSort, List.mem_filter]
    exact ⟨(set.mem_entries_iff member score).mpr found, decide_eq_true above⟩

/-- A listing is in the order of the scores, and of the ranks where these are the same. -/
theorem range_pairwise (scoreOf : κ → Int)
    (scored : ∀ member score, set.get? member = some score → score = scoreOf member) :
    (range rank cutoff set).Pairwise (fun left right => scoreOf left < scoreOf right ∨
      scoreOf left = scoreOf right ∧ rank left ≤ rank right) := by
  unfold range
  rw [List.pairwise_map]
  have sorted := List.pairwise_mergeSort (@entryLe_trans _ _ _ rank) entryLe_total
    (set.entries.filter (fun entry => cutoff ≤ entry.2))
  refine List.Pairwise.imp_of_mem ?_ sorted
  intro left right leftIn rightIn ordered
  have own {entry : κ × Int}
      (listed : entry ∈ (set.entries.filter (fun entry => cutoff ≤ entry.2)).mergeSort
        (entryLe rank)) : entry.2 = scoreOf entry.1 := by
    have present := (List.mem_filter.mp (List.mem_mergeSort.mp listed)).1
    exact scored _ _ ((set.mem_entries_iff entry.1 entry.2).mp present)
  simp only [entryLe, Bool.or_eq_true, Bool.and_eq_true, decide_eq_true_eq] at ordered
  rw [own leftIn, own rightIn] at ordered
  exact ordered

end Listing

/-! ### The last of each class -/

section Classes

variable [DecidableEq γ]

def lastPerClass (classOf : κ → γ) (items : List κ) : Dict γ κ :=
  Dict.ofList (items.map (fun item => (classOf item, item)))

theorem get?_lastPerClass {classOf : κ → γ} {rank : κ → ρ} {items : List κ}
    (ranked : Function.Injective rank)
    (sorted : items.Pairwise (fun left right =>
      classOf left = classOf right → rank left ≤ rank right)) (kind : γ) (item : κ) :
    (lastPerClass classOf items).get? kind = some item ↔
      item ∈ items ∧ classOf item = kind ∧
        ∀ other ∈ items, classOf other = kind → rank other ≤ rank item := by
  induction items using List.reverseRecOn with
  | nil =>
      constructor
      · intro found
        cases found
      · intro all
        cases all.1
  | append_singleton earlier last ih =>
      rw [List.pairwise_append] at sorted
      have before := ih sorted.1
      have below : ∀ other ∈ earlier, classOf other = classOf last → rank other ≤ rank last := by
        intro other member same
        exact sorted.2.2 other member last (List.mem_singleton.mpr rfl) same
      have written : lastPerClass classOf (earlier ++ [last]) =
          (lastPerClass classOf earlier).set (classOf last) last := by
        simp [lastPerClass, Dict.ofList]
      rw [written, Dict.get?_set]
      by_cases same : kind = classOf last
      · rw [if_pos same]
        constructor
        · intro equal
          cases equal
          refine ⟨List.mem_append_right _ (List.mem_singleton.mpr rfl), same.symm, ?_⟩
          intro other member alike
          rcases List.mem_append.mp member with inside | isLast
          · exact below other inside (alike.trans same)
          · rw [List.mem_singleton.mp isLast]
        · intro all
          rcases all with ⟨member, own, highest⟩
          have atLeast := highest last (List.mem_append_right _ (List.mem_singleton.mpr rfl))
            same.symm
          rcases List.mem_append.mp member with inside | isLast
          · have atMost := below item inside (own.trans same)
            rw [ranked (le_antisymm atMost atLeast)]
          · rw [List.mem_singleton.mp isLast]
      · rw [if_neg same, before]
        constructor
        · intro all
          rcases all with ⟨member, own, highest⟩
          refine ⟨List.mem_append_left _ member, own, ?_⟩
          intro other listed alike
          rcases List.mem_append.mp listed with inside | isLast
          · exact highest other inside alike
          · rw [List.mem_singleton.mp isLast] at alike
            exact absurd alike.symm same
        · intro all
          rcases all with ⟨member, own, highest⟩
          rcases List.mem_append.mp member with inside | isLast
          · exact ⟨inside, own, fun other listed => highest other (List.mem_append_left _ listed)⟩
          · rw [List.mem_singleton.mp isLast] at own
            exact absurd own.symm same

end Classes

/-! ### A dictionary listed by its keys -/

section ByKey

def listedByKey (dict : Dict Int κ) : List κ :=
  (dict.entries.mergeSort (fun left right => left.1 ≤ right.1)).map Prod.snd

theorem mem_listedByKey {dict : Dict Int κ} {item : κ} :
    item ∈ listedByKey dict ↔ ∃ key, dict.get? key = some item := by
  unfold listedByKey
  constructor
  · intro listed
    rcases List.mem_map.mp listed with ⟨entry, sorted, rfl⟩
    exact ⟨entry.1, (dict.mem_entries_iff entry.1 entry.2).mp (List.mem_mergeSort.mp sorted)⟩
  · intro some
    rcases some with ⟨key, found⟩
    exact List.mem_map.mpr ⟨(key, item),
      List.mem_mergeSort.mpr ((dict.mem_entries_iff key item).mpr found), rfl⟩

/-- What a dictionary holds under the keys of its values is listed with increasing keys. -/
theorem listedByKey_pairwise {dict : Dict Int κ} (keyOf : κ → Int)
    (keyed : ∀ key item, dict.get? key = some item → keyOf item = key) :
    (listedByKey dict).Pairwise (fun left right => keyOf left < keyOf right) := by
  unfold listedByKey
  rw [List.pairwise_map]
  have sorted := @List.pairwise_mergeSort (Int × κ) (fun left right => left.1 ≤ right.1)
    (fun first second third below above => by
      simp only [decide_eq_true_eq] at below above ⊢
      omega)
    (fun first second => by
      simp only [Bool.or_eq_true, decide_eq_true_eq]
      omega) dict.entries
  have distinct : (dict.entries.mergeSort (fun left right => left.1 ≤ right.1)).Pairwise
      (fun left right => left.1 ≠ right.1) := by
    have keys : ((dict.entries.mergeSort (fun left right => left.1 ≤ right.1)).map
        Prod.fst).Nodup :=
      ((List.mergeSort_perm dict.entries _).map Prod.fst).nodup_iff.mpr dict.distinct
    exact List.pairwise_map.mp keys
  refine List.Pairwise.imp_of_mem ?_ (sorted.and distinct)
  intro left right leftIn rightIn both
  have own {entry : Int × κ}
      (listed : entry ∈ dict.entries.mergeSort (fun left right => left.1 ≤ right.1)) :
      keyOf entry.2 = entry.1 :=
    keyed _ _ ((dict.mem_entries_iff entry.1 entry.2).mp (List.mem_mergeSort.mp listed))
  have ordered := of_decide_eq_true both.1
  have apart := both.2
  rw [own leftIn, own rightIn]
  omega

end ByKey

end VpnSuite.Foundations.ScoredSets
