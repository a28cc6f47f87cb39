/-
Insertion-ordered finite maps with the update rules of a Python `dict`.

Writing a present key keeps its place and replaces its value; writing an absent
key appends it.  Every map carries the proof that its keys are distinct, so
iteration order and lookup never disagree.

This is a container library.  It knows nothing of peers, nodes or payments.
-/

import Mathlib.Data.List.Nodup
import Mathlib.Data.List.Perm.Basic

set_option autoImplicit false

namespace VpnSuite.Foundations

/-- A finite map that remembers the order in which its keys were first written. -/
structure Dict (κ α : Type) where
  entries : List (κ × α)
  distinct : (entries.map Prod.fst).Nodup
  deriving DecidableEq

theorem mem_of_lookup {κ α : Type} [DecidableEq κ] {name : κ} {value : α} {names : List (κ × α)}
    (found : names.lookup name = some value) : (name, value) ∈ names := by
  obtain ⟨before, after, rfl, -⟩ := List.lookup_eq_some_iff.mp found
  exact List.mem_append_right before List.mem_cons_self

namespace Dict

variable {κ α : Type}

def empty : Dict κ α := ⟨[], List.nodup_nil⟩

def keys (dict : Dict κ α) : List κ := dict.entries.map Prod.fst

theorem keys_nodup (dict : Dict κ α) : dict.keys.Nodup := dict.distinct

variable [DecidableEq κ]

def get? (dict : Dict κ α) (key : κ) : Option α := dict.entries.lookup key

/-- `dict[key] = value` on the raw entries: overwrite in place, else append. -/
def place (key : κ) (value : α) : List (κ × α) → List (κ × α)
  | [] => [(key, value)]
  | entry :: rest =>
      if entry.1 = key then (key, value) :: rest else entry :: place key value rest

theorem place_keys (key : κ) (value : α) (entries : List (κ × α)) :
    (place key value entries).map Prod.fst =
      if key ∈ entries.map Prod.fst then entries.map Prod.fst
      else entries.map Prod.fst ++ [key] := by
  induction entries with
  | nil => rfl
  | cons entry rest ih =>
      by_cases same : entry.1 = key
      · simp [place, same]
      · have other : ¬ key = entry.1 := fun equal => same equal.symm
        simp only [place, if_neg same, List.map_cons, ih, List.mem_cons, other, false_or]
        split <;> simp

theorem place_nodup (key : κ) (value : α) (entries : List (κ × α))
    (distinct : (entries.map Prod.fst).Nodup) :
    ((place key value entries).map Prod.fst).Nodup := by
  rw [place_keys]
  split
  · exact distinct
  · rename_i absent
    exact List.nodup_append.mpr ⟨distinct, List.nodup_singleton key, by
      intro left inEntries right atKey equal
      rw [List.mem_singleton] at atKey
      exact absent (by rw [← atKey, ← equal]; exact inEntries)⟩

theorem lookup_cons_eq (key : κ) (entry : κ × α) (rest : List (κ × α)) :
    (entry :: rest).lookup key = if key = entry.1 then some entry.2 else rest.lookup key := by
  obtain ⟨head, value⟩ := entry
  by_cases same : key = head
  · simp [same]
  · rw [if_neg same, List.lookup_cons, beq_eq_false_iff_ne.mpr same]

theorem lookup_place (key other : κ) (value : α) (entries : List (κ × α)) :
    (place key value entries).lookup other =
      if other = key then some value else entries.lookup other := by
  induction entries with
  | nil => rw [place, lookup_cons_eq]
  | cons entry rest ih =>
      by_cases atEntry : entry.1 = key
      · rw [place, if_pos atEntry, lookup_cons_eq, lookup_cons_eq, atEntry]
        split <;> rfl
      · simp only [place, if_neg atEntry, lookup_cons_eq, ih]
        by_cases same : other = key
        · have different : ¬ key = entry.1 := fun equal => atEntry equal.symm
          simp only [same, if_neg different, if_true]
        · simp only [if_neg same]

/-- `dict[key] = value`. -/
def set (dict : Dict κ α) (key : κ) (value : α) : Dict κ α :=
  ⟨place key value dict.entries, place_nodup key value dict.entries dict.distinct⟩

/-- `dict.pop(key, None)`. -/
def erase (dict : Dict κ α) (key : κ) : Dict κ α :=
  ⟨dict.entries.filter (fun entry => entry.1 ≠ key),
    dict.distinct.sublist ((List.filter_sublist).map Prod.fst)⟩

/-- Successive writes, so that the last pair of a repeated key wins. -/
def ofList (pairs : List (κ × α)) : Dict κ α :=
  pairs.foldl (fun dict pair => dict.set pair.1 pair.2) empty

/-! ### Lookup and key membership -/

@[simp] theorem get?_empty (key : κ) : (empty : Dict κ α).get? key = none := rfl

theorem get?_eq_none_iff (dict : Dict κ α) (key : κ) :
    dict.get? key = none ↔ key ∉ dict.keys := by
  unfold get? keys
  rw [List.lookup_eq_none_iff, List.mem_map]
  constructor
  · rintro absent ⟨entry, member, atKey⟩
    have differs := absent entry member
    rw [atKey, bne_self_eq_false] at differs
    cases differs
  · intro absent entry member
    rw [bne_iff_ne]
    intro equal
    exact absent ⟨entry, member, equal.symm⟩

theorem mem_keys_iff (dict : Dict κ α) (key : κ) :
    key ∈ dict.keys ↔ ∃ value, dict.get? key = some value := by
  have missing := dict.get?_eq_none_iff key
  cases found : dict.get? key with
  | none => simp [missing.mp found]
  | some value =>
      have present : key ∈ dict.keys := by
        by_contra absent
        rw [missing.mpr absent] at found
        cases found
      simp [present]

theorem mem_keys_of_get? {dict : Dict κ α} {key : κ} {value : α}
    (found : dict.get? key = some value) : key ∈ dict.keys :=
  (dict.mem_keys_iff key).mpr ⟨value, found⟩

theorem mem_entries_iff (dict : Dict κ α) (key : κ) (value : α) :
    (key, value) ∈ dict.entries ↔ dict.get? key = some value := by
  have distinct := dict.distinct
  unfold get?
  generalize dict.entries = entries at distinct
  induction entries with
  | nil => simp
  | cons entry rest ih =>
      obtain ⟨head, stored⟩ := entry
      rw [List.map_cons, List.nodup_cons] at distinct
      have tail : (key, value) ∈ rest ↔ rest.lookup key = some value := ih distinct.2
      rw [List.mem_cons, tail, lookup_cons_eq]
      by_cases same : key = head
      · subst same
        have absent : rest.lookup key ≠ some value := by
          intro found
          exact distinct.1 (List.mem_map.mpr ⟨(key, value), tail.mpr found, rfl⟩)
        simp only [Option.some.injEq, Prod.mk.injEq, true_and, absent, or_false, if_true]
        exact eq_comm
      · simp [same]

/-! ### Writing -/

/-- The keys a query selects, by what is stored under them. -/
theorem mem_map_filter (dict : Dict κ α) (keep : κ × α → Bool) (key : κ) :
    key ∈ (dict.entries.filter keep).map Prod.fst ↔
      ∃ value, dict.get? key = some value ∧ keep (key, value) = true := by
  simp only [List.mem_map, List.mem_filter]
  constructor
  · rintro ⟨⟨stored, value⟩, ⟨member, kept⟩, rfl⟩
    exact ⟨value, (dict.mem_entries_iff stored value).mp member, kept⟩
  · rintro ⟨value, found, kept⟩
    exact ⟨(key, value), ⟨(dict.mem_entries_iff key value).mpr found, kept⟩, rfl⟩

/-- A key has one entry at most. -/
theorem countP_entries (dict : Dict κ α) (key : κ) (holds : α → Bool) :
    dict.entries.countP (fun entry => decide (entry.1 = key) && holds entry.2) =
      if (dict.get? key).any holds then 1 else 0 := by
  have distinct := dict.distinct
  unfold get?
  generalize dict.entries = entries at distinct
  induction entries with
  | nil => rfl
  | cons entry rest ih =>
      rw [List.map_cons, List.nodup_cons] at distinct
      obtain ⟨notLater, distinct⟩ := distinct
      rw [List.countP_cons, ih distinct, lookup_cons_eq]
      by_cases same : key = entry.1
      · have absent : rest.lookup key = none := by
          rw [List.lookup_eq_none_iff]
          intro later member
          rw [bne_iff_ne, same]
          exact fun equal => notLater (equal ▸ List.mem_map_of_mem member)
        rw [if_pos same, absent]
        simp [same]
      · rw [if_neg same]
        simp [Ne.symm same]

omit [DecidableEq κ] in
theorem map_filter_nodup (dict : Dict κ α) (keep : κ × α → Bool) :
    ((dict.entries.filter keep).map Prod.fst).Nodup :=
  dict.distinct.sublist (List.filter_sublist.map Prod.fst)

omit [DecidableEq κ] in
/-- A query selects at most one row exactly when any two selected keys agree. -/
theorem map_filter_le_one (dict : Dict κ α) (keep : κ × α → Bool) :
    ((dict.entries.filter keep).map Prod.fst).length ≤ 1 ↔
      ∀ left ∈ (dict.entries.filter keep).map Prod.fst,
        ∀ right ∈ (dict.entries.filter keep).map Prod.fst, left = right := by
  have distinct := dict.map_filter_nodup keep
  generalize (dict.entries.filter keep).map Prod.fst = keys at distinct
  match keys, distinct with
  | [], _ => simp
  | [key], _ => simp
  | first :: second :: rest, distinct =>
      refine iff_of_false (by simp) ?_
      intro equal
      have same := equal first (by simp) second (by simp)
      simp [same] at distinct

@[simp] theorem get?_set (dict : Dict κ α) (key other : κ) (value : α) :
    (dict.set key value).get? other = if other = key then some value else dict.get? other :=
  lookup_place key other value dict.entries

private theorem place_place (key : κ) (first second : α) (entries : List (κ × α)) :
    place key second (place key first entries) = place key second entries := by
  induction entries with
  | nil => simp [place]
  | cons entry rest ih =>
      by_cases same : entry.1 = key
      · simp [place, same]
      · simp [place, same, ih]

private theorem place_lookup {key : κ} {value : α} {entries : List (κ × α)}
    (found : entries.lookup key = some value) : place key value entries = entries := by
  induction entries with
  | nil => cases found
  | cons entry rest ih =>
      rw [lookup_cons_eq] at found
      by_cases same : entry.1 = key
      · rw [if_pos same.symm] at found
        rw [place, if_pos same, ← same, ← Option.some.inj found]
      · rw [if_neg (Ne.symm same)] at found
        rw [place, if_neg same, ih found]

private theorem place_of_mem {key : κ} (value : α) {entries : List (κ × α)}
    (distinct : (entries.map Prod.fst).Nodup) (present : key ∈ entries.map Prod.fst) :
    place key value entries =
      entries.map (fun entry => if entry.1 = key then (key, value) else entry) := by
  induction entries with
  | nil => cases present
  | cons entry rest ih =>
      rw [List.map_cons, List.nodup_cons] at distinct
      by_cases same : entry.1 = key
      · have kept : rest.map (fun entry => if entry.1 = key then (key, value) else entry) = rest := by
          conv_rhs => rw [← List.map_id rest]
          apply List.map_congr_left
          intro other inRest
          refine if_neg (fun equal => distinct.1 ?_)
          rw [same, ← equal]
          exact List.mem_map_of_mem inRest
        rw [place, if_pos same, List.map_cons, if_pos same, kept]
      · rw [List.map_cons, List.mem_cons] at present
        rw [place, if_neg same, List.map_cons, if_neg same,
          ih distinct.2 (present.resolve_left (Ne.symm same))]

/-- Overwriting an entry leaves it in its place. -/
theorem entries_set {dict : Dict κ α} {key : κ} (value : α) (present : key ∈ dict.keys) :
    (dict.set key value).entries =
      dict.entries.map (fun entry => if entry.1 = key then (key, value) else entry) :=
  place_of_mem value dict.distinct present

/-- Writing what is there changes nothing. -/
theorem set_of_get? {dict : Dict κ α} {key : κ} {value : α}
    (found : dict.get? key = some value) : dict.set key value = dict := by
  cases dict
  simp only [set, place_lookup found]

theorem set_set (dict : Dict κ α) (key : κ) (first second : α) :
    (dict.set key first).set key second = dict.set key second := by
  simp only [set, place_place]

theorem keys_set (dict : Dict κ α) (key : κ) (value : α) :
    (dict.set key value).keys =
      if key ∈ dict.keys then dict.keys else dict.keys ++ [key] :=
  place_keys key value dict.entries

@[simp] theorem mem_keys_set (dict : Dict κ α) (key other : κ) (value : α) :
    other ∈ (dict.set key value).keys ↔ other = key ∨ other ∈ dict.keys := by
  rw [mem_keys_iff, mem_keys_iff, get?_set]
  by_cases same : other = key <;> simp [same]

/-! ### Deleting -/

theorem keys_erase (dict : Dict κ α) (key : κ) :
    (dict.erase key).keys = dict.keys.filter (fun other => other ≠ key) := by
  unfold keys erase
  rw [List.filter_map]
  rfl

@[simp] theorem mem_keys_erase (dict : Dict κ α) (key other : κ) :
    other ∈ (dict.erase key).keys ↔ other ≠ key ∧ other ∈ dict.keys := by
  rw [keys_erase, List.mem_filter]
  simp [and_comm]

@[simp] theorem get?_erase (dict : Dict κ α) (key other : κ) :
    (dict.erase key).get? other = if other = key then none else dict.get? other := by
  by_cases same : other = key
  · rw [if_pos same, get?_eq_none_iff, mem_keys_erase]
    exact fun both => both.1 same
  · rw [if_neg same]
    cases found : dict.get? other with
    | none =>
        rw [get?_eq_none_iff] at found ⊢
        exact fun present => found ((mem_keys_erase dict key other).mp present).2
    | some value =>
        rw [← mem_entries_iff] at found ⊢
        exact List.mem_filter.mpr ⟨found, by simpa using same⟩

/-- The entries a condition keeps, in their places. -/
def sift (dict : Dict κ α) (keep : κ × α → Bool) : Dict κ α :=
  ⟨dict.entries.filter keep, dict.map_filter_nodup keep⟩

theorem get?_sift (dict : Dict κ α) (keep : κ × α → Bool) (key : κ) (value : α) :
    (dict.sift keep).get? key = some value ↔
      dict.get? key = some value ∧ keep (key, value) = true := by
  rw [← mem_entries_iff, ← mem_entries_iff]
  exact List.mem_filter

/-! ### Changing every value -/

def mapValues {β : Type} (f : α → β) (dict : Dict κ α) : Dict κ β :=
  ⟨dict.entries.map (fun entry => (entry.1, f entry.2)), by
    have distinct := dict.distinct
    rw [List.map_map]
    exact distinct⟩

theorem get?_mapValues {β : Type} (f : α → β) (dict : Dict κ α) (key : κ) :
    (dict.mapValues f).get? key = (dict.get? key).map f := by
  change (dict.entries.map (fun entry => (entry.1, f entry.2))).lookup key =
    (dict.entries.lookup key).map f
  generalize dict.entries = entries
  induction entries with
  | nil => rfl
  | cons entry rest ih =>
      rw [List.map_cons, lookup_cons_eq, lookup_cons_eq, ih]
      by_cases same : key = entry.1 <;> simp [same]

private theorem map_place {β : Type} (f : α → β) (key : κ) (value : α) (entries : List (κ × α)) :
    (place key value entries).map (fun entry => (entry.1, f entry.2)) =
      place key (f value) (entries.map (fun entry => (entry.1, f entry.2))) := by
  induction entries with
  | nil => rfl
  | cons entry rest ih =>
      by_cases same : entry.1 = key
      · simp [place, same]
      · simp [place, same, ih]

theorem mapValues_set {β : Type} (f : α → β) (dict : Dict κ α) (key : κ) (value : α) :
    (dict.set key value).mapValues f = (dict.mapValues f).set key (f value) := by
  simp only [mapValues, set, map_place]

/-! ### Building from a list of pairs -/

private theorem foldl_set_get? (pairs : List (κ × α)) (start : Dict κ α) (key : κ) :
    (pairs.foldl (fun dict pair => dict.set pair.1 pair.2) start).get? key =
      (pairs.reverse.lookup key).or (start.get? key) := by
  induction pairs generalizing start with
  | nil => rfl
  | cons pair rest ih =>
      rw [List.foldl_cons, ih, get?_set, List.reverse_cons, List.lookup_append]
      cases rest.reverse.lookup key with
      | some value => rfl
      | none => by_cases same : key = pair.1 <;> simp [lookup_cons_eq, same]

/-- Lookup after a sequence of writes finds the last pair written for the key. -/
theorem get?_ofList (pairs : List (κ × α)) (key : κ) :
    (ofList pairs).get? key = pairs.reverse.lookup key := by
  rw [ofList, foldl_set_get?, get?_empty, Option.or_none]

theorem mem_keys_ofList (pairs : List (κ × α)) (key : κ) :
    key ∈ (ofList pairs).keys ↔ key ∈ pairs.map Prod.fst := by
  have missing := (ofList pairs).get?_eq_none_iff key
  rw [get?_ofList, List.lookup_eq_none_iff] at missing
  constructor
  · intro present
    by_contra absent
    refine missing.mp ?_ present
    intro pair member
    rw [bne_iff_ne]
    intro equal
    exact absent (List.mem_map.mpr ⟨pair, List.mem_reverse.mp member, equal.symm⟩)
  · intro present
    obtain ⟨pair, member, atKey⟩ := List.mem_map.mp present
    by_contra absent
    have differs := missing.mpr absent pair (List.mem_reverse.mpr member)
    rw [atKey, bne_self_eq_false] at differs
    cases differs

theorem lookup_map_find {ι : Type} (keyOf : ι → κ) (valueOf : ι → α) (items : List ι) (key : κ) :
    (items.map (fun item => (keyOf item, valueOf item))).lookup key =
      (items.find? (fun item => keyOf item = key)).map valueOf := by
  induction items with
  | nil => rfl
  | cons item rest ih =>
      rw [List.map_cons, lookup_cons_eq, List.find?_cons, ih]
      by_cases same : key = keyOf item
      · simp [same]
      · have different : ¬ keyOf item = key := fun equal => same equal.symm
        simp [same, different]

/-- Among items with distinct keys, the first with the key of an item is that item. -/
theorem find?_key {ι : Type} {keyOf : ι → κ} {items : List ι}
    (distinct : (items.map keyOf).Nodup) {item : ι} (member : item ∈ items) :
    items.find? (fun other => keyOf other = keyOf item) = some item := by
  induction items with
  | nil => cases member
  | cons first rest ih =>
      rw [List.map_cons, List.nodup_cons] at distinct
      rw [List.find?_cons]
      rcases List.mem_cons.mp member with rfl | later
      · rw [decide_eq_true rfl]
      · have different : ¬ keyOf first = keyOf item := by
          intro same
          exact distinct.1 (List.mem_map.mpr ⟨item, later, same.symm⟩)
        rw [decide_eq_false different]
        exact ih distinct.2 later

private theorem place_of_not_mem (key : κ) (value : α) (entries : List (κ × α))
    (absent : key ∉ entries.map Prod.fst) :
    place key value entries = entries ++ [(key, value)] := by
  induction entries with
  | nil => rfl
  | cons entry rest ih =>
      rw [List.map_cons, List.mem_cons, not_or] at absent
      have different : ¬ entry.1 = key := fun equal => absent.1 equal.symm
      rw [place, if_neg different, ih absent.2, List.cons_append]

private theorem foldl_set_entries (pairs : List (κ × α)) (start : Dict κ α)
    (distinct : ((start.entries ++ pairs).map Prod.fst).Nodup) :
    (pairs.foldl (fun dict pair => dict.set pair.1 pair.2) start).entries =
      start.entries ++ pairs := by
  induction pairs generalizing start with
  | nil => rw [List.append_nil]; rfl
  | cons pair rest ih =>
      have absent : pair.1 ∉ start.entries.map Prod.fst := by
        rw [List.map_append, List.map_cons] at distinct
        intro member
        exact (List.nodup_append.mp distinct).2.2 _ member _ (List.mem_cons_self ..) rfl
      have placed : (start.set pair.1 pair.2).entries = start.entries ++ [pair] :=
        place_of_not_mem pair.1 pair.2 start.entries absent
      have regrouped : start.entries ++ pair :: rest = start.entries ++ [pair] ++ rest := by
        simp
      rw [List.foldl_cons, ih, placed, regrouped]
      rw [placed, ← regrouped]
      exact distinct

/-- Pairs with distinct keys are stored as they are. -/
theorem entries_ofList (pairs : List (κ × α)) (distinct : (pairs.map Prod.fst).Nodup) :
    (ofList pairs).entries = pairs :=
  foldl_set_entries pairs empty distinct

theorem get?_ofList_iff {pairs : List (κ × α)} (distinct : (pairs.map Prod.fst).Nodup) (key : κ)
    (value : α) : (ofList pairs).get? key = some value ↔ (key, value) ∈ pairs := by
  rw [← mem_entries_iff, entries_ofList pairs distinct]

/-- Writing all entries of a dict over another. -/
theorem get?_foldl_set (start other : Dict κ α) (key : κ) :
    (other.entries.foldl (fun dict pair => dict.set pair.1 pair.2) start).get? key =
      (other.get? key).or (start.get? key) := by
  have whole : (ofList other.entries).get? key = other.get? key := by
    rw [get?, entries_ofList other.entries other.distinct]
    rfl
  rw [foldl_set_get?, ← get?_ofList, whole]

theorem ofList_eq_empty_iff (pairs : List (κ × α)) : (ofList pairs).keys = [] ↔ pairs = [] := by
  constructor
  · intro none
    cases pairs with
    | nil => rfl
    | cons pair rest =>
        have present : pair.1 ∈ (ofList (pair :: rest)).keys :=
          (mem_keys_ofList _ _).mpr (by simp)
        rw [none] at present
        cases present
  · intro none
    subst none
    rfl

end Dict

end VpnSuite.Foundations
