/-
Numbered records that are opened, refreshed and closed to follow what is wanted.

A pass looks up the open records of its scope by key.  A wanted item refreshes the record with
its key or opens a new one, and then the open records nobody wants are closed.  When no key is
open twice and the scope has every open record of a wanted key, no key is open twice after the
pass, and the open keys are the wanted ones with those open outside the scope.

Nothing here knows what the records are about.
-/

import VpnSuite.Foundations.KeyedPass
import VpnSuite.Foundations.OrderedDict

set_option autoImplicit false

namespace VpnSuite.Foundations

/-- Records under numbers that are given out once. -/
structure Records (α : Type) where
  rows : Dict Nat α
  nextId : Nat
  fresh : ∀ id ∈ rows.keys, id < nextId

namespace Records

variable {κ α δ : Type}

theorem fresh_empty : ∀ id ∈ (Dict.empty : Dict Nat α).keys, id < 0 := by
  intro id member
  cases member

def empty : Records α := ⟨Dict.empty, 0, fresh_empty⟩

def get? (records : Records α) (id : Nat) : Option α := records.rows.get? id

theorem fresh_set {records : Records α} {id next : Nat} (record : α) (below : id < next)
    (later : records.nextId ≤ next) : ∀ other ∈ (records.rows.set id record).keys, other < next := by
  intro other member
  rcases (Dict.mem_keys_set _ _ _ _).mp member with rfl | old
  · exact below
  · exact Nat.lt_of_lt_of_le (records.fresh other old) later

def add (records : Records α) (record : α) : Records α :=
  ⟨records.rows.set records.nextId record, records.nextId + 1,
    fresh_set record (Nat.lt_succ_self _) (Nat.le_succ _)⟩

def amend (records : Records α) (id : Nat) (change : α → α) : Records α :=
  match found : records.rows.get? id with
  | none => records
  | some record => ⟨records.rows.set id (change record), records.nextId,
      fresh_set _ (records.fresh id (Dict.mem_keys_of_get? found)) (Nat.le_refl _)⟩

/-- Delete the records a condition does not keep. -/
def retain (records : Records α) (keep : α → Bool) : Records α :=
  ⟨records.rows.sift (fun entry => keep entry.2), records.nextId, by
    intro id member
    obtain ⟨record, found⟩ := (Dict.mem_keys_iff _ id).mp member
    exact records.fresh id (Dict.mem_keys_of_get? ((Dict.get?_sift _ _ _ _).mp found).1)⟩

/-! ### What is stored under a number -/

@[simp] theorem get?_empty (id : Nat) : (empty : Records α).get? id = none := rfl

theorem get?_nextId (records : Records α) : records.get? records.nextId = none := by
  apply (records.rows.get?_eq_none_iff _).mpr
  intro member
  exact Nat.lt_irrefl _ (records.fresh _ member)

theorem get?_add (records : Records α) (record : α) (id : Nat) :
    (records.add record).get? id = if id = records.nextId then some record else records.get? id :=
  Dict.get?_set _ _ _ _

theorem get?_amend (records : Records α) (id : Nat) (change : α → α) (other : Nat) :
    (records.amend id change).get? other =
      if other = id then (records.get? other).map change else records.get? other := by
  unfold amend
  split
  · rename_i missing
    by_cases same : other = id
    · subst same
      have absent : records.get? other = none := missing
      rw [if_pos rfl, absent]
      rfl
    · rw [if_neg same]
  · rename_i record found
    have written : get? ⟨records.rows.set id (change record), records.nextId,
        fresh_set _ (records.fresh id (Dict.mem_keys_of_get? found)) (Nat.le_refl _)⟩ other =
          if other = id then some (change record) else records.get? other := Dict.get?_set _ _ _ _
    rw [written]
    by_cases same : other = id
    · subst same
      have present : records.get? other = some record := found
      rw [if_pos rfl, if_pos rfl, present]
      rfl
    · rw [if_neg same, if_neg same]

theorem get?_retain (records : Records α) (keep : α → Bool) (id : Nat) (record : α) :
    (records.retain keep).get? id = some record ↔
      records.get? id = some record ∧ keep record = true :=
  Dict.get?_sift _ _ _ _

end Records

/-! ### A pass -/

/-- What a pass does to records. -/
structure Upkeep (κ α δ : Type) where
  key : α → κ
  isOpen : α → Bool
  wanted : δ → κ
  create : δ → α
  refresh : δ → α → α
  close : α → α

namespace Upkeep

variable {κ α δ : Type} [DecidableEq κ]

/-- A created record is open under the wanted key, a refreshed one stays open under its own, and
a closed one is not open. -/
structure Lawful (upkeep : Upkeep κ α δ) : Prop where
  key_create : ∀ item, upkeep.key (upkeep.create item) = upkeep.wanted item
  isOpen_create : ∀ item, upkeep.isOpen (upkeep.create item) = true
  key_refresh : ∀ item record, upkeep.key (upkeep.refresh item record) = upkeep.key record
  isOpen_refresh : ∀ item record,
    upkeep.isOpen (upkeep.refresh item record) = upkeep.isOpen record
  isOpen_close : ∀ record, upkeep.isOpen (upkeep.close record) = false

section Pass

variable (upkeep : Upkeep κ α δ)

/-- The open records of the scope by key; of two with one key the last counts. -/
def index (scope : α → Bool) (records : Records α) : Dict κ Nat :=
  Dict.ofList ((records.rows.entries.filter (fun entry =>
    upkeep.isOpen entry.2 && scope entry.2)).map (fun entry => (upkeep.key entry.2, entry.1)))

def serve (found : Dict κ Nat) (records : Records α) (item : δ) : Records α :=
  match found.get? (upkeep.wanted item) with
  | some id => records.amend id (upkeep.refresh item)
  | none => records.add (upkeep.create item)

def closeUnwanted (wanted : List κ) (records : Records α) (entry : κ × Nat) : Records α :=
  if entry.1 ∈ wanted then records else records.amend entry.2 upkeep.close

def pass (scope : α → Bool) (items : List δ) (records : Records α) : Records α :=
  let found := upkeep.index scope records
  found.entries.foldl (upkeep.closeUnwanted (items.map upkeep.wanted))
    (items.foldl (upkeep.serve found) records)

/-- No key is open twice. -/
def OpenOnce (records : Records α) : Prop :=
  ∀ left right leftRecord rightRecord, records.get? left = some leftRecord →
    records.get? right = some rightRecord → upkeep.isOpen leftRecord = true →
    upkeep.isOpen rightRecord = true → upkeep.key leftRecord = upkeep.key rightRecord → left = right

end Pass

variable {upkeep : Upkeep κ α δ}

omit [DecidableEq κ] in
theorem openOnce_empty : upkeep.OpenOnce Records.empty := by
  intro left right leftRecord rightRecord found
  cases found

omit [DecidableEq κ] in
theorem OpenOnce.retain {records : Records α} (once : upkeep.OpenOnce records) (keep : α → Bool) :
    upkeep.OpenOnce (records.retain keep) := by
  intro left right leftRecord rightRecord atLeft atRight
  exact once left right leftRecord rightRecord ((Records.get?_retain _ _ _ _).mp atLeft).1
    ((Records.get?_retain _ _ _ _).mp atRight).1

theorem get?_index {records : Records α} (once : upkeep.OpenOnce records) (scope : α → Bool)
    (key : κ) (id : Nat) :
    (upkeep.index scope records).get? key = some id ↔
      ∃ record, records.get? id = some record ∧ upkeep.isOpen record = true ∧
        scope record = true ∧ upkeep.key record = key := by
  have member : ∀ entry : Nat × α, entry ∈ records.rows.entries.filter (fun entry =>
      upkeep.isOpen entry.2 && scope entry.2) ↔
        records.get? entry.1 = some entry.2 ∧ upkeep.isOpen entry.2 = true ∧
          scope entry.2 = true := by
    intro entry
    rw [List.mem_filter, Bool.and_eq_true]
    exact and_congr_left' (records.rows.mem_entries_iff entry.1 entry.2)
  have distinct : (((records.rows.entries.filter (fun entry =>
      upkeep.isOpen entry.2 && scope entry.2)).map (fun entry =>
        (upkeep.key entry.2, entry.1))).map Prod.fst).Nodup := by
    rw [List.map_map]
    apply List.Nodup.map_on
    · intro left inLeft right inRight same
      obtain ⟨atLeft, openLeft, _⟩ := (member left).mp inLeft
      obtain ⟨atRight, openRight, _⟩ := (member right).mp inRight
      have ids := once left.1 right.1 left.2 right.2 atLeft atRight openLeft openRight same
      rw [ids, atRight] at atLeft
      exact Prod.ext ids (Option.some.inj atLeft).symm
    · exact (records.rows.distinct.of_map _).filter _
  rw [index, Dict.get?_ofList_iff distinct, List.mem_map]
  constructor
  · rintro ⟨entry, inOpen, same⟩
    obtain ⟨found, isOpen, inScope⟩ := (member entry).mp inOpen
    obtain ⟨rfl, rfl⟩ := Prod.mk.inj same
    exact ⟨entry.2, found, isOpen, inScope, rfl⟩
  · rintro ⟨record, found, isOpen, inScope, rfl⟩
    exact ⟨(id, record), (member (id, record)).mpr ⟨found, isOpen, inScope⟩, rfl⟩

/-- A pass that looks at nothing and wants nothing. -/
theorem pass_nothing {scope : α → Bool} (nowhere : ∀ record, scope record = false)
    (records : Records α) : upkeep.pass scope [] records = records := by
  have unlisted : records.rows.entries.filter (fun entry =>
      upkeep.isOpen entry.2 && scope entry.2) = [] := by
    apply List.filter_eq_nil_iff.mpr
    intro entry _
    rw [nowhere, Bool.and_false]
    exact Bool.false_ne_true
  have unfound : (upkeep.index scope records).entries = [] := by
    rw [index, unlisted]
    rfl
  rw [pass, unfound]
  rfl

/-! ### Serving the wanted items -/

/-- What serving some items from a start has come to. -/
structure Served (upkeep : Upkeep κ α δ) (found : Dict κ Nat) (start : Records α) (items : List δ)
    (records : Records α) : Prop where
  refreshed : ∀ id record, start.get? id = some record → ∀ item ∈ items,
    found.get? (upkeep.wanted item) = some id →
      records.get? id = some (upkeep.refresh item record)
  kept : ∀ id record, start.get? id = some record →
    (∀ item ∈ items, found.get? (upkeep.wanted item) ≠ some id) → records.get? id = some record
  created : ∀ item ∈ items, found.get? (upkeep.wanted item) = none →
    ∃ id, start.get? id = none ∧ records.get? id = some (upkeep.create item)
  origin : ∀ id record, start.get? id = none → records.get? id = some record →
    ∃ item ∈ items, found.get? (upkeep.wanted item) = none ∧ record = upkeep.create item
  once : ∀ left right leftRecord rightRecord, start.get? left = none → start.get? right = none →
    records.get? left = some leftRecord → records.get? right = some rightRecord →
    upkeep.key leftRecord = upkeep.key rightRecord → left = right

theorem served_nil (found : Dict κ Nat) (start : Records α) :
    upkeep.Served found start [] start where
  refreshed := by
    intro id record stored item member
    cases member
  kept := fun id record stored _ => stored
  created := by
    intro item member
    cases member
  origin := by
    intro id record missing stored
    rw [missing] at stored
    cases stored
  once := by
    intro left right leftRecord rightRecord missing _ stored
    rw [missing] at stored
    cases stored

section Serve

variable {found : Dict κ Nat} {start records : Records α} {items : List δ} {item : δ}

theorem Served.refresh_step (served : upkeep.Served found start items records)
    (injective : ∀ left right id, found.get? left = some id → found.get? right = some id →
      left = right)
    (present : ∀ key id, found.get? key = some id → ∃ record, start.get? id = some record)
    (new : upkeep.wanted item ∉ items.map upkeep.wanted) {id : Nat}
    (hit : found.get? (upkeep.wanted item) = some id) :
    upkeep.Served found start (items ++ [item]) (records.amend id (upkeep.refresh item)) := by
  have elsewhere : ∀ other ∈ items, found.get? (upkeep.wanted other) ≠ some id := by
    intro other member atId
    have same := injective _ _ id hit atId
    exact new (same ▸ List.mem_map_of_mem member)
  obtain ⟨stored, atStart⟩ := present _ id hit
  have untouched : ∀ other, start.get? other = none →
      (records.amend id (upkeep.refresh item)).get? other = records.get? other := by
    intro other missing
    rw [Records.get?_amend, if_neg]
    rintro rfl
    rw [atStart] at missing
    cases missing
  constructor
  · intro other record inStart wantedItem member atOther
    rw [Records.get?_amend]
    rcases List.mem_append.mp member with earlier | last
    · have different : other ≠ id := by
        rintro rfl
        exact elsewhere wantedItem earlier atOther
      rw [if_neg different]
      exact served.refreshed other record inStart wantedItem earlier atOther
    · obtain rfl := List.mem_singleton.mp last
      obtain rfl := Option.some.inj (hit.symm.trans atOther)
      rw [if_pos rfl, served.kept id record inStart elsewhere]
      rfl
  · intro other record inStart unwanted
    have different : other ≠ id := by
      rintro rfl
      exact unwanted item (List.mem_append_right _ (List.mem_singleton_self item)) hit
    rw [Records.get?_amend, if_neg different]
    exact served.kept other record inStart
      (fun wantedItem member => unwanted wantedItem (List.mem_append_left _ member))
  · intro wantedItem member missing
    rcases List.mem_append.mp member with earlier | last
    · obtain ⟨other, notStored, made⟩ := served.created wantedItem earlier missing
      exact ⟨other, notStored, (untouched other notStored).trans made⟩
    · obtain rfl := List.mem_singleton.mp last
      rw [hit] at missing
      cases missing
  · intro other record notStored stored
    rw [untouched other notStored] at stored
    obtain ⟨wantedItem, member, rest⟩ := served.origin other record notStored stored
    exact ⟨wantedItem, List.mem_append_left _ member, rest⟩
  · intro left right leftRecord rightRecord noLeft noRight atLeft atRight
    rw [untouched left noLeft] at atLeft
    rw [untouched right noRight] at atRight
    exact served.once left right leftRecord rightRecord noLeft noRight atLeft atRight

theorem Served.create_step (lawful : upkeep.Lawful)
    (served : upkeep.Served found start items records)
    (within : ∀ id, records.get? id = none → start.get? id = none)
    (new : upkeep.wanted item ∉ items.map upkeep.wanted)
    (missed : found.get? (upkeep.wanted item) = none) :
    upkeep.Served found start (items ++ [item]) (records.add (upkeep.create item)) := by
  have notStored : start.get? records.nextId = none := within _ records.get?_nextId
  have older : ∀ id record, start.get? id = some record → id ≠ records.nextId := by
    rintro id record inStart rfl
    rw [notStored] at inStart
    cases inStart
  have differs : ∀ id record, start.get? id = none → records.get? id = some record →
      upkeep.key record ≠ upkeep.wanted item := by
    intro id record missing stored same
    obtain ⟨other, member, _, rfl⟩ := served.origin id record missing stored
    rw [lawful.key_create] at same
    exact new (same ▸ List.mem_map_of_mem member)
  constructor
  · intro id record inStart wantedItem member atId
    rw [Records.get?_add, if_neg (older id record inStart)]
    rcases List.mem_append.mp member with earlier | last
    · exact served.refreshed id record inStart wantedItem earlier atId
    · obtain rfl := List.mem_singleton.mp last
      rw [missed] at atId
      cases atId
  · intro id record inStart unwanted
    rw [Records.get?_add, if_neg (older id record inStart)]
    exact served.kept id record inStart
      (fun wantedItem member => unwanted wantedItem (List.mem_append_left _ member))
  · intro wantedItem member missing
    rcases List.mem_append.mp member with earlier | last
    · obtain ⟨id, absent, made⟩ := served.created wantedItem earlier missing
      have different : id ≠ records.nextId := by
        rintro rfl
        rw [records.get?_nextId] at made
        cases made
      exact ⟨id, absent, by rw [Records.get?_add, if_neg different, made]⟩
    · obtain rfl := List.mem_singleton.mp last
      exact ⟨records.nextId, notStored, by rw [Records.get?_add, if_pos rfl]⟩
  · intro id record absent stored
    rw [Records.get?_add] at stored
    split at stored
    · exact ⟨item, List.mem_append_right _ (List.mem_singleton_self item), missed,
        (Option.some.inj stored).symm⟩
    · obtain ⟨wantedItem, member, rest⟩ := served.origin id record absent stored
      exact ⟨wantedItem, List.mem_append_left _ member, rest⟩
  · intro left right leftRecord rightRecord noLeft noRight atLeft atRight same
    rw [Records.get?_add] at atLeft atRight
    split at atLeft <;> split at atRight
    · rename_i leftNew rightNew
      exact leftNew.trans rightNew.symm
    · obtain rfl := Option.some.inj atLeft
      rw [lawful.key_create] at same
      exact absurd same.symm (differs right rightRecord noRight atRight)
    · obtain rfl := Option.some.inj atRight
      rw [lawful.key_create] at same
      exact absurd same (differs left leftRecord noLeft atLeft)
    · exact served.once left right leftRecord rightRecord noLeft noRight atLeft atRight same

/-- No number of the start is lost. -/
theorem Served.within (served : upkeep.Served found start items records) (id : Nat)
    (missing : records.get? id = none) : start.get? id = none := by
  cases stored : start.get? id with
  | none => rfl
  | some record =>
      by_cases wanted : ∃ item ∈ items, found.get? (upkeep.wanted item) = some id
      · obtain ⟨item, member, atId⟩ := wanted
        rw [served.refreshed id record stored item member atId] at missing
        cases missing
      · have unwanted : ∀ item ∈ items, found.get? (upkeep.wanted item) ≠ some id :=
          fun item member atId => wanted ⟨item, member, atId⟩
        rw [served.kept id record stored unwanted] at missing
        cases missing

theorem Served.foldl_serve (lawful : upkeep.Lawful)
    (injective : ∀ left right id, found.get? left = some id → found.get? right = some id →
      left = right)
    (present : ∀ key id, found.get? key = some id → ∃ record, start.get? id = some record)
    (rest : List δ) {items : List δ} {records : Records α}
    (served : upkeep.Served found start items records)
    (distinct : ((items ++ rest).map upkeep.wanted).Nodup) :
    upkeep.Served found start (items ++ rest) (rest.foldl (upkeep.serve found) records) := by
  induction rest generalizing items records with
  | nil =>
      rw [List.append_nil]
      exact served
  | cons item rest ih =>
      have regrouped : items ++ item :: rest = items ++ [item] ++ rest := by simp
      have new : upkeep.wanted item ∉ items.map upkeep.wanted := by
        rw [List.map_append, List.map_cons] at distinct
        intro member
        exact (List.nodup_append.mp distinct).2.2 _ member _ (List.mem_cons_self ..) rfl
      rw [regrouped] at distinct ⊢
      rw [List.foldl_cons]
      refine ih ?_ distinct
      unfold serve
      split
      · rename_i id hit
        exact served.refresh_step injective present new hit
      · rename_i missed
        exact served.create_step lawful served.within new missed

end Serve

/-! ### What a pass leaves -/

/-- The key is open. -/
def OpenAt (upkeep : Upkeep κ α δ) (records : Records α) (key : κ) : Prop :=
  ∃ id record, records.get? id = some record ∧ upkeep.isOpen record = true ∧
    upkeep.key record = key

/-- What has become of each record of the start, and which records are new. -/
structure Settled (upkeep : Upkeep κ α δ) (scope : α → Bool) (items : List δ)
    (start records : Records α) : Prop where
  refreshed : ∀ id record, start.get? id = some record → upkeep.isOpen record = true →
    scope record = true → ∀ item ∈ items, upkeep.wanted item = upkeep.key record →
      records.get? id = some (upkeep.refresh item record)
  closed : ∀ id record, start.get? id = some record → upkeep.isOpen record = true →
    scope record = true → upkeep.key record ∉ items.map upkeep.wanted →
      records.get? id = some (upkeep.close record)
  kept : ∀ id record, start.get? id = some record →
    (upkeep.isOpen record = true → scope record = false) → records.get? id = some record
  created : ∀ item ∈ items, (∀ id record, start.get? id = some record →
    upkeep.isOpen record = true → scope record = true → upkeep.key record ≠ upkeep.wanted item) →
      ∃ id, start.get? id = none ∧ records.get? id = some (upkeep.create item)
  origin : ∀ id record, start.get? id = none → records.get? id = some record →
    ∃ item ∈ items, record = upkeep.create item

theorem closeUnwanted_keyed (wanted : List κ) :
    KeyedStep Records.get? Prod.snd
      (fun entry record => if entry.1 ∈ wanted then record else record.map upkeep.close)
      (upkeep.closeUnwanted wanted) where
  own := by
    intro records entry
    unfold closeUnwanted
    split
    · rfl
    · rw [Records.get?_amend, if_pos rfl]
  frame := by
    intro records entry id different
    unfold closeUnwanted
    split
    · rfl
    · rw [Records.get?_amend, if_neg different]

section Outcome

variable {scope : α → Bool} {items : List δ} {start : Records α}

theorem index_injective (once : upkeep.OpenOnce start) (left right : κ) (id : Nat)
    (atLeft : (upkeep.index scope start).get? left = some id)
    (atRight : (upkeep.index scope start).get? right = some id) : left = right := by
  obtain ⟨leftRecord, storedLeft, _, _, rfl⟩ := (get?_index once scope left id).mp atLeft
  obtain ⟨rightRecord, storedRight, _, _, rfl⟩ := (get?_index once scope right id).mp atRight
  rw [storedLeft] at storedRight
  rw [Option.some.inj storedRight]

theorem index_ids_nodup (once : upkeep.OpenOnce start) :
    ((upkeep.index scope start).entries.map Prod.snd).Nodup := by
  apply List.Nodup.map_on
  · intro left inLeft right inRight same
    have atLeft := (Dict.mem_entries_iff _ left.1 left.2).mp inLeft
    have atRight := (Dict.mem_entries_iff _ right.1 right.2).mp inRight
    rw [← same] at atRight
    exact Prod.ext (index_injective once left.1 right.1 left.2 atLeft atRight) same
  · exact (upkeep.index scope start).distinct.of_map _

theorem served_pass (lawful : upkeep.Lawful) (once : upkeep.OpenOnce start)
    (distinct : (items.map upkeep.wanted).Nodup) :
    upkeep.Served (upkeep.index scope start) start items
      (items.foldl (upkeep.serve (upkeep.index scope start)) start) := by
  have present : ∀ key id, (upkeep.index scope start).get? key = some id →
      ∃ record, start.get? id = some record := by
    intro key id found
    obtain ⟨record, stored, _⟩ := (get?_index once scope key id).mp found
    exact ⟨record, stored⟩
  have nothing : upkeep.Served (upkeep.index scope start) start [] start := served_nil _ _
  exact nothing.foldl_serve lawful (index_injective once) present items distinct

/-- A number the index does not have is not touched when the unwanted are closed. -/
theorem pass_frame (once : upkeep.OpenOnce start) (id : Nat)
    (outside : ∀ record, start.get? id = some record → upkeep.isOpen record = true →
      scope record = false) :
    (upkeep.pass scope items start).get? id =
      (items.foldl (upkeep.serve (upkeep.index scope start)) start).get? id := by
  apply (closeUnwanted_keyed (items.map upkeep.wanted)).foldl_frame
  intro member
  obtain ⟨entry, inIndex, rfl⟩ := List.mem_map.mp member
  have found := (Dict.mem_entries_iff _ entry.1 entry.2).mp inIndex
  obtain ⟨record, stored, isOpen, inScope, _⟩ := (get?_index once scope _ _).mp found
  rw [outside record stored isOpen] at inScope
  cases inScope

theorem pass_own (once : upkeep.OpenOnce start) {id : Nat} {record : α}
    (stored : start.get? id = some record) (isOpen : upkeep.isOpen record = true)
    (inScope : scope record = true) :
    (upkeep.pass scope items start).get? id =
      if upkeep.key record ∈ items.map upkeep.wanted
      then (items.foldl (upkeep.serve (upkeep.index scope start)) start).get? id
      else ((items.foldl (upkeep.serve (upkeep.index scope start)) start).get? id).map
        upkeep.close := by
  have found : (upkeep.index scope start).get? (upkeep.key record) = some id :=
    (get?_index once scope _ _).mpr ⟨record, stored, isOpen, inScope, rfl⟩
  exact (closeUnwanted_keyed (items.map upkeep.wanted)).foldl_own _ (index_ids_nodup once) _
    ((Dict.mem_entries_iff _ (upkeep.key record) id).mpr found)

theorem pass_settled (lawful : upkeep.Lawful) (once : upkeep.OpenOnce start)
    (distinct : (items.map upkeep.wanted).Nodup) :
    upkeep.Settled scope items start (upkeep.pass scope items start) := by
  have served : upkeep.Served (upkeep.index scope start) start items
      (items.foldl (upkeep.serve (upkeep.index scope start)) start) :=
    served_pass lawful once distinct
  have index := get?_index once scope
  constructor
  · intro id record stored isOpen inScope item member same
    have wanted : upkeep.key record ∈ items.map upkeep.wanted :=
      same ▸ List.mem_map_of_mem member
    rw [pass_own once stored isOpen inScope, if_pos wanted]
    exact served.refreshed id record stored item member
      ((index _ _).mpr ⟨record, stored, isOpen, inScope, same.symm⟩)
  · intro id record stored isOpen inScope unwanted
    have notServed : ∀ item ∈ items,
        (upkeep.index scope start).get? (upkeep.wanted item) ≠ some id := by
      intro item member found
      have own := (index _ _).mpr ⟨record, stored, isOpen, inScope, rfl⟩
      have same := index_injective once _ _ id own found
      exact unwanted (same ▸ List.mem_map_of_mem member)
    rw [pass_own once stored isOpen inScope, if_neg unwanted,
      served.kept id record stored notServed]
    rfl
  · intro id record stored outside
    have notServed : ∀ item ∈ items,
        (upkeep.index scope start).get? (upkeep.wanted item) ≠ some id := by
      intro item member found
      obtain ⟨other, atId, isOpen, inScope, _⟩ := (index _ _).mp found
      rw [stored] at atId
      obtain rfl := Option.some.inj atId
      rw [outside isOpen] at inScope
      cases inScope
    rw [pass_frame once id, served.kept id record stored notServed]
    intro other atId isOpen
    rw [stored] at atId
    obtain rfl := Option.some.inj atId
    exact outside isOpen
  · intro item member noneOpen
    have missing : (upkeep.index scope start).get? (upkeep.wanted item) = none := by
      rw [Option.eq_none_iff_forall_ne_some]
      intro id found
      obtain ⟨record, stored, isOpen, inScope, same⟩ := (index _ _).mp found
      exact noneOpen id record stored isOpen inScope same
    obtain ⟨id, new, made⟩ := served.created item member missing
    refine ⟨id, new, ?_⟩
    rw [pass_frame once id, made]
    intro record stored
    rw [new] at stored
    cases stored
  · intro id record new stored
    rw [pass_frame once id (fun other atId => by rw [new] at atId; cases atId)] at stored
    obtain ⟨item, member, _, made⟩ := served.origin id record new stored
    exact ⟨item, member, made⟩

/-- A record open after the pass is a new one or was open under its key before. -/
theorem open_before (lawful : upkeep.Lawful) (once : upkeep.OpenOnce start)
    (distinct : (items.map upkeep.wanted).Nodup) {id : Nat} {record : α}
    (stored : (upkeep.pass scope items start).get? id = some record)
    (isOpen : upkeep.isOpen record = true) :
    start.get? id = none ∨ ∃ old, start.get? id = some old ∧ upkeep.isOpen old = true ∧
      upkeep.key old = upkeep.key record ∧
      (scope old = true → upkeep.key old ∈ items.map upkeep.wanted) := by
  have settled : upkeep.Settled scope items start (upkeep.pass scope items start) :=
    pass_settled lawful once distinct
  cases before : start.get? id with
  | none => exact Or.inl rfl
  | some old =>
      right
      refine ⟨old, rfl, ?_⟩
      by_cases handled : upkeep.isOpen old = true ∧ scope old = true
      · obtain ⟨wasOpen, inScope⟩ := handled
        by_cases wanted : upkeep.key old ∈ items.map upkeep.wanted
        · obtain ⟨item, member, same⟩ := List.mem_map.mp wanted
          have after := settled.refreshed id old before wasOpen inScope item member same
          rw [after] at stored
          obtain rfl := Option.some.inj stored
          exact ⟨wasOpen, (lawful.key_refresh item old).symm, fun _ => wanted⟩
        · have after := settled.closed id old before wasOpen inScope wanted
          rw [after] at stored
          obtain rfl := Option.some.inj stored
          rw [lawful.isOpen_close] at isOpen
          cases isOpen
      · have after := settled.kept id old before (fun wasOpen =>
          Bool.eq_false_iff.mpr (fun inScope => handled ⟨wasOpen, inScope⟩))
        rw [after] at stored
        obtain rfl := Option.some.inj stored
        exact ⟨isOpen, rfl, fun inScope => absurd ⟨isOpen, inScope⟩ handled⟩

theorem pass_openOnce (lawful : upkeep.Lawful) (once : upkeep.OpenOnce start)
    (distinct : (items.map upkeep.wanted).Nodup)
    (covered : ∀ item ∈ items, ∀ id record, start.get? id = some record →
      upkeep.isOpen record = true → upkeep.key record = upkeep.wanted item →
      scope record = true) :
    upkeep.OpenOnce (upkeep.pass scope items start) := by
  have served : upkeep.Served (upkeep.index scope start) start items
      (items.foldl (upkeep.serve (upkeep.index scope start)) start) :=
    served_pass lawful once distinct
  have unserved : ∀ id, start.get? id = none → (upkeep.pass scope items start).get? id =
      (items.foldl (upkeep.serve (upkeep.index scope start)) start).get? id := by
    intro id new
    apply pass_frame once id
    intro record stored
    rw [new] at stored
    cases stored
  -- a new record has no open record of its key in the start
  have apart : ∀ id record other old, start.get? id = none →
      (upkeep.pass scope items start).get? id = some record → start.get? other = some old →
      upkeep.isOpen old = true → upkeep.key old ≠ upkeep.key record := by
    intro id record other old new stored before wasOpen same
    rw [unserved id new] at stored
    obtain ⟨item, member, missing, rfl⟩ := served.origin id record new stored
    rw [lawful.key_create] at same
    have inScope := covered item member other old before wasOpen same
    have found := (get?_index once scope _ _).mpr ⟨old, before, wasOpen, inScope, same⟩
    rw [missing] at found
    cases found
  intro left right leftRecord rightRecord atLeft atRight openLeft openRight same
  rcases open_before lawful once distinct atLeft openLeft with
    newLeft | ⟨oldLeft, beforeLeft, wasLeft, keyLeft, _⟩
  · rcases open_before lawful once distinct atRight openRight with
      newRight | ⟨oldRight, beforeRight, wasRight, keyRight, _⟩
    · rw [unserved left newLeft] at atLeft
      rw [unserved right newRight] at atRight
      exact served.once left right leftRecord rightRecord newLeft newRight atLeft atRight same
    · exact absurd (keyRight.trans same.symm)
        (apart left leftRecord right oldRight newLeft atLeft beforeRight wasRight)
  · rcases open_before lawful once distinct atRight openRight with
      newRight | ⟨oldRight, beforeRight, wasRight, keyRight, _⟩
    · exact absurd (keyLeft.trans same)
        (apart right rightRecord left oldLeft newRight atRight beforeLeft wasLeft)
    · exact once left right oldLeft oldRight beforeLeft beforeRight wasLeft wasRight
        (keyLeft.trans (same.trans keyRight.symm))

/-- The open keys after a pass: the wanted ones, with those open outside the scope. -/
theorem openAt_pass (lawful : upkeep.Lawful) (once : upkeep.OpenOnce start)
    (distinct : (items.map upkeep.wanted).Nodup) (key : κ) :
    upkeep.OpenAt (upkeep.pass scope items start) key ↔
      key ∈ items.map upkeep.wanted ∨
        ∃ id record, start.get? id = some record ∧ upkeep.isOpen record = true ∧
          upkeep.key record = key ∧ scope record = false := by
  have settled : upkeep.Settled scope items start (upkeep.pass scope items start) :=
    pass_settled lawful once distinct
  constructor
  · rintro ⟨id, record, stored, isOpen, rfl⟩
    rcases open_before lawful once distinct stored isOpen with
      new | ⟨old, before, wasOpen, same, wanted⟩
    · obtain ⟨item, member, rfl⟩ := settled.origin id record new stored
      rw [lawful.key_create]
      exact Or.inl (List.mem_map_of_mem member)
    · cases inScope : scope old with
      | true => exact Or.inl (same ▸ wanted inScope)
      | false => exact Or.inr ⟨id, old, before, wasOpen, same, inScope⟩
  · rintro (wanted | ⟨id, record, before, isOpen, same, outside⟩)
    · obtain ⟨item, member, rfl⟩ := List.mem_map.mp wanted
      by_cases known : ∃ id record, start.get? id = some record ∧ upkeep.isOpen record = true ∧
          scope record = true ∧ upkeep.key record = upkeep.wanted item
      · obtain ⟨id, record, before, isOpen, inScope, same⟩ := known
        have after := settled.refreshed id record before isOpen inScope item member same.symm
        refine ⟨id, _, after, ?_, ?_⟩
        · rw [lawful.isOpen_refresh, isOpen]
        · rw [lawful.key_refresh, same]
      · obtain ⟨id, _, made⟩ := settled.created item member (fun id record before isOpen inScope same =>
          known ⟨id, record, before, isOpen, inScope, same⟩)
        exact ⟨id, _, made, lawful.isOpen_create item, lawful.key_create item⟩
    · exact ⟨id, record, settled.kept id record before (fun _ => outside), isOpen, same⟩

end Outcome

end Upkeep

end VpnSuite.Foundations
