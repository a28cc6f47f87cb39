/-
Rows that are meant to be used once, checked first and marked later.

A party selects the row behind a key, checks the copy it has read against the clock, may
look at other data, and commits: the row is marked and the party is served.  No row is
locked between the statements, so two parties can pass the check on copies of one unmarked
row.  What the use of a row is worth rests on the parties: if nobody selects a row while
another party may still use it, and the clock does not run past the expiry of a row that
has been checked and not yet used, then every row serves one party, in time.

Rows, keys, payloads and the other data are arbitrary.
-/

import VpnSuite.Foundations.ExclusiveWrites
import VpnSuite.Foundations.OrderedDict
import VpnSuite.Foundations.StepRuns

set_option autoImplicit false

namespace VpnSuite.Foundations.OneTimeUse

variable {κ ρ δ π : Type} [DecidableEq κ]

/-- A kind of row: how it is found and refused, and what using it hands out, either at once or
after a look at the other data. -/
structure Kind (κ ρ δ π : Type) [DecidableEq κ] where
  find : κ → Dict κ ρ → Option (κ × ρ)
  consumed : ρ → Bool
  expired : ρ → Int → Bool
  direct : ρ → Option π
  lookup : δ → ρ → Option π
  mark : Int → ρ → ρ

/-- Marking a row consumes it and changes neither its expiry nor what is found. -/
structure Kind.Lawful (kind : Kind κ ρ δ π) : Prop where
  stored : ∀ {slot rows entry}, kind.find slot rows = some entry →
    rows.get? entry.1 = some entry.2
  find_mark : ∀ {slot rows key row} (instant : Int), rows.get? key = some row →
    kind.find slot (rows.set key (kind.mark instant row)) =
      (kind.find slot rows).map (fun entry =>
        if entry.1 = key then (key, kind.mark instant row) else entry)
  consumed_mark : ∀ instant row, kind.consumed (kind.mark instant row) = true
  expired_mark : ∀ instant row now, kind.expired (kind.mark instant row) now = kind.expired row now

/-- What a party has selected: the slot it asked for, and the row's key and copy. -/
structure Visit (κ ρ : Type) where
  slot : κ
  key : κ
  row : ρ
  deriving DecidableEq, Repr

inductive Phase (κ ρ π : Type) where
  | idle
  | selected (visit : Visit κ ρ)
  | passed (visit : Visit κ ρ) (readAt : Int)
  | ready (visit : Visit κ ρ) (payload : π) (readAt markedAt : Int)
  | served (visit : Visit κ ρ) (payload : π) (readAt returnedAt : Int)
  | refused
  deriving DecidableEq, Repr

structure System (κ ρ δ π : Type) [DecidableEq κ] where
  rows : Dict κ ρ
  data : δ
  now : Int
  phases : Nat → Phase κ ρ π

def System.start (rows : Dict κ ρ) (data : δ) (now : Int) : System κ ρ δ π :=
  ⟨rows, data, now, fun _ => .idle⟩

def System.setPhase (system : System κ ρ δ π) (party : Nat) (phase : Phase κ ρ π) :
    System κ ρ δ π :=
  { system with phases := Function.update system.phases party phase }

inductive Event (κ δ : Type) where
  | tick (instant : Int)
  | elsewhere (data : δ)
  | select (party : Nat) (slot : κ)
  | check (party : Nat)
  | look (party : Nat)
  | commit (party : Nat)

/-- One statement of a party, the clock going forward, or a change of the other data.  A
statement out of turn does nothing. -/
def step (kind : Kind κ ρ δ π) (system : System κ ρ δ π) : Event κ δ → System κ ρ δ π
  | .tick instant =>
      { system with now := if system.now ≤ instant then instant else system.now }
  | .elsewhere data => { system with data := data }
  | .select party slot =>
      match system.phases party with
      | .idle =>
          match kind.find slot system.rows with
          | none => system.setPhase party .refused
          | some (key, row) => system.setPhase party (.selected ⟨slot, key, row⟩)
      | _ => system
  | .check party =>
      match system.phases party with
      | .selected visit =>
          if kind.consumed visit.row || kind.expired visit.row system.now then
            system.setPhase party .refused
          else
            match kind.direct visit.row with
            | none => system.setPhase party (.passed visit system.now)
            | some payload =>
                system.setPhase party (.ready visit payload system.now system.now)
      | _ => system
  | .look party =>
      match system.phases party with
      | .passed visit readAt =>
          match kind.lookup system.data visit.row with
          | none => system.setPhase party .refused
          | some payload => system.setPhase party (.ready visit payload readAt system.now)
      | _ => system
  | .commit party =>
      match system.phases party with
      | .ready visit payload readAt markedAt =>
          match system.rows.get? visit.key with
          | none => system.setPhase party .refused
          | some current =>
              { system.setPhase party (.served visit payload readAt system.now) with
                rows := system.rows.set visit.key (kind.mark markedAt current) }
      | _ => system

def Phase.payload : Phase κ ρ π → Option π
  | .served _ payload _ _ => some payload
  | _ => none

/-! ### What every run keeps -/

def Phase.visit : Phase κ ρ π → Option (Visit κ ρ)
  | .selected visit => some visit
  | .passed visit _ => some visit
  | .ready visit _ _ _ => some visit
  | .served visit _ _ _ => some visit
  | _ => none

/-- The reading of the clock a party has passed its check with. -/
def Phase.read : Phase κ ρ π → Option (Visit κ ρ × Int)
  | .passed visit readAt => some (visit, readAt)
  | .ready visit _ readAt _ => some (visit, readAt)
  | .served visit _ readAt _ => some (visit, readAt)
  | _ => none

def Phase.served? : Phase κ ρ π → Option (Visit κ ρ × Int)
  | .served visit _ _ returnedAt => some (visit, returnedAt)
  | _ => none

omit [DecidableEq κ] in
theorem visit_of_read {phase : Phase κ ρ π} {visit : Visit κ ρ} {readAt : Int}
    (read : phase.read = some (visit, readAt)) : phase.visit = some visit := by
  cases phase <;> cases read <;> rfl

omit [DecidableEq κ] in
theorem visit_of_served {phase : Phase κ ρ π} {visit : Visit κ ρ} {returnedAt : Int}
    (served : phase.served? = some (visit, returnedAt)) : phase.visit = some visit := by
  cases phase with
  | served own payload readAt returned =>
      cases served
      rfl
  | _ => cases served

/-- What is known of one party: its row is still found, with the expiry it has read; its check
was in time; and once it is served, the row is marked. -/
structure PhaseFacts (kind : Kind κ ρ δ π) (rows : Dict κ ρ) (phase : Phase κ ρ π) : Prop where
  known : ∀ visit, phase.visit = some visit → ∃ current,
    kind.find visit.slot rows = some (visit.key, current) ∧
      ∀ now, kind.expired current now = kind.expired visit.row now
  read : ∀ visit readAt, phase.read = some (visit, readAt) → kind.expired visit.row readAt = false
  spent : ∀ visit returnedAt, phase.served? = some (visit, returnedAt) → ∀ entry,
    kind.find visit.slot rows = some entry → kind.consumed entry.2 = true

section Steps

variable {kind : Kind κ ρ δ π} {system : System κ ρ δ π} {party : Nat}

/-- What a statement does to its party, and the rows it leaves. -/
inductive Moved (kind : Kind κ ρ δ π) (system : System κ ρ δ π) (party : Nat) :
    Event κ δ → Phase κ ρ π → Dict κ ρ → Prop where
  | refused {event : Event κ δ} : Moved kind system party event .refused system.rows
  | selected {slot key : κ} {row : ρ} (found : kind.find slot system.rows = some (key, row)) :
      Moved kind system party (.select party slot) (.selected ⟨slot, key, row⟩) system.rows
  | passed {visit : Visit κ ρ} (was : system.phases party = .selected visit)
      (unused : kind.consumed visit.row = false)
      (unexpired : kind.expired visit.row system.now = false) :
      Moved kind system party (.check party) (.passed visit system.now) system.rows
  | direct {visit : Visit κ ρ} {payload : π} (was : system.phases party = .selected visit)
      (unused : kind.consumed visit.row = false)
      (unexpired : kind.expired visit.row system.now = false) :
      Moved kind system party (.check party) (.ready visit payload system.now system.now)
        system.rows
  | ready {visit : Visit κ ρ} {payload : π} {readAt : Int}
      (was : system.phases party = .passed visit readAt) :
      Moved kind system party (.look party) (.ready visit payload readAt system.now) system.rows
  | served {visit : Visit κ ρ} {payload : π} {readAt markedAt : Int} {current : ρ}
      (was : system.phases party = .ready visit payload readAt markedAt)
      (stored : system.rows.get? visit.key = some current) :
      Moved kind system party (.commit party) (.served visit payload readAt system.now)
        (system.rows.set visit.key (kind.mark markedAt current))

/-- Everything a step can do. -/
theorem step_cases (kind : Kind κ ρ δ π) (system : System κ ρ δ π) (event : Event κ δ) :
    step kind system event = system ∨
      (∃ instant, event = .tick instant ∧
        step kind system event = { system with now := instant }) ∨
      (∃ data, step kind system event = { system with data := data }) ∨
      ∃ party phase rows, Moved kind system party event phase rows ∧
        step kind system event =
          { system with rows := rows, phases := Function.update system.phases party phase } := by
  cases event with
  | tick instant =>
      by_cases later : system.now ≤ instant
      · exact Or.inr (Or.inl ⟨instant, rfl, by simp [step, later]⟩)
      · exact Or.inl (by simp [step, later])
  | elsewhere data => exact Or.inr (Or.inr (Or.inl ⟨data, rfl⟩))
  | select party slot =>
      cases was : system.phases party with
      | idle =>
          right; right; right
          cases found : kind.find slot system.rows with
          | none => exact ⟨party, _, _, .refused, by simp [step, was, found, System.setPhase]⟩
          | some entry =>
              exact ⟨party, _, _, .selected found, by simp [step, was, found, System.setPhase]⟩
      | _ => exact Or.inl (by simp [step, was])
  | check party =>
      cases was : system.phases party with
      | selected visit =>
          right; right; right
          cases used : kind.consumed visit.row || kind.expired visit.row system.now with
          | true => exact ⟨party, _, _, .refused, by simp [step, was, used, System.setPhase]⟩
          | false =>
              obtain ⟨unused, unexpired⟩ := Bool.or_eq_false_iff.mp used
              cases given : kind.direct visit.row with
              | none =>
                  exact ⟨party, _, _, .passed was unused unexpired, by
                    simp [step, was, unused, unexpired, given, System.setPhase]⟩
              | some payload =>
                  exact ⟨party, .ready visit payload _ _, _, .direct was unused unexpired, by
                    simp [step, was, unused, unexpired, given, System.setPhase]⟩
      | _ => exact Or.inl (by simp [step, was])
  | look party =>
      cases was : system.phases party with
      | passed visit readAt =>
          right; right; right
          cases given : kind.lookup system.data visit.row with
          | none => exact ⟨party, _, _, .refused, by simp [step, was, given, System.setPhase]⟩
          | some payload =>
              exact ⟨party, .ready visit payload _ _, _, .ready was, by
                simp [step, was, given, System.setPhase]⟩
      | _ => exact Or.inl (by simp [step, was])
  | commit party =>
      cases was : system.phases party with
      | ready visit payload readAt markedAt =>
          right; right; right
          cases stored : system.rows.get? visit.key with
          | none => exact ⟨party, _, _, .refused, by simp [step, was, stored, System.setPhase]⟩
          | some current =>
              exact ⟨party, _, _, .served was stored, by
                simp [step, was, stored, System.setPhase]⟩
      | _ => exact Or.inl (by simp [step, was])

theorem PhaseFacts.idle (rows : Dict κ ρ) : PhaseFacts kind rows .idle :=
  ⟨nofun, nofun, nofun⟩

theorem PhaseFacts.refused (rows : Dict κ ρ) : PhaseFacts kind rows .refused :=
  ⟨nofun, nofun, nofun⟩

/-- Marking a row disturbs nobody's facts. -/
theorem PhaseFacts.mark (lawful : kind.Lawful) {rows : Dict κ ρ} {phase : Phase κ ρ π} {key : κ}
    {row : ρ} (instant : Int) (facts : PhaseFacts kind rows phase)
    (stored : rows.get? key = some row) :
    PhaseFacts kind (rows.set key (kind.mark instant row)) phase := by
  refine ⟨?_, facts.read, ?_⟩
  · intro visit visiting
    obtain ⟨current, found, sameExpiry⟩ := facts.known visit visiting
    rw [lawful.find_mark instant stored, found, Option.map_some]
    by_cases same : visit.key = key
    · rw [if_pos same, same]
      refine ⟨_, rfl, ?_⟩
      intro now
      have here : row = current := by
        have atKey := lawful.stored found
        rw [same, stored] at atKey
        exact Option.some.inj atKey
      rw [lawful.expired_mark, here, sameExpiry]
    · rw [if_neg same]
      exact ⟨current, rfl, sameExpiry⟩
  · intro visit returnedAt served entry found
    rw [lawful.find_mark instant stored] at found
    obtain ⟨before, foundBefore, rfl⟩ := Option.map_eq_some_iff.mp found
    split
    · exact lawful.consumed_mark instant row
    · exact facts.spent visit returnedAt served before foundBefore

theorem facts_update {rows : Dict κ ρ} {phases : Nat → Phase κ ρ π} {phase : Phase κ ρ π}
    (others : ∀ other, PhaseFacts kind rows (phases other)) (own : PhaseFacts kind rows phase)
    (other : Nat) : PhaseFacts kind rows (Function.update phases party phase other) := by
  by_cases same : other = party
  · rw [same, Function.update_self]
    exact own
  · rw [Function.update_of_ne same]
    exact others other

/-- A party's own facts after its statement. -/
theorem Moved.facts (lawful : kind.Lawful) {event : Event κ δ} {phase : Phase κ ρ π}
    {rows : Dict κ ρ} (before : PhaseFacts kind system.rows (system.phases party))
    (moved : Moved kind system party event phase rows) : PhaseFacts kind rows phase := by
  cases moved with
  | refused => exact .refused _
  | selected found =>
      refine ⟨?_, nofun, nofun⟩
      rintro _ ⟨⟩
      exact ⟨_, found, fun _ => rfl⟩
  | passed was unused unexpired =>
      rw [was] at before
      refine ⟨before.known, ?_, nofun⟩
      rintro _ _ ⟨⟩
      exact unexpired
  | direct was unused unexpired =>
      rw [was] at before
      refine ⟨before.known, ?_, nofun⟩
      rintro _ _ ⟨⟩
      exact unexpired
  | ready was =>
      rw [was] at before
      exact ⟨before.known, before.read, nofun⟩
  | @served visit payload readAt markedAt current was stored =>
      rw [was] at before
      have marked := before.mark lawful markedAt stored
      refine ⟨marked.known, marked.read, ?_⟩
      rintro _ _ ⟨⟩ entry found
      obtain ⟨row, foundBefore, -⟩ := before.known visit rfl
      rw [lawful.find_mark markedAt stored, foundBefore, Option.map_some, if_pos rfl] at found
      rw [← Option.some.inj found]
      exact lawful.consumed_mark markedAt current

theorem Moved.others (lawful : kind.Lawful) {event : Event κ δ} {phase other : Phase κ ρ π}
    {rows : Dict κ ρ} (before : PhaseFacts kind system.rows other)
    (moved : Moved kind system party event phase rows) : PhaseFacts kind rows other := by
  cases moved with
  | served was stored => exact before.mark lawful _ stored
  | _ => exact before

theorem facts_step (lawful : kind.Lawful) (event : Event κ δ)
    (facts : ∀ party, PhaseFacts kind system.rows (system.phases party)) (party : Nat) :
    PhaseFacts kind (step kind system event).rows ((step kind system event).phases party) := by
  obtain same | ⟨_, -, same⟩ | ⟨_, same⟩ | ⟨mover, phase, rows, moved, same⟩ :=
    step_cases kind system event
  · rw [same]
    exact facts party
  · rw [same]
    exact facts party
  · rw [same]
    exact facts party
  · rw [same]
    exact facts_update (fun other => moved.others lawful (facts other))
      (moved.facts lawful (facts mover)) party

end Steps

theorem facts_run {kind : Kind κ ρ δ π} (lawful : kind.Lawful) (rows : Dict κ ρ) (data : δ)
    (now : Int) (events : List (Event κ δ)) :
    EveryState (step kind) (System.start rows data now) events (fun system =>
      ∀ party, PhaseFacts kind system.rows (system.phases party)) :=
  everyState_of_step (fun _ event facts => facts_step lawful event facts)
    (fun _ => PhaseFacts.idle rows)

/-- Whoever has passed the check has read the clock no later than the expiry of the row. -/
def CheckedInTime (kind : Kind κ ρ δ π) (system : System κ ρ δ π) : Prop :=
  ∀ party visit readAt, (system.phases party).read = some (visit, readAt) → ∀ entry,
    kind.find visit.slot system.rows = some entry → kind.expired entry.2 readAt = false

/-- The check holds whatever the order of the statements. -/
theorem checkedInTime_run {kind : Kind κ ρ δ π} (lawful : kind.Lawful) (rows : Dict κ ρ) (data : δ)
    (now : Int) (events : List (Event κ δ)) :
    EveryState (step kind) (System.start rows data now) events (CheckedInTime kind) := by
  refine (facts_run lawful rows data now events).imp ?_
  intro system facts party visit readAt read entry found
  obtain ⟨current, known, sameExpiry⟩ := (facts party).known visit (visit_of_read read)
  obtain rfl := Option.some.inj (known.symm.trans found)
  rw [sameExpiry]
  exact (facts party).read visit readAt read

/-! ### What careful parties keep -/

/-- The slot a party may still use, or has used. -/
def Kind.claim (kind : Kind κ ρ δ π) : Phase κ ρ π → Option κ
  | .selected visit => if kind.consumed visit.row then none else some visit.slot
  | .passed visit _ => some visit.slot
  | .ready visit _ _ _ => some visit.slot
  | .served visit _ _ _ => some visit.slot
  | _ => none

def Kind.clash (kind : Kind κ ρ δ π) (left right : Phase κ ρ π) : Prop :=
  ∃ slot, kind.claim left = some slot ∧ kind.claim right = some slot

/-- The row a party has checked and not used yet. -/
def Phase.pending : Phase κ ρ π → Option ρ
  | .passed visit _ => some visit.row
  | .ready visit _ _ _ => some visit.row
  | _ => none

/-- The care: nobody selects an unmarked row while another party that may use it is not done,
and no checked row is left unused past its expiry. -/
def Careful (kind : Kind κ ρ δ π) (system : System κ ρ δ π) : Event κ δ → Prop
  | .select party slot =>
      ∀ entry, kind.find slot system.rows = some entry → kind.consumed entry.2 = false →
        ∀ other, other ≠ party → (system.phases other).served? = none →
          kind.claim (system.phases other) ≠ some slot
  | .tick instant =>
      ∀ party row, (system.phases party).pending = some row → kind.expired row instant = false
  | _ => True

/-- Every slot serves one party, and not after the row's expiry. -/
structure UsedOnce (kind : Kind κ ρ δ π) (system : System κ ρ δ π) : Prop where
  once : ∀ left right first second, (system.phases left).served? = some first →
    (system.phases right).served? = some second → first.1.slot = second.1.slot → left = right
  inTime : ∀ party visit returnedAt, (system.phases party).served? = some (visit, returnedAt) →
    ∀ entry, kind.find visit.slot system.rows = some entry →
      kind.expired entry.2 returnedAt = false

structure Orderly (kind : Kind κ ρ δ π) (system : System κ ρ δ π) : Prop where
  facts : ∀ party, PhaseFacts kind system.rows (system.phases party)
  apart : Apart kind.clash system.phases
  fresh : ∀ party row, (system.phases party).pending = some row →
    kind.expired row system.now = false
  inTime : ∀ party visit returnedAt, (system.phases party).served? = some (visit, returnedAt) →
    kind.expired visit.row returnedAt = false

section Care

variable {kind : Kind κ ρ δ π} {system : System κ ρ δ π}

theorem Kind.clash_symm {left right : Phase κ ρ π} :
    kind.clash left right → kind.clash right left := by
  rintro ⟨slot, atLeft, atRight⟩
  exact ⟨slot, atRight, atLeft⟩

theorem claim_of_served {phase : Phase κ ρ π} {visit : Visit κ ρ} {returnedAt : Int}
    (served : phase.served? = some (visit, returnedAt)) : kind.claim phase = some visit.slot := by
  cases phase with
  | served own payload readAt returned =>
      cases served
      rfl
  | _ => cases served

/-- A statement leaves its party's claim as it was, except for a select. -/
theorem Moved.claim {party : Nat} {event : Event κ δ} {phase : Phase κ ρ π} {rows : Dict κ ρ}
    (moved : Moved kind system party event phase rows) :
    (∀ slot, kind.claim phase = some slot → kind.claim (system.phases party) = some slot) ∨
      ∃ slot entry, event = .select party slot ∧ kind.find slot system.rows = some entry ∧
        phase = .selected ⟨slot, entry.1, entry.2⟩ := by
  cases moved with
  | refused => exact Or.inl nofun
  | selected found => exact Or.inr ⟨_, _, rfl, found, rfl⟩
  | passed was unused unexpired =>
      left
      intro slot claimed
      rw [was, Kind.claim, if_neg (by simp [unused])]
      exact claimed
  | direct was unused unexpired =>
      left
      intro slot claimed
      rw [was, Kind.claim, if_neg (by simp [unused])]
      exact claimed
  | ready was =>
      left
      intro slot claimed
      rw [was]
      exact claimed
  | served was stored =>
      left
      intro slot claimed
      rw [was]
      exact claimed

theorem Orderly.apart_moved (orderly : Orderly kind system) {party : Nat} {event : Event κ δ}
    {phase : Phase κ ρ π} {rows : Dict κ ρ} (careful : Careful kind system event)
    (moved : Moved kind system party event phase rows) :
    Apart kind.clash (Function.update system.phases party phase) := by
  obtain kept | ⟨slot, entry, rfl, found, rfl⟩ := moved.claim
  · apply orderly.apart.update_weaker Kind.clash_symm
    rintro other ⟨slot, own, theirs⟩
    exact ⟨slot, kept slot own, theirs⟩
  · apply orderly.apart.update Kind.clash_symm
    rintro other different ⟨claimed, own, theirs⟩
    -- the copy just read is unmarked, so the slot has served nobody yet
    have unused : kind.consumed entry.2 = false := by
      by_contra used
      simp [Kind.claim, used] at own
    obtain rfl : slot = claimed := by simpa [Kind.claim, unused] using own
    cases served : (system.phases other).served? with
    | none => exact careful entry found unused other different served theirs
    | some visited =>
        obtain ⟨visit, returnedAt⟩ := visited
        have same : visit.slot = slot :=
          Option.some.inj ((claim_of_served served).symm.trans theirs)
        have used := (orderly.facts other).spent visit returnedAt served entry (same ▸ found)
        rw [unused] at used
        cases used

/-- What the move leaves pending was pending, or has just been checked. -/
theorem Moved.fresh {party : Nat} {event : Event κ δ} {phase : Phase κ ρ π} {rows : Dict κ ρ}
    {row : ρ} (moved : Moved kind system party event phase rows)
    (pending : phase.pending = some row) :
    (system.phases party).pending = some row ∨ kind.expired row system.now = false := by
  cases moved with
  | refused => cases pending
  | selected found => cases pending
  | passed was unused unexpired =>
      cases pending
      exact Or.inr unexpired
  | direct was unused unexpired =>
      cases pending
      exact Or.inr unexpired
  | ready was =>
      cases pending
      rw [was]
      exact Or.inl rfl
  | served was stored => cases pending

theorem Moved.served_pending {party : Nat} {event : Event κ δ} {phase : Phase κ ρ π}
    {rows : Dict κ ρ} {visit : Visit κ ρ} {returnedAt : Int}
    (moved : Moved kind system party event phase rows)
    (served : phase.served? = some (visit, returnedAt)) :
    returnedAt = system.now ∧ (system.phases party).pending = some visit.row := by
  cases moved with
  | served was stored =>
      cases served
      rw [was]
      exact ⟨rfl, rfl⟩
  | _ => cases served

theorem Orderly.step (lawful : kind.Lawful) {event : Event κ δ} (orderly : Orderly kind system)
    (careful : Careful kind system event) : Orderly kind (step kind system event) := by
  have facts := facts_step lawful event orderly.facts
  obtain same | ⟨instant, rfl, same⟩ | ⟨data, same⟩ | ⟨party, phase, rows, moved, same⟩ :=
    step_cases kind system event
  · rw [same]
    exact orderly
  · rw [same] at facts ⊢
    exact ⟨facts, orderly.apart, careful, orderly.inTime⟩
  · rw [same] at facts ⊢
    exact ⟨facts, orderly.apart, orderly.fresh, orderly.inTime⟩
  · rw [same] at facts ⊢
    refine ⟨facts, orderly.apart_moved careful moved, ?_, ?_⟩
    · intro other row pending
      dsimp only at pending ⊢
      by_cases mine : other = party
      · rw [mine, Function.update_self] at pending
        obtain before | checked := moved.fresh pending
        · exact orderly.fresh party row before
        · exact checked
      · rw [Function.update_of_ne mine] at pending
        exact orderly.fresh other row pending
    · intro other visit returnedAt served
      dsimp only at served
      by_cases mine : other = party
      · rw [mine, Function.update_self] at served
        obtain ⟨rfl, before⟩ := moved.served_pending served
        exact orderly.fresh party visit.row before
      · rw [Function.update_of_ne mine] at served
        exact orderly.inTime other visit returnedAt served

theorem Orderly.usedOnce (orderly : Orderly kind system) : UsedOnce kind system := by
  refine ⟨?_, ?_⟩
  · intro left right first second atLeft atRight same
    by_contra different
    refine orderly.apart different ⟨first.1.slot, claim_of_served atLeft, ?_⟩
    rw [same]
    exact claim_of_served atRight
  · intro party visit returnedAt served entry found
    obtain ⟨current, known, sameExpiry⟩ :=
      (orderly.facts party).known visit (visit_of_served served)
    obtain rfl := Option.some.inj (known.symm.trans found)
    rw [sameExpiry]
    exact orderly.inTime party visit returnedAt served

/-- Careful parties use every slot once and in time. -/
theorem usedOnce_run (lawful : kind.Lawful) (rows : Dict κ ρ) (data : δ) (now : Int)
    (events : List (Event κ δ))
    (careful : EveryStep (OneTimeUse.step kind) (System.start rows data now) events
      (Careful kind)) :
    EveryState (OneTimeUse.step kind) (System.start rows data now) events (UsedOnce kind) := by
  have initial : Orderly kind (System.start rows data now) := by
    refine ⟨fun _ => PhaseFacts.idle rows, ?_, nofun, nofun⟩
    rintro left right - ⟨slot, atLeft, -⟩
    cases atLeft
  have orderly := careful.keeps (fun _ _ held allowed => held.step lawful allowed) initial
  exact orderly.imp Orderly.usedOnce

end Care

end VpnSuite.Foundations.OneTimeUse
