/-
Counters that expire, in a store behind a connection that may fail.

A visit counts under some keys: the counter of each is incremented, and when that made it one
it is given an expiry by a second command.  A connection that fails between the two leaves a
counter that never expires.

The rules say when every counter of a run expires in time, what a visit without failures
finds, and how many visits a window serves.  Keys, lifetimes and limits are arbitrary; time
is a clock that visits advance.
-/

import VpnSuite.Foundations.OrderedDict
import VpnSuite.Foundations.RaisingPrograms
import VpnSuite.Foundations.StepRuns

set_option autoImplicit false

namespace VpnSuite.Foundations.ExpiringCounters

variable {κ : Type}

/-! ### The store -/

structure Counter where
  count : Nat
  expiresAt : Option Int
  positive : 0 < count

/-- The store, and how many commands go through before the connection fails. -/
structure Connection (κ : Type) where
  counters : Dict κ Counter
  remaining : Option Nat

section Store

variable [DecidableEq κ]

/-- The counter of a key that has not expired. -/
def live (clock : Int) (key : κ) (counters : Dict κ Counter) : Option Counter :=
  (counters.get? key).filter (fun counter => counter.expiresAt.all (fun expiry => clock < expiry))

/-- The value `INCR` returns. -/
def nextCount (clock : Int) (key : κ) (counters : Dict κ Counter) : Nat :=
  (live clock key counters).elim 1 (fun counter => counter.count + 1)

theorem nextCount_pos (clock : Int) (key : κ) (counters : Dict κ Counter) :
    0 < nextCount clock key counters := by
  unfold nextCount
  cases live clock key counters with
  | none => exact Nat.one_pos
  | some counter => exact Nat.succ_pos _

/-- `INCR`: a new counter has no expiry. -/
def incremented (clock : Int) (key : κ) (counters : Dict κ Counter) : Dict κ Counter :=
  counters.set key
    ⟨nextCount clock key counters, (live clock key counters).bind Counter.expiresAt,
      nextCount_pos clock key counters⟩

/-- `EXPIRE`: a lifetime that is not positive removes the counter. -/
def expiring (clock lifetime : Int) (key : κ) (counters : Dict κ Counter) : Dict κ Counter :=
  match live clock key counters with
  | none => counters
  | some counter =>
      if lifetime ≤ 0 then counters.erase key
      else counters.set key { counter with expiresAt := some (clock + lifetime) }

/-- A command, if the connection still takes one. -/
def command {α : Type} (value : Dict κ Counter → α) (effect : Dict κ Counter → Dict κ Counter) :
    Raising (Connection κ) Unit α := fun connection =>
  if connection.remaining = some 0 then (.error (), connection)
  else (.ok (value connection.counters),
    ⟨effect connection.counters, connection.remaining.map Nat.pred⟩)

/-- `INCR`, and `EXPIRE` when it returned one. -/
def countKey (clock lifetime : Int) (key : κ) : Raising (Connection κ) Unit Nat := do
  let count ← command (nextCount clock key) (incremented clock key)
  if count = 1 then command (fun _ => ()) (expiring clock lifetime key) else pure ()
  pure count

/-- Counts under all keys; whether one of them is over its limit. -/
def countAll (clock : Int) (lifetime limit : κ → Int) : List κ → Raising (Connection κ) Unit Bool
  | [] => pure false
  | key :: rest => do
      let count ← countKey clock (lifetime key) key
      let others ← countAll clock lifetime limit rest
      pure (decide (limit key < count) || others)

/-- What one complete count makes of the counter of its key. -/
def countedEntry (clock lifetime : Int) (key : κ) (counters : Dict κ Counter) : Option Counter :=
  match live clock key counters with
  | some counter => some ⟨counter.count + 1, counter.expiresAt, Nat.succ_pos _⟩
  | none => if lifetime ≤ 0 then none else some ⟨1, some (clock + lifetime), Nat.one_pos⟩

end Store

/-! ### One count -/

section Count

variable [DecidableEq κ] {clock lifetime : Int} {key : κ} {counters : Dict κ Counter}
  {remaining : Option Nat}

theorem live_eq_some {counter : Counter} :
    live clock key counters = some counter ↔
      counters.get? key = some counter ∧
        ∀ expiry, counter.expiresAt = some expiry → clock < expiry := by
  rw [live, Option.filter_eq_some_iff]
  refine and_congr_right (fun _ => ?_)
  cases counter.expiresAt <;> simp

theorem live_incremented :
    live clock key (incremented clock key counters) =
      some ⟨nextCount clock key counters, (live clock key counters).bind Counter.expiresAt,
        nextCount_pos clock key counters⟩ := by
  refine live_eq_some.mpr ⟨(Dict.get?_set ..).trans (if_pos rfl), ?_⟩
  intro expiry found
  obtain ⟨counter, alive, expires⟩ := Option.bind_eq_some_iff.mp found
  exact (live_eq_some.mp alive).2 expiry expires

theorem nextCount_eq_one_iff :
    nextCount clock key counters = 1 ↔ live clock key counters = none := by
  unfold nextCount
  cases live clock key counters with
  | none => simp
  | some counter =>
      have positive := counter.positive
      simp only [Option.elim_some, Option.some_ne_none, iff_false]
      omega

/-- A count that finds the connection gone changes nothing. -/
theorem countKey_refused :
    countKey clock lifetime key ⟨counters, some 0⟩ = (.error (), ⟨counters, some 0⟩) := rfl

/-- A counter that is live is only incremented. -/
theorem countKey_live {counter : Counter} (goes : remaining ≠ some 0)
    (alive : live clock key counters = some counter) :
    countKey clock lifetime key ⟨counters, remaining⟩ =
      (.ok (counter.count + 1), ⟨incremented clock key counters, remaining.map Nat.pred⟩) := by
  have several : nextCount clock key counters ≠ 1 := by
    intro one
    rw [nextCount_eq_one_iff, alive] at one
    cases one
  have count : nextCount clock key counters = counter.count + 1 := by
    rw [nextCount, alive, Option.elim_some]
  have first : command (nextCount clock key) (incremented clock key) ⟨counters, remaining⟩ =
      (.ok (nextCount clock key counters),
        ⟨incremented clock key counters, remaining.map Nat.pred⟩) := if_neg goes
  rw [countKey, Raising.bind_run_ok first, if_neg several, count]
  rfl

/-- The connection fails between the two commands. -/
theorem countKey_cut (dead : live clock key counters = none) :
    countKey clock lifetime key ⟨counters, some 1⟩ =
      (.error (), ⟨incremented clock key counters, some 0⟩) := by
  have first : command (nextCount clock key) (incremented clock key) ⟨counters, some 1⟩ =
      (.ok (nextCount clock key counters), ⟨incremented clock key counters, some 0⟩) := rfl
  rw [countKey, Raising.bind_run_ok first, if_pos (nextCount_eq_one_iff.mpr dead)]
  rfl

theorem countKey_fresh (goes : remaining ≠ some 0) (further : remaining ≠ some 1)
    (dead : live clock key counters = none) :
    countKey clock lifetime key ⟨counters, remaining⟩ =
      (.ok 1, ⟨expiring clock lifetime key (incremented clock key counters),
        (remaining.map Nat.pred).map Nat.pred⟩) := by
  have one := nextCount_eq_one_iff.mpr dead
  have first : command (nextCount clock key) (incremented clock key) ⟨counters, remaining⟩ =
      (.ok (nextCount clock key counters),
        ⟨incremented clock key counters, remaining.map Nat.pred⟩) := if_neg goes
  have open_ : remaining.map Nat.pred ≠ some 0 := by
    cases remaining with
    | none => simp
    | some left =>
        rw [Option.map_some, ne_eq, Option.some.injEq, Nat.pred_eq_sub_one]
        rw [ne_eq, Option.some.injEq] at goes further
        omega
  have second : command (fun _ => ()) (expiring clock lifetime key)
      ⟨incremented clock key counters, remaining.map Nat.pred⟩ =
      (.ok (), ⟨expiring clock lifetime key (incremented clock key counters),
        (remaining.map Nat.pred).map Nat.pred⟩) := if_neg open_
  rw [countKey, Raising.bind_run_ok first, if_pos one, Raising.bind_run_ok second, one]
  rfl

theorem get?_incremented (other : κ) :
    (incremented clock key counters).get? other =
      if other = key then some ⟨nextCount clock key counters,
        (live clock key counters).bind Counter.expiresAt, nextCount_pos clock key counters⟩
      else counters.get? other := Dict.get?_set ..

theorem get?_expiring_incremented (dead : live clock key counters = none) (other : κ) :
    (expiring clock lifetime key (incremented clock key counters)).get? other =
      if other = key then countedEntry clock lifetime key counters else counters.get? other := by
  have one := nextCount_eq_one_iff.mpr dead
  rw [expiring, live_incremented, countedEntry, dead]
  dsimp only
  by_cases ended : lifetime ≤ 0
  · rw [if_pos ended, if_pos ended, Dict.get?_erase, get?_incremented]
    split <;> rfl
  · rw [if_neg ended, if_neg ended, Dict.get?_set, get?_incremented]
    by_cases same : other = key
    · simp only [if_pos same, one]
    · simp only [if_neg same]

/-- A complete count, from a connection that takes its commands. -/
structure Counted (clock lifetime : Int) (key : κ) (before after : Dict κ Counter) : Prop where
  entry : ∀ other, after.get? other =
    if other = key then countedEntry clock lifetime key before else before.get? other

/-- What is left of the connection after a complete count. -/
def spent (clock : Int) (key : κ) (counters : Dict κ Counter) (remaining : Option Nat) :
    Option Nat :=
  if (live clock key counters).isSome then remaining.map Nat.pred
  else (remaining.map Nat.pred).map Nat.pred

/-- The connection is gone, it fails between the commands, or the count is complete. -/
theorem countKey_cases (clock lifetime : Int) (key : κ) (counters : Dict κ Counter)
    (remaining : Option Nat) :
    (remaining = some 0 ∧ countKey clock lifetime key ⟨counters, remaining⟩ =
        (.error (), ⟨counters, some 0⟩)) ∨
      (live clock key counters = none ∧ remaining = some 1 ∧
        countKey clock lifetime key ⟨counters, remaining⟩ =
          (.error (), ⟨incremented clock key counters, some 0⟩)) ∨
      (remaining ≠ some 0 ∧ (live clock key counters = none → remaining ≠ some 1) ∧
        ∃ after, Counted clock lifetime key counters after ∧
          countKey clock lifetime key ⟨counters, remaining⟩ =
            (.ok (nextCount clock key counters),
              ⟨after, spent clock key counters remaining⟩)) := by
  by_cases gone : remaining = some 0
  · subst gone
    exact Or.inl ⟨rfl, countKey_refused⟩
  · cases alive : live clock key counters with
    | some counter =>
        refine Or.inr (Or.inr ⟨gone, nofun, incremented clock key counters, ⟨?_⟩, ?_⟩)
        · intro other
          simp only [get?_incremented, countedEntry, nextCount, alive, Option.elim_some,
            Option.bind_some]
        · rw [countKey_live gone alive, nextCount, alive, spent, alive]
          rfl
    | none =>
        by_cases cut : remaining = some 1
        · subst cut
          exact Or.inr (Or.inl ⟨rfl, rfl, countKey_cut alive⟩)
        · refine Or.inr (Or.inr ⟨gone, fun _ => cut, _,
            ⟨get?_expiring_incremented alive⟩, ?_⟩)
          rw [countKey_fresh gone cut alive, nextCount, alive, spent, alive]
          rfl

end Count

/-! ### Counts under several keys -/

section Visits

variable [DecidableEq κ] {clock : Int} {lifetime limit : κ → Int} {keys : List κ}
  {counters : Dict κ Counter} {remaining : Option Nat}

theorem live_congr {first second : Dict κ Counter} {key : κ}
    (same : first.get? key = second.get? key) : live clock key first = live clock key second := by
  rw [live, live, same]

/-- The connection fails between the two commands of a new counter. -/
def losesExpiry (clock : Int) (counters : Dict κ Counter) : List κ → Option Nat → Bool
  | [], _ => false
  | key :: rest, remaining =>
      if remaining = some 0 then false
      else if live clock key counters = none ∧ remaining = some 1 then true
      else losesExpiry clock counters rest (spent clock key counters remaining)

theorem losesExpiry_congr {first second : Dict κ Counter}
    (same : ∀ key ∈ keys, first.get? key = second.get? key) :
    losesExpiry clock first keys remaining = losesExpiry clock second keys remaining := by
  induction keys generalizing remaining with
  | nil => rfl
  | cons key rest ih =>
      have alive := @live_congr κ _ clock first second key (same key List.mem_cons_self)
      rw [losesExpiry, losesExpiry, spent, spent, alive,
        ih (fun other member => same other (List.mem_cons_of_mem key member))]

/-- Every counter expires within its lifetime from now. -/
def Bounded (clock : Int) (lifetime : κ → Int) (counters : Dict κ Counter) : Prop :=
  ∀ key counter, live clock key counters = some counter →
    ∃ expiry, counter.expiresAt = some expiry ∧ expiry ≤ clock + lifetime key

theorem Bounded.later {after : Int} (bounded : Bounded clock lifetime counters)
    (passed : clock ≤ after) : Bounded after lifetime counters := by
  intro key counter alive
  obtain ⟨stored, unexpired⟩ := live_eq_some.mp alive
  have before : live clock key counters = some counter :=
    live_eq_some.mpr ⟨stored, fun expiry found => Int.lt_of_le_of_lt passed (unexpired expiry found)⟩
  obtain ⟨expiry, found, soon⟩ := bounded key counter before
  exact ⟨expiry, found, by omega⟩

theorem Bounded.counted {key : κ} {after : Dict κ Counter}
    (bounded : Bounded clock lifetime counters)
    (counted : Counted clock (lifetime key) key counters after) :
    Bounded clock lifetime after := by
  intro other counter alive
  obtain ⟨stored, unexpired⟩ := live_eq_some.mp alive
  rw [counted.entry] at stored
  by_cases same : other = key
  · subst same
    rw [if_pos rfl, countedEntry] at stored
    cases before : live clock other counters with
    | some old =>
        rw [before] at stored
        obtain rfl := Option.some.inj stored
        exact bounded other old before
    | none =>
        rw [before] at stored
        dsimp only at stored
        split at stored
        · cases stored
        · obtain rfl := Option.some.inj stored
          exact ⟨_, rfl, Int.le_refl _⟩
  · rw [if_neg same] at stored
    exact bounded other counter (live_eq_some.mpr ⟨stored, unexpired⟩)

theorem not_bounded_incremented {key : κ} (dead : live clock key counters = none) :
    ¬ Bounded clock lifetime (incremented clock key counters) := by
  intro bounded
  obtain ⟨expiry, found, -⟩ := bounded key _ live_incremented
  rw [dead] at found
  cases found

/-- A visit keeps the counters expiring exactly when it loses no expiry. -/
theorem bounded_countAll_iff (distinct : keys.Nodup) (bounded : Bounded clock lifetime counters) :
    Bounded clock lifetime
        (countAll clock lifetime limit keys ⟨counters, remaining⟩).2.counters ↔
      losesExpiry clock counters keys remaining = false := by
  induction keys generalizing counters remaining with
  | nil => exact iff_of_true bounded rfl
  | cons key rest ih =>
      obtain ⟨fresh, distinctRest⟩ := List.nodup_cons.mp distinct
      rw [countAll, losesExpiry]
      obtain ⟨rfl, refused⟩ | ⟨dead, rfl, cut⟩ | ⟨goes, whole, after, counted, ran⟩ :=
        countKey_cases clock (lifetime key) key counters remaining
      · rw [Raising.bind_run_error refused, if_pos rfl]
        exact iff_of_true bounded rfl
      · rw [Raising.bind_run_error cut, if_neg (by simp), if_pos ⟨dead, rfl⟩]
        exact iff_of_false (not_bounded_incremented dead) (fun kept => Bool.noConfusion kept)
      · have later := @ih after (spent clock key counters remaining) distinctRest
          (bounded.counted counted)
        have same : ∀ other ∈ rest, after.get? other = counters.get? other := by
          intro other member
          have different : other ≠ key := by
            rintro rfl
            exact fresh member
          rw [counted.entry, if_neg different]
        rw [losesExpiry_congr same] at later
        rw [Raising.bind_run_ok ran, if_neg goes, if_neg (fun both => whole both.1 both.2), ← later]
        obtain ⟨value, -, goesOn⟩ | ⟨error, -, stops⟩ := Raising.bind_cases
          (countAll clock lifetime limit rest)
          (fun others => pure (decide (limit key < nextCount clock key counters) || others))
          ⟨after, spent clock key counters remaining⟩
        · rw [goesOn]
          rfl
        · rw [stops]

/-- Without failures a visit counts under all its keys. -/
theorem countAll_complete (distinct : keys.Nodup) :
    ∃ after : Dict κ Counter,
      (∀ other, after.get? other =
        if other ∈ keys then countedEntry clock (lifetime other) other counters
        else counters.get? other) ∧
      countAll clock lifetime limit keys ⟨counters, none⟩ =
        (.ok (keys.any (fun key => limit key < nextCount clock key counters)), ⟨after, none⟩) := by
  induction keys generalizing counters with
  | nil => exact ⟨counters, fun other => by simp, rfl⟩
  | cons key rest ih =>
      obtain ⟨fresh, distinctRest⟩ := List.nodup_cons.mp distinct
      obtain ⟨absurd_, -⟩ | ⟨-, absurd_, -⟩ | ⟨-, -, first, counted, ran⟩ :=
        countKey_cases clock (lifetime key) key counters none
      · cases absurd_
      · cases absurd_
      have unspent : spent clock key counters none = none := by
        unfold spent
        split <;> rfl
      rw [unspent] at ran
      obtain ⟨after, entries, rested⟩ := @ih first distinctRest
      have same : ∀ other ∈ rest, first.get? other = counters.get? other := by
        intro other member
        have different : other ≠ key := by
          rintro rfl
          exact fresh member
        rw [counted.entry, if_neg different]
      refine ⟨after, ?_, ?_⟩
      · intro other
        rw [entries]
        by_cases later : other ∈ rest
        · rw [if_pos later, if_pos (List.mem_cons_of_mem key later), countedEntry, countedEntry,
            live_congr (same other later)]
        · rw [if_neg later, counted.entry]
          by_cases here : other = key
          · rw [if_pos here, here, if_pos List.mem_cons_self]
          · rw [if_neg here, if_neg (by simp [here, later])]
      · have counts : rest.any (fun key => limit key < nextCount clock key first) =
            rest.any (fun key => limit key < nextCount clock key counters) := by
          apply Bool.eq_iff_iff.mpr
          simp only [List.any_eq_true, decide_eq_true_eq]
          refine exists_congr (fun other => and_congr_right (fun member => ?_))
          rw [nextCount, nextCount, live_congr (same other member)]
        rw [countAll, Raising.bind_run_ok ran, Raising.bind_run_ok rested, counts]
        rfl

/-- Only the counters of the visit's keys change. -/
theorem countAll_frame {other : κ} (untouched : other ∉ keys) :
    (countAll clock lifetime limit keys ⟨counters, remaining⟩).2.counters.get? other =
      counters.get? other := by
  induction keys generalizing counters remaining with
  | nil => rfl
  | cons key rest ih =>
      obtain ⟨different, untouchedRest⟩ := not_or.mp (mt List.mem_cons.mpr untouched)
      rw [countAll]
      obtain ⟨rfl, refused⟩ | ⟨-, rfl, cut⟩ | ⟨-, -, after, counted, ran⟩ :=
        countKey_cases clock (lifetime key) key counters remaining
      · rw [Raising.bind_run_error refused]
      · rw [Raising.bind_run_error cut]
        exact (get?_incremented other).trans (if_neg different)
      · have kept : after.get? other = counters.get? other := by
          rw [counted.entry, if_neg different]
        rw [Raising.bind_run_ok ran]
        obtain ⟨value, -, goesOn⟩ | ⟨error, -, stops⟩ := Raising.bind_cases
          (countAll clock lifetime limit rest)
          (fun others => pure (decide (limit key < nextCount clock key counters) || others))
          ⟨after, spent clock key counters remaining⟩
        · rw [goesOn]
          exact (ih untouchedRest).trans kept
        · rw [stops]
          exact (ih untouchedRest).trans kept

end Visits

/-! ### Visits over time -/

structure Visit (κ : Type) where
  keys : List κ
  distinct : keys.Nodup
  elapsed : Nat
  remaining : Option Nat

structure Timed (κ : Type) where
  clock : Int
  counters : Dict κ Counter

section Runs

variable [DecidableEq κ] (lifetime limit : κ → Int)

/-- When a visit arrives. -/
def Timed.arrival (state : Timed κ) (visit : Visit κ) : Int := state.clock + visit.elapsed

def count (state : Timed κ) (visit : Visit κ) : Except Unit Bool × Connection κ :=
  countAll (state.arrival visit) lifetime limit visit.keys ⟨state.counters, visit.remaining⟩

def visitStep (state : Timed κ) (visit : Visit κ) : Timed κ :=
  ⟨state.arrival visit, (count lifetime limit state visit).2.counters⟩

/-- The count came through and no counter is over its limit. -/
def withinLimits : Except Unit Bool → Bool
  | .ok false => true
  | _ => false

/-- How many visits that count under a key are within their limits. -/
def servedUnder (key : κ) : Timed κ → List (Visit κ) → Nat
  | _, [] => 0
  | state, visit :: rest =>
      (if key ∈ visit.keys ∧ withinLimits (count lifetime limit state visit).1 = true then 1
        else 0) + servedUnder key (visitStep lifetime limit state visit) rest

variable {lifetime limit} {state : Timed κ} {visit : Visit κ} {visits : List (Visit κ)} {key : κ}

theorem clock_le_run (visits : List (Visit κ)) (state : Timed κ) :
    state.clock ≤ (visits.foldl (visitStep lifetime limit) state).clock := by
  induction visits generalizing state with
  | nil => exact Int.le_refl _
  | cons visit rest ih =>
      have here : state.clock ≤ (visitStep lifetime limit state visit).clock := by
        change state.clock ≤ state.clock + visit.elapsed
        omega
      exact Int.le_trans here (ih _)

theorem get?_run (untouched : ∀ visit ∈ visits, key ∉ visit.keys) (state : Timed κ) :
    (visits.foldl (visitStep lifetime limit) state).counters.get? key =
      state.counters.get? key := by
  induction visits generalizing state with
  | nil => rfl
  | cons visit rest ih =>
      rw [List.foldl_cons, ih (fun other member => untouched other (List.mem_cons_of_mem visit member))]
      exact countAll_frame (untouched visit List.mem_cons_self)

/-- Over a run every counter keeps expiring exactly when no visit loses an expiry. -/
theorem bounded_run_iff (start : Timed κ) (visits : List (Visit κ))
    (bounded : Bounded start.clock lifetime start.counters) :
    EveryState (visitStep lifetime limit) start visits
        (fun state => Bounded state.clock lifetime state.counters) ↔
      EveryStep (visitStep lifetime limit) start visits (fun state visit =>
        losesExpiry (state.arrival visit) state.counters visit.keys visit.remaining = false) := by
  have exact_step : ∀ state visit, True → Bounded state.clock lifetime state.counters →
      (Bounded (visitStep lifetime limit state visit).clock lifetime
          (visitStep lifetime limit state visit).counters ↔
        losesExpiry (state.arrival visit) state.counters visit.keys visit.remaining = false) := by
    intro state visit _ held
    have passed : state.clock ≤ state.arrival visit := by
      unfold Timed.arrival
      omega
    exact bounded_countAll_iff visit.distinct (held.later passed)
  exact @everyState_iff_everyStep (Timed κ) (Visit κ) _ start visits
    (fun state => Bounded state.clock lifetime state.counters) _ (fun _ => True)
    (fun _ _ _ => trivial) exact_step trivial bounded

/-- A counter nobody counts under for its lifetime is gone. -/
theorem live_after_silence (bounded : Bounded state.clock lifetime state.counters)
    (untouched : ∀ other ∈ visits, key ∉ other.keys) {later : Int}
    (silent : state.clock + lifetime key ≤ later) (passed : state.clock ≤ later) :
    live later key (visits.foldl (visitStep lifetime limit) state).counters = none := by
  rw [Option.eq_none_iff_forall_ne_some]
  intro counter alive
  obtain ⟨stored, unexpired⟩ := live_eq_some.mp alive
  rw [get?_run untouched] at stored
  have before : live state.clock key state.counters = some counter :=
    live_eq_some.mpr ⟨stored, fun expiry found => Int.lt_of_le_of_lt passed (unexpired expiry found)⟩
  obtain ⟨expiry, found, soon⟩ := bounded key counter before
  have running := unexpired expiry found
  omega

/-- A visit that finds none of its counters is within limits that admit anything. -/
theorem fresh_visit_within (unfailing : visit.remaining = none)
    (fresh : ∀ key ∈ visit.keys, live (state.arrival visit) key state.counters = none)
    (admits : ∀ key ∈ visit.keys, 1 ≤ limit key) :
    withinLimits (count lifetime limit state visit).1 = true := by
  have none_over : visit.keys.any (fun key =>
      limit key < nextCount (state.arrival visit) key state.counters) = false := by
    rw [List.any_eq_false]
    intro key member
    have one := nextCount_eq_one_iff.mpr (fresh key member)
    have enough := admits key member
    rw [one, decide_eq_true_eq]
    omega
  obtain ⟨after, -, ran⟩ := @countAll_complete κ _ (state.arrival visit) lifetime limit visit.keys
    state.counters visit.distinct
  rw [count, unfailing, ran, none_over]
  rfl

/-- A visit within the limits adds one to each of its counters. -/
theorem within_limit (unfailing : visit.remaining = none) (member : key ∈ visit.keys)
    (within : withinLimits (count lifetime limit state visit).1 = true) :
    nextCount (state.arrival visit) key state.counters ≤ limit key := by
  obtain ⟨after, -, ran⟩ := @countAll_complete κ _ (state.arrival visit) lifetime limit visit.keys
    state.counters visit.distinct
  rw [count, unfailing, ran] at within
  cases exceeded : visit.keys.any (fun key =>
      limit key < nextCount (state.arrival visit) key state.counters) with
  | true =>
      rw [exceeded] at within
      cases within
  | false =>
      have here := List.any_eq_false.mp exceeded key member
      rw [decide_eq_true_eq] at here
      omega

theorem get?_counted (unfailing : visit.remaining = none) (member : key ∈ visit.keys) :
    (visitStep lifetime limit state visit).counters.get? key =
      countedEntry (state.arrival visit) (lifetime key) key state.counters := by
  obtain ⟨after, entries, ran⟩ := @countAll_complete κ _ (state.arrival visit) lifetime limit
    visit.keys state.counters visit.distinct
  rw [visitStep, count, unfailing, ran, entries, if_pos member]

/-- While a counter lives, it bounds how many more visits are served under its key. -/
theorem servedUnder_live {counter : Counter} {expiry : Int}
    (stored : state.counters.get? key = some counter) (expires : counter.expiresAt = some expiry)
    (unfailing : ∀ visit ∈ visits, visit.remaining = none)
    (inTime : (visits.foldl (visitStep lifetime limit) state).clock < expiry) :
    servedUnder lifetime limit key state visits ≤ (limit key - counter.count).toNat := by
  induction visits generalizing state counter with
  | nil => exact Nat.zero_le _
  | cons visit rest ih =>
      have unfailingRest : ∀ other ∈ rest, other.remaining = none :=
        fun other member => unfailing other (List.mem_cons_of_mem visit member)
      have arrived : state.arrival visit < expiry :=
        Int.lt_of_le_of_lt (clock_le_run rest (visitStep lifetime limit state visit)) inTime
      have alive : live (state.arrival visit) key state.counters = some counter := by
        refine live_eq_some.mpr ⟨stored, ?_⟩
        intro other found
        obtain rfl := Option.some.inj (expires.symm.trans found)
        exact arrived
      rw [servedUnder]
      by_cases member : key ∈ visit.keys
      · have entry := @get?_counted κ _ lifetime limit state visit key
          (unfailing visit List.mem_cons_self) member
        rw [countedEntry, alive] at entry
        have later := ih entry expires unfailingRest inTime
        dsimp only at later
        by_cases within : withinLimits (count lifetime limit state visit).1 = true
        · have room := within_limit (unfailing visit List.mem_cons_self) member within
          rw [nextCount, alive, Option.elim_some] at room
          rw [if_pos ⟨member, within⟩]
          omega
        · rw [if_neg (fun both => within both.2)]
          omega
      · have kept : (visitStep lifetime limit state visit).counters.get? key = some counter :=
          (countAll_frame member).trans stored
        have later := ih kept expires unfailingRest inTime
        rw [if_neg (fun both => member both.1)]
        omega

/-- From the visit that opens a counter on, at most its limit are served before it expires. -/
theorem servedUnder_window (member : key ∈ visit.keys)
    (opens : live (state.arrival visit) key state.counters = none)
    (unfailing : ∀ other ∈ visit :: visits, other.remaining = none)
    (inTime : ((visit :: visits).foldl (visitStep lifetime limit) state).clock <
      state.arrival visit + lifetime key) :
    servedUnder lifetime limit key state (visit :: visits) ≤ (limit key).toNat := by
  have arrived : (visitStep lifetime limit state visit).clock = state.arrival visit := rfl
  have passed := @clock_le_run κ _ lifetime limit visits (visitStep lifetime limit state visit)
  have lasting : ¬ lifetime key ≤ 0 := by
    rw [List.foldl_cons] at inTime
    omega
  have entry := @get?_counted κ _ lifetime limit state visit key
    (unfailing visit List.mem_cons_self) member
  rw [countedEntry, opens] at entry
  dsimp only at entry
  rw [if_neg lasting] at entry
  have later := servedUnder_live entry rfl
    (fun other found => unfailing other (List.mem_cons_of_mem visit found)) inTime
  dsimp only at later
  rw [servedUnder]
  by_cases within : withinLimits (count lifetime limit state visit).1 = true
  · have room := within_limit (unfailing visit List.mem_cons_self) member within
    have first := nextCount_pos (state.arrival visit) key state.counters
    rw [if_pos ⟨member, within⟩]
    omega
  · rw [if_neg (fun both => within both.2)]
    omega

end Runs

end VpnSuite.Foundations.ExpiringCounters
