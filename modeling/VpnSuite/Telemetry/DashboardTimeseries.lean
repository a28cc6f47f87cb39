/-
The time series of the dashboards (`core/telemetry_polling_task.py`,
`services/operator_dashboard_service.py`).

Several writers add points to one sorted set of Redis, scored by their second, and cut off what
is a day older.  A reader takes a window of them, one for each second: of several the one
whose JSON comes last as a text.  The operator dashboard makes up a series that ends now where
it reads none, and judges how fresh its data is by the last point.

A point stands for its JSON.  A push brings its second, by the clock of its writer, and whether
Redis takes its two commands.
-/

import VpnSuite.Foundations.PythonNumbers
import VpnSuite.Foundations.RaisingPrograms
import VpnSuite.Foundations.ScoredSets
import Mathlib.Data.String.Basic
import Std.Data.String.ToInt

set_option autoImplicit false

namespace VpnSuite.Telemetry

open Foundations
open Foundations.PythonText
open Foundations.ScoredSets
open Raising

structure DashboardPoint where
  ts : Int
  peers : Int
  rx : Int
  tx : Int
  deriving DecidableEq

def dashboardTimeseriesTtlSeconds : Int := 24 * 3600

/-- `json.dumps({"ts": ts, "peers": peers, "rx": rx, "tx": tx})` -/
def payloadText (point : DashboardPoint) : String :=
  "\x7b\"ts\": " ++ toString point.ts ++ ", \"peers\": " ++ toString point.peers ++
    ", \"rx\": " ++ toString point.rx ++ ", \"tx\": " ++ toString point.tx ++ "\x7d"

structure TimeseriesPush where
  point : DashboardPoint
  adds : Bool
  trims : Bool

/-- `_push_dashboard_timeseries` -/
def pushDashboardTimeseries (push : TimeseriesPush) :
    Raising (ScoredSet DashboardPoint) Unit Unit :=
  attempt (do
    call (if push.adds then none else some ()) (add push.point.ts push.point)
    call (if push.trims then none else some ())
      (trim (push.point.ts - dashboardTimeseriesTtlSeconds)))
    (fun _ => pure ())

def pushed (set : ScoredSet DashboardPoint) (push : TimeseriesPush) : ScoredSet DashboardPoint :=
  (pushDashboardTimeseries push set).2

/-- The set after the pushes of all writers, in the order in which Redis took them. -/
def pushedAll (pushes : List TimeseriesPush) : ScoredSet DashboardPoint :=
  pushes.foldl pushed Dict.empty

/-- `get_dashboard_timeseries` -/
def getDashboardTimeseries (nowTs windowSeconds : Int) (set : ScoredSet DashboardPoint) :
    List DashboardPoint :=
  let listed := range payloadText (nowTs - windowSeconds) set
  let out := listed.mergeSort (fun left right => left.ts ≤ right.ts)
  listedByKey (lastPerClass DashboardPoint.ts (out.filter (fun point => 0 < point.ts)))

/-! ### The texts of the points -/

/-- An integer and what follows it, up to a character that is none of its own. -/
theorem number_split {char : Char} (mark : isIntegerChar char = false) {left right : Int}
    {leftRest rightRest : List Char}
    (same : (toString left).toList ++ char :: leftRest =
      (toString right).toList ++ char :: rightRest) : left = right ∧ leftRest = rightRest := by
  have free (value : Int) : char ∉ (toString value).toList := by
    intro member
    rw [isIntegerChar_of_mem member] at mark
    cases mark
  rcases separator_inj (free left) (free right) same with ⟨texts, rests⟩
  exact ⟨Int.repr_injective (String.toList_inj.mp texts), rests⟩

def peersMark : List Char := " \"peers\": ".toList
def rxMark : List Char := " \"rx\": ".toList
def txMark : List Char := " \"tx\": ".toList

theorem payloadText_toList (point : DashboardPoint) :
    (payloadText point).toList = "\x7b\"ts\": ".toList ++ ((toString point.ts).toList ++ ',' ::
      (peersMark ++ ((toString point.peers).toList ++ ',' :: (rxMark ++
        ((toString point.rx).toList ++ ',' :: (txMark ++
          ((toString point.tx).toList ++ '\x7d' :: []))))))) := by
  unfold payloadText
  simp only [String.toList_append, List.append_assoc]
  rfl

theorem payloadText_injective : Function.Injective payloadText := by
  intro left right same
  have texts := congrArg String.toList same
  rw [payloadText_toList, payloadText_toList, List.append_cancel_left_eq] at texts
  rcases number_split rfl texts with ⟨ts, afterTs⟩
  rw [List.append_cancel_left_eq] at afterTs
  rcases number_split rfl afterTs with ⟨peers, afterPeers⟩
  rw [List.append_cancel_left_eq] at afterPeers
  rcases number_split rfl afterPeers with ⟨rx, afterRx⟩
  rw [List.append_cancel_left_eq] at afterRx
  rcases number_split rfl afterRx with ⟨tx, _⟩
  cases left
  cases right
  simp only at ts peers rx tx
  rw [ts, peers, rx, tx]

/-! ### What the set holds -/

/-- A trim that was reached removes the points up to its cutoff. -/
def Outlives (point : DashboardPoint) (push : TimeseriesPush) : Prop :=
  push.adds = true → push.trims = true →
    push.point.ts - dashboardTimeseriesTtlSeconds < point.ts

/-- A point was pushed, and outlived every trim from then on. -/
def Kept (pushes : List TimeseriesPush) (point : DashboardPoint) : Prop :=
  ∃ earlier push later, pushes = earlier ++ push :: later ∧ push.adds = true ∧
    push.point = point ∧ ∀ next ∈ push :: later, Outlives point next

theorem pushed_eq (set : ScoredSet DashboardPoint) (push : TimeseriesPush) :
    pushed set push =
      if push.adds then
        if push.trims then
          trim (push.point.ts - dashboardTimeseriesTtlSeconds) (add push.point.ts push.point set)
        else add push.point.ts push.point set
      else set := by
  unfold pushed pushDashboardTimeseries
  cases push.adds with
  | false => rfl
  | true => cases push.trims <;> rfl

theorem get?_pushed (set : ScoredSet DashboardPoint) (push : TimeseriesPush)
    (point : DashboardPoint) :
    (pushed set push).get? point = some point.ts ↔
      (set.get? point = some point.ts ∨ push.adds = true ∧ push.point = point) ∧
        Outlives point push := by
  rw [pushed_eq]
  unfold Outlives
  cases push.adds with
  | false => simp
  | true =>
      have added : (add push.point.ts push.point set).get? point = some point.ts ↔
          set.get? point = some point.ts ∨ push.point = point := by
        rw [get?_add]
        by_cases same : point = push.point
        · simp [same]
        · rw [if_neg same, or_iff_left (Ne.symm same)]
      cases push.trims with
      | false => simp [added]
      | true =>
          simp only [if_true, get?_trim, added, true_and, forall_const]

theorem scored_pushedAll (pushes : List TimeseriesPush) (point : DashboardPoint) (score : Int)
    (found : (pushedAll pushes).get? point = some score) : score = point.ts := by
  induction pushes using List.reverseRecOn with
  | nil => cases found
  | append_singleton earlier push ih =>
      unfold pushedAll at found ih
      rw [List.foldl_append, List.foldl_cons, List.foldl_nil, pushed_eq] at found
      have added (present : (add push.point.ts push.point
          (earlier.foldl pushed Dict.empty)).get? point = some score) : score = point.ts := by
        rw [get?_add] at present
        split at present
        · rename_i same
          rw [same]
          exact (Option.some.inj present).symm
        · exact ih present
      split at found
      · split at found
        · exact added (get?_trim.mp found).1
        · exact added found
      · exact ih found

theorem kept_concat (earlier : List TimeseriesPush) (push : TimeseriesPush)
    (point : DashboardPoint) :
    Kept (earlier ++ [push]) point ↔
      (Kept earlier point ∨ push.adds = true ∧ push.point = point) ∧ Outlives point push := by
  constructor
  · intro kept
    rcases kept with ⟨before, first, later, split, adds, same, outlives⟩
    rcases List.eq_nil_or_concat later with nothing | ⟨rest, last, ends⟩
    · subst nothing
      rcases List.append_inj' split rfl with ⟨_, single⟩
      cases single
      exact ⟨Or.inr ⟨adds, same⟩, outlives push List.mem_cons_self⟩
    · rw [List.concat_eq_append] at ends
      subst ends
      rw [← List.cons_append, ← List.append_assoc] at split
      rcases List.append_inj' split rfl with ⟨front, single⟩
      cases single
      refine ⟨Or.inl ⟨before, first, rest, front, adds, same, ?_⟩, ?_⟩
      · intro next member
        apply outlives
        rw [← List.cons_append]
        exact List.mem_append_left _ member
      · apply outlives
        rw [← List.cons_append]
        exact List.mem_append_right _ (List.mem_singleton.mpr rfl)
  · intro both
    rcases both with ⟨kept | ⟨adds, same⟩, last⟩
    · rcases kept with ⟨before, first, later, split, adds, same, outlives⟩
      refine ⟨before, first, later ++ [push], by rw [split]; simp, adds, same, ?_⟩
      intro next member
      rw [← List.cons_append] at member
      rcases List.mem_append.mp member with inside | isLast
      · exact outlives next inside
      · rw [List.mem_singleton.mp isLast]
        exact last
    · refine ⟨earlier, push, [], rfl, adds, same, ?_⟩
      intro next member
      rw [List.mem_singleton.mp member]
      exact last

theorem get?_pushedAll (pushes : List TimeseriesPush) (point : DashboardPoint) :
    (pushedAll pushes).get? point = some point.ts ↔ Kept pushes point := by
  induction pushes using List.reverseRecOn with
  | nil =>
      constructor
      · intro found
        cases found
      · intro kept
        rcases kept with ⟨before, first, later, split, _⟩
        simp at split
  | append_singleton earlier push ih =>
      rw [kept_concat, ← ih]
      unfold pushedAll
      rw [List.foldl_append, List.foldl_cons, List.foldl_nil]
      exact get?_pushed _ push point

/-! ### What a reader gets -/

/-- A point that is kept, in the window and not without a time. -/
def InWindow (pushes : List TimeseriesPush) (nowTs windowSeconds : Int) (point : DashboardPoint) :
    Prop :=
  Kept pushes point ∧ nowTs - windowSeconds ≤ point.ts ∧ 0 < point.ts

theorem mem_range_pushedAll (pushes : List TimeseriesPush) (cutoff : Int) (point : DashboardPoint) :
    point ∈ range payloadText cutoff (pushedAll pushes) ↔ Kept pushes point ∧ cutoff ≤ point.ts := by
  rw [mem_range, ← get?_pushedAll]
  constructor
  · intro some
    rcases some with ⟨score, found, above⟩
    have own := scored_pushedAll pushes point score found
    rw [own] at found above
    exact ⟨found, above⟩
  · intro both
    exact ⟨point.ts, both.1, both.2⟩

/-- The points of a window by second, and of one second by their texts. -/
theorem listed_eq (pushes : List TimeseriesPush) (cutoff : Int) :
    (range payloadText cutoff (pushedAll pushes)).mergeSort
        (fun left right => left.ts ≤ right.ts) =
      range payloadText cutoff (pushedAll pushes) := by
  apply List.mergeSort_of_pairwise
  refine List.Pairwise.imp ?_ (range_pairwise DashboardPoint.ts (scored_pushedAll pushes))
  intro left right ordered
  apply decide_eq_true
  rcases ordered with below | ⟨level, _⟩
  · exact Int.le_of_lt below
  · exact Int.le_of_eq level

/-- The last point of its second, by the text. -/
def LastOfSecond (pushes : List TimeseriesPush) (point : DashboardPoint) : Prop :=
  ∀ other, Kept pushes other → other.ts = point.ts → payloadText other ≤ payloadText point

theorem get?_dedup (pushes : List TimeseriesPush) (nowTs windowSeconds second : Int)
    (point : DashboardPoint) :
    (lastPerClass DashboardPoint.ts
        (((range payloadText (nowTs - windowSeconds) (pushedAll pushes)).mergeSort
          (fun left right => left.ts ≤ right.ts)).filter (fun point => 0 < point.ts))).get? second =
        some point ↔
      point.ts = second ∧ InWindow pushes nowTs windowSeconds point ∧ LastOfSecond pushes point := by
  have member (other : DashboardPoint) :
      other ∈ (range payloadText (nowTs - windowSeconds) (pushedAll pushes)).filter
        (fun point => 0 < point.ts) ↔ InWindow pushes nowTs windowSeconds other := by
    unfold InWindow
    rw [List.mem_filter, mem_range_pushedAll, decide_eq_true_iff, and_assoc]
  have sorted : ((range payloadText (nowTs - windowSeconds) (pushedAll pushes)).filter
      (fun point => 0 < point.ts)).Pairwise
      (fun left right => left.ts = right.ts → payloadText left ≤ payloadText right) := by
    apply List.Pairwise.filter
    refine List.Pairwise.imp ?_ (range_pairwise DashboardPoint.ts (scored_pushedAll pushes))
    intro left right ordered level
    rcases ordered with below | ⟨_, ranked⟩
    · omega
    · exact ranked
  rw [listed_eq, get?_lastPerClass payloadText_injective sorted, member]
  unfold LastOfSecond
  constructor
  · intro all
    rcases all with ⟨inside, own, highest⟩
    refine ⟨own, inside, ?_⟩
    intro other kept level
    refine highest other ((member other).mpr ⟨kept, ?_, ?_⟩) (level.trans own)
    · rw [level]
      exact inside.2.1
    · rw [level]
      exact inside.2.2
  · intro all
    rcases all with ⟨own, inside, highest⟩
    refine ⟨inside, own, ?_⟩
    intro other listed level
    exact highest other ((member other).mp listed).1 (level.trans own.symm)

theorem getDashboardTimeseries_sorted (pushes : List TimeseriesPush) (nowTs windowSeconds : Int) :
    (getDashboardTimeseries nowTs windowSeconds (pushedAll pushes)).Pairwise
      (fun left right => left.ts < right.ts) := by
  unfold getDashboardTimeseries
  apply listedByKey_pairwise DashboardPoint.ts
  intro second point found
  exact ((get?_dedup pushes nowTs windowSeconds second point).mp found).1

theorem mem_getDashboardTimeseries (pushes : List TimeseriesPush) (nowTs windowSeconds : Int)
    (point : DashboardPoint) :
    point ∈ getDashboardTimeseries nowTs windowSeconds (pushedAll pushes) ↔
      InWindow pushes nowTs windowSeconds point ∧ LastOfSecond pushes point := by
  unfold getDashboardTimeseries
  rw [mem_listedByKey]
  constructor
  · intro some
    rcases some with ⟨second, found⟩
    exact ((get?_dedup pushes nowTs windowSeconds second point).mp found).2
  · intro both
    exact ⟨point.ts, (get?_dedup pushes nowTs windowSeconds point.ts point).mpr ⟨rfl, both⟩⟩

/-- What is read after any pushes: for each second of the window that has kept points the one
whose text comes last, in the order of time. -/
theorem dashboard_timeseries_reads (pushes : List TimeseriesPush) (nowTs windowSeconds : Int) :
    (getDashboardTimeseries nowTs windowSeconds (pushedAll pushes)).Pairwise
        (fun left right => left.ts < right.ts) ∧
      ∀ point, point ∈ getDashboardTimeseries nowTs windowSeconds (pushedAll pushes) ↔
        InWindow pushes nowTs windowSeconds point ∧ LastOfSecond pushes point :=
  ⟨getDashboardTimeseries_sorted pushes nowTs windowSeconds,
    mem_getDashboardTimeseries pushes nowTs windowSeconds⟩

/-! ### The operator dashboard -/

inductive Freshness where
  | unknown
  | fresh
  | degraded
  | stale
  deriving DecidableEq, Repr

/-- `TIME_RANGE_SECONDS.get(time_range, 3600)` -/
def timeRangeSeconds (timeRange : String) : Int :=
  ((Dict.ofList [("5m", 300), ("15m", 900), ("1h", 3600), ("6h", 21600), ("24h", 86400)]).get?
    timeRange).getD 3600

/-- The points made up where none were read. -/
def madeUpSeries (nowTs window : Int) : List DashboardPoint :=
  let count := min 10 (max 5 (window / 60))
  let step := max 30 (window / count)
  (List.range count.toNat).map (fun number : Nat =>
    ⟨nowTs - (count - 1 - number) * step, 0, 0, 0⟩)

def operatorSeries (nowTs window : Int) (points : List DashboardPoint) : List DashboardPoint :=
  if points.isEmpty then madeUpSeries nowTs window else points

/-- The age of the last point, in milliseconds. -/
def seriesAge (now : Nat) (series : List DashboardPoint) : Option Int :=
  series.getLast?.bind (fun point => if point.ts = 0 then none else some (now - 1000 * point.ts))

def freshness : Option Int → Freshness
  | none => .unknown
  | some age => if age ≤ 30000 then .fresh else if age ≤ 120000 then .degraded else .stale

/-- What the operator dashboard tells of its data: how fresh it is, and whether it is degraded. -/
def operatorHealth (now : Nat) (timeRange : String) (degraded : Bool)
    (points : List DashboardPoint) : Freshness × Bool :=
  let age := seriesAge now (operatorSeries ((now / 1000 : Nat) : Int)
    (timeRangeSeconds timeRange) points)
  (freshness age, degraded && !age.any (fun age => age ≤ 120000))

theorem madeUpSeries_last (nowTs window : Int) :
    (madeUpSeries nowTs window).getLast? = some ⟨nowTs, 0, 0, 0⟩ := by
  unfold madeUpSeries
  have several : ∃ count : Nat, (min 10 (max 5 (window / 60))).toNat = count + 1 :=
    ⟨(min 10 (max 5 (window / 60))).toNat - 1, by omega⟩
  rcases several with ⟨count, same⟩
  have last : min 10 (max 5 (window / 60)) - 1 - (count : Int) = 0 := by omega
  simp only [same, List.range_succ, List.map_append, List.map_cons, List.map_nil,
    List.getLast?_append, List.getLast?_singleton, last, Int.zero_mul, Int.sub_zero]
  rfl

/-- A series that was made up looks fresh. -/
theorem operatorHealth_empty {now : Nat} (begun : 1000 ≤ now) (timeRange : String)
    (degraded : Bool) : operatorHealth now timeRange degraded [] = (.fresh, false) := by
  have started : ¬ ((now / 1000 : Nat) : Int) = 0 := by omega
  have young : (now : Int) - 1000 * ((now / 1000 : Nat) : Int) ≤ 30000 := by omega
  have settled : (now : Int) - 1000 * ((now / 1000 : Nat) : Int) ≤ 120000 := by omega
  unfold operatorHealth operatorSeries seriesAge
  simp only [List.isEmpty_nil, if_true, madeUpSeries_last, Option.bind_some, if_neg started,
    freshness, if_pos young, Option.any_some, settled, decide_true, Bool.not_true, Bool.and_false]

theorem operatorHealth_last {now : Nat} {points : List DashboardPoint} {last : DashboardPoint}
    (ends : points.getLast? = some last) (timed : 0 < last.ts) (timeRange : String)
    (degraded : Bool) :
    operatorHealth now timeRange degraded points =
      (freshness (some (now - 1000 * last.ts)),
        degraded && !decide ((now : Int) - 1000 * last.ts ≤ 120000)) := by
  have nonempty : points.isEmpty = false := by
    cases points with
    | nil => cases ends
    | cons first rest => rfl
  have started : ¬ last.ts = 0 := by omega
  unfold operatorHealth operatorSeries seriesAge
  simp only [nonempty, Bool.false_eq_true, if_false, ends, Option.bind_some, if_neg started,
    Option.any_some]

/-- A point of the window that no other of it is newer than. -/
def NewestInWindow (pushes : List TimeseriesPush) (nowTs windowSeconds : Int)
    (point : DashboardPoint) : Prop :=
  InWindow pushes nowTs windowSeconds point ∧
    ∀ other, InWindow pushes nowTs windowSeconds other → other.ts ≤ point.ts

/-- Each point of the window has one of its second that is read. -/
theorem exists_read {pushes : List TimeseriesPush} {nowTs windowSeconds : Int}
    {point : DashboardPoint} (inside : InWindow pushes nowTs windowSeconds point) :
    ∃ chosen ∈ getDashboardTimeseries nowTs windowSeconds (pushedAll pushes),
      chosen.ts = point.ts := by
  have listed : point ∈ ((range payloadText (nowTs - windowSeconds) (pushedAll pushes)).mergeSort
      (fun left right => left.ts ≤ right.ts)).filter (fun point => 0 < point.ts) := by
    rw [listed_eq, List.mem_filter, mem_range_pushedAll]
    exact ⟨⟨inside.1, inside.2.1⟩, decide_eq_true inside.2.2⟩
  have key : point.ts ∈ (lastPerClass DashboardPoint.ts
      (((range payloadText (nowTs - windowSeconds) (pushedAll pushes)).mergeSort
        (fun left right => left.ts ≤ right.ts)).filter (fun point => 0 < point.ts))).keys := by
    unfold lastPerClass
    rw [Dict.mem_keys_ofList, List.map_map]
    exact List.mem_map_of_mem listed
  rcases (Dict.mem_keys_iff _ _).mp key with ⟨chosen, found⟩
  refine ⟨chosen, mem_listedByKey.mpr ⟨point.ts, found⟩, ?_⟩
  exact ((get?_dedup pushes nowTs windowSeconds point.ts chosen).mp found).1

theorem read_nil_iff (pushes : List TimeseriesPush) (nowTs windowSeconds : Int) :
    getDashboardTimeseries nowTs windowSeconds (pushedAll pushes) = [] ↔
      ∀ point, ¬ InWindow pushes nowTs windowSeconds point := by
  rw [List.eq_nil_iff_forall_not_mem]
  constructor
  · intro none point inside
    rcases exists_read inside with ⟨chosen, listed, _⟩
    exact none chosen listed
  · intro none point listed
    exact none point ((mem_getDashboardTimeseries pushes nowTs windowSeconds point).mp listed).1

theorem last_read_newest {pushes : List TimeseriesPush} {nowTs windowSeconds : Int}
    {last : DashboardPoint}
    (ends : (getDashboardTimeseries nowTs windowSeconds (pushedAll pushes)).getLast? = some last) :
    NewestInWindow pushes nowTs windowSeconds last := by
  have sorted := getDashboardTimeseries_sorted pushes nowTs windowSeconds
  rcases List.getLast?_eq_some_iff.mp ends with ⟨earlier, split⟩
  have listed := List.mem_of_mem_getLast? ends
  refine ⟨((mem_getDashboardTimeseries pushes nowTs windowSeconds last).mp listed).1, ?_⟩
  intro other inside
  rcases exists_read inside with ⟨chosen, listed, same⟩
  rw [split] at listed sorted
  rcases List.mem_append.mp listed with before | isLast
  · have less := (List.pairwise_append.mp sorted).2.2 chosen before last
      (List.mem_singleton.mpr rfl)
    omega
  · rw [← same, List.mem_singleton.mp isLast]

/-- The operator dashboard calls its data fresh when the newest point of the window is, and
when there is none; it stays degraded only where a point of the window is two minutes old. -/
theorem operator_health_iff (pushes : List TimeseriesPush) {now : Nat} (begun : 1000 ≤ now)
    (readTs : Int) (timeRange : String) (degraded : Bool) :
    ((operatorHealth now timeRange degraded (getDashboardTimeseries readTs
          (timeRangeSeconds timeRange) (pushedAll pushes))).1 = .fresh ↔
        ∀ point, NewestInWindow pushes readTs (timeRangeSeconds timeRange) point →
          (now : Int) - 1000 * point.ts ≤ 30000) ∧
      ((operatorHealth now timeRange degraded (getDashboardTimeseries readTs
          (timeRangeSeconds timeRange) (pushedAll pushes))).2 = true ↔
        degraded = true ∧ ∃ point, NewestInWindow pushes readTs (timeRangeSeconds timeRange) point ∧
          120000 < (now : Int) - 1000 * point.ts) := by
  cases ends : (getDashboardTimeseries readTs (timeRangeSeconds timeRange)
      (pushedAll pushes)).getLast? with
  | none =>
      have nothing := List.getLast?_eq_none_iff.mp ends
      have outside := (read_nil_iff pushes readTs (timeRangeSeconds timeRange)).mp nothing
      rw [nothing, operatorHealth_empty begun]
      constructor
      · apply iff_of_true rfl
        intro point newest
        exact absurd newest.1 (outside point)
      · apply iff_of_false Bool.false_ne_true
        intro both
        rcases both.2 with ⟨point, newest, _⟩
        exact outside point newest.1
  | some last =>
      have newest := last_read_newest ends
      have same (point : DashboardPoint)
          (other : NewestInWindow pushes readTs (timeRangeSeconds timeRange) point) :
          point.ts = last.ts := by
        have above := other.2 last newest.1
        have below := newest.2 point other.1
        omega
      rw [operatorHealth_last ends newest.1.2.2]
      constructor
      · simp only [freshness]
        constructor
        · intro fresh point other
          rw [same point other]
          by_contra old
          rw [if_neg old] at fresh
          split at fresh <;> cases fresh
        · intro young
          rw [if_pos (young last newest)]
      · rw [Bool.and_eq_true, Bool.not_eq_true', decide_eq_false_iff_not]
        apply and_congr_right
        intro _
        constructor
        · intro old
          exact ⟨last, newest, by omega⟩
        · intro some
          rcases some with ⟨point, other, old⟩
          rw [same point other] at old
          omega

/-- A cluster that never had a point looks fresh. -/
theorem silent_cluster_looks_fresh :
    (operatorHealth 200000000000 "1h" true
      (getDashboardTimeseries 200000000 (timeRangeSeconds "1h") (pushedAll []))).1 = .fresh := by
  apply (operator_health_iff [] (by decide) 200000000 "1h" true).1.mpr
  intro point newest
  rcases newest.1.1 with ⟨earlier, push, later, split, _⟩
  simp at split

end VpnSuite.Telemetry
