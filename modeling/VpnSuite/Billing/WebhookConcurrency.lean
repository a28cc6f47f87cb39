/-
Concurrent payment webhooks (`backend/app/api/v1/webhooks.py`, `payment_webhook`).

Any number of requests run their database statements in any order.  A request
looks its external id up, inserts a payment when it found none, applies the
effects and commits; on an integrity error it rolls back and looks again.  The
unique index on `payments.external_id` refuses a committed duplicate at once and
makes an insert wait while another transaction holds the same value uncommitted.
Every statement may also fail for reasons of its own and end its transaction.
-/

import VpnSuite.Billing.WebhookReplay
import Mathlib.Logic.Relation
import Mathlib.Logic.Function.Basic

set_option autoImplicit false

namespace VpnSuite.Billing

open Foundations

variable {ι : Type} [DecidableEq ι]

/-- Where a request stands between two of its statements. -/
inductive Phase where
  | waiting
  | notFound
  | found (paymentId : Nat)
  | inserted (paymentId : Nat)
  | affected (paymentId : Nat)
  | conflicted
  | ok (paymentId : Nat) (created : Bool)
  | failed (statusCode : Nat)
  deriving DecidableEq, Repr

/-- The row the request has inserted and not committed yet. -/
def Phase.holds : Phase → Option Nat
  | .inserted paymentId => some paymentId
  | .affected paymentId => some paymentId
  | _ => none

/-- The request has not answered yet. -/
def Phase.running : Phase → Bool
  | .ok _ _ => false
  | .failed _ => false
  | _ => true

/-- A committed payment and the request that inserted it, if it was one of these. -/
structure Row (ι : Type) where
  externalId : String
  paymentId : Nat
  author : Option ι
  deriving DecidableEq

/-- The committed rows, the requests whose committed transaction contains the
subscription effects, and the phase of every request. -/
structure Webhooks (ι : Type) where
  rows : List (Row ι)
  effectCommits : List ι
  phase : ι → Phase

def Webhooks.move (state : Webhooks ι) (request : ι) (next : Phase) : Webhooks ι :=
  { state with phase := Function.update state.phase request next }

def Webhooks.commit (state : Webhooks ι) (request : ι) (externalId : String) (paymentId : Nat)
    (effects : Bool) : Webhooks ι :=
  { rows := state.rows ++ [⟨externalId, paymentId, some request⟩]
    effectCommits := if effects then state.effectCommits ++ [request] else state.effectCommits
    phase := Function.update state.phase request (.ok paymentId true) }

def Webhooks.stores (state : Webhooks ι) (externalId : String) : Prop :=
  ∃ row ∈ state.rows, row.externalId = externalId

/-- Another transaction holds the external id uncommitted. -/
def Webhooks.locked (requests : ι → Payload) (state : Webhooks ι) (request : ι)
    (externalId : String) : Prop :=
  ∃ other, other ≠ request ∧ externalIdOf (requests other) = some externalId ∧
    (state.phase other).holds ≠ none

/-- One statement of one request. -/
inductive Step (requests : ι → Payload) : Webhooks ι → Webhooks ι → Prop where
  | lookupMiss (state : Webhooks ι) (request : ι) (externalId : String)
      (stage : state.phase request = .waiting)
      (keyed : externalIdOf (requests request) = some externalId)
      (absent : ¬ state.stores externalId) :
      Step requests state (state.move request .notFound)
  | lookupHit (state : Webhooks ι) (request : ι) (row : Row ι)
      (stage : state.phase request = .waiting) (member : row ∈ state.rows)
      (keyed : externalIdOf (requests request) = some row.externalId) :
      Step requests state (state.move request (.found row.paymentId))
  | reject (state : Webhooks ι) (request : ι)
      (stage : state.phase request = .waiting ∨ state.phase request = .notFound) :
      Step requests state (state.move request (.failed 400))
  | insert (state : Webhooks ι) (request : ι) (externalId : String) (paymentId : Nat)
      (stage : state.phase request = .notFound)
      (keyed : externalIdOf (requests request) = some externalId)
      (absent : ¬ state.stores externalId) (free : ¬ state.locked requests request externalId) :
      Step requests state (state.move request (.inserted paymentId))
  | duplicate (state : Webhooks ι) (request : ι) (externalId : String)
      (stage : state.phase request = .notFound)
      (keyed : externalIdOf (requests request) = some externalId)
      (present : state.stores externalId) :
      Step requests state (state.move request .conflicted)
  | foreignKey (state : Webhooks ι) (request : ι) (stage : state.phase request = .notFound) :
      Step requests state (state.move request .conflicted)
  | applyEffects (state : Webhooks ι) (request : ι) (externalId : String) (paymentId : Nat)
      (stage : state.phase request = .inserted paymentId)
      (keyed : externalIdOf (requests request) = some externalId)
      (completed : statusOf (requests request) = "completed") :
      Step requests state (state.move request (.affected paymentId))
  | commitCreated (state : Webhooks ι) (request : ι) (externalId : String) (paymentId : Nat)
      (stage : state.phase request = .inserted paymentId)
      (keyed : externalIdOf (requests request) = some externalId) :
      Step requests state (state.commit request externalId paymentId false)
  | commitAffected (state : Webhooks ι) (request : ι) (externalId : String) (paymentId : Nat)
      (stage : state.phase request = .affected paymentId)
      (keyed : externalIdOf (requests request) = some externalId) :
      Step requests state (state.commit request externalId paymentId true)
  | commitRepeat (state : Webhooks ι) (request : ι) (paymentId : Nat)
      (stage : state.phase request = .found paymentId) :
      Step requests state (state.move request (.ok paymentId false))
  | abort (state : Webhooks ι) (request : ι)
      (stage : (state.phase request).running = true) :
      Step requests state (state.move request (.failed 500))
  | rereadHit (state : Webhooks ι) (request : ι) (row : Row ι)
      (stage : state.phase request = .conflicted) (member : row ∈ state.rows)
      (keyed : externalIdOf (requests request) = some row.externalId) :
      Step requests state (state.move request (.ok row.paymentId false))
  | rereadMiss (state : Webhooks ι) (request : ι)
      (stage : state.phase request = .conflicted) :
      Step requests state (state.move request (.failed 409))

/-- Every request is still to come; the table already obeys its unique index. -/
structure Fresh (state : Webhooks ι) : Prop where
  unique : (state.rows.map Row.externalId).Nodup
  waiting : ∀ request, state.phase request = .waiting
  unaffected : state.effectCommits = []

/-! ### The invariant -/

/-- What holds in every state of every interleaving. -/
structure Consistent (requests : ι → Payload) (state : Webhooks ι) : Prop where
  /-- one committed row per external id -/
  unique : (state.rows.map Row.externalId).Nodup
  /-- an uncommitted row shares its external id with no committed and no other one -/
  exclusive : ∀ request externalId, (state.phase request).holds ≠ none →
    externalIdOf (requests request) = some externalId →
    ¬ state.stores externalId ∧ ¬ state.locked requests request externalId
  /-- a request that found a payment found a committed one -/
  seen : ∀ request paymentId, state.phase request = .found paymentId →
    ∃ row ∈ state.rows, externalIdOf (requests request) = some row.externalId ∧
      row.paymentId = paymentId
  /-- an answered request names a committed payment, its own if it says created -/
  answered : ∀ request paymentId created, state.phase request = .ok paymentId created →
    ∃ row ∈ state.rows, externalIdOf (requests request) = some row.externalId ∧
      row.paymentId = paymentId ∧ (created = true → row.author = some request)
  /-- committed effects belong to requests that answered created -/
  affecting : ∀ request ∈ state.effectCommits, ∃ paymentId,
    state.phase request = .ok paymentId true
  distinct : state.effectCommits.Nodup

omit [DecidableEq ι] in
theorem Fresh.consistent {requests : ι → Payload} {state : Webhooks ι} (fresh : Fresh state) :
    Consistent requests state where
  unique := fresh.unique
  exclusive := by
    intro request externalId holding
    rw [fresh.waiting request] at holding
    exact absurd rfl holding
  seen := by
    intro request paymentId stage
    rw [fresh.waiting request] at stage
    cases stage
  answered := by
    intro request paymentId created stage
    rw [fresh.waiting request] at stage
    cases stage
  affecting := by
    intro request member
    rw [fresh.unaffected] at member
    cases member
  distinct := by
    rw [fresh.unaffected]
    exact List.nodup_nil

theorem Webhooks.move_phase (state : Webhooks ι) (request other : ι) (next : Phase) :
    (state.move request next).phase other =
      if other = request then next else state.phase other := by
  unfold Webhooks.move
  by_cases same : other = request
  · rw [same]
    simp
  · simp [same]

/-- A locked external id stays locked only through requests that still hold a row. -/
theorem locked_of_move {requests : ι → Payload} {state : Webhooks ι} {request other : ι}
    {next : Phase} {externalId : String} (released : next.holds = none)
    (locked : (state.move request next).locked requests other externalId) :
    state.locked requests other externalId := by
  obtain ⟨holder, different, keyed, holding⟩ := locked
  rw [Webhooks.move_phase] at holding
  split at holding
  · exact absurd released holding
  · exact ⟨holder, different, keyed, holding⟩

/-- The committed payment a request with this key has read. -/
def Webhooks.hasRead (state : Webhooks ι) (key : Option String) (paymentId : Nat) : Prop :=
  ∃ row ∈ state.rows, key = some row.externalId ∧ row.paymentId = paymentId

/-- A phase that names a payment names one the request has read. -/
def Webhooks.backs (state : Webhooks ι) (key : Option String) : Phase → Prop
  | .found paymentId => state.hasRead key paymentId
  | .ok paymentId created => created = false ∧ state.hasRead key paymentId
  | _ => True

/-- A request that still runs has no committed effects to lose. -/
theorem Consistent.affecting_move {requests : ι → Payload} {state : Webhooks ι} {request : ι}
    (before : Consistent requests state) (running : (state.phase request).running = true)
    (next : Phase) :
    ∀ other ∈ state.effectCommits, ∃ paymentId,
      (state.move request next).phase other = .ok paymentId true := by
  intro other member
  obtain ⟨paymentId, stage⟩ := before.affecting other member
  refine ⟨paymentId, ?_⟩
  rw [Webhooks.move_phase]
  split
  · rename_i same
    rw [← same, stage] at running
    cases running
  · exact stage

/-- A step that writes no row keeps the invariant if the new phase is backed by one. -/
theorem Consistent.move {requests : ι → Payload} {state : Webhooks ι} {request : ι}
    {next : Phase} (before : Consistent requests state)
    (running : (state.phase request).running = true) (released : next.holds = none)
    (backed : state.backs (externalIdOf (requests request)) next) :
    Consistent requests (state.move request next) where
  unique := before.unique
  exclusive := by
    intro other externalId holding keyed
    rw [Webhooks.move_phase] at holding
    split at holding
    · exact absurd released holding
    · obtain ⟨absent, free⟩ := before.exclusive other externalId holding keyed
      exact ⟨absent, fun locked => free (locked_of_move released locked)⟩
  seen := by
    intro other paymentId stage
    rw [Webhooks.move_phase] at stage
    split at stage
    · rename_i same
      rw [stage] at backed
      rw [same]
      exact backed
    · exact before.seen other paymentId stage
  answered := by
    intro other paymentId created stage
    rw [Webhooks.move_phase] at stage
    split at stage
    · rename_i same
      rw [stage] at backed
      rw [same]
      obtain ⟨repeated, row, member, keyed, named⟩ := backed
      refine ⟨row, member, keyed, named, ?_⟩
      intro claimed
      rw [repeated] at claimed
      cases claimed
    · exact before.answered other paymentId created stage
  affecting := before.affecting_move running next
  distinct := before.distinct

/-- Writing a row the index admits keeps the invariant. -/
theorem Consistent.hold {requests : ι → Payload} {state : Webhooks ι} {request : ι}
    {next : Phase} {externalId : String} {paymentId : Nat} (before : Consistent requests state)
    (running : (state.phase request).running = true) (holding : next.holds = some paymentId)
    (keyed : externalIdOf (requests request) = some externalId)
    (absent : ¬ state.stores externalId) (free : ¬ state.locked requests request externalId) :
    Consistent requests (state.move request next) where
  unique := before.unique
  exclusive := by
    intro other key heldByOther sameKey
    by_cases same : other = request
    · subst same
      rw [keyed, Option.some.injEq] at sameKey
      subst sameKey
      refine ⟨absent, ?_⟩
      rintro ⟨holder, different, holderKey, holderHolds⟩
      rw [Webhooks.move_phase, if_neg different] at holderHolds
      exact free ⟨holder, different, holderKey, holderHolds⟩
    · rw [Webhooks.move_phase, if_neg same] at heldByOther
      obtain ⟨otherAbsent, otherFree⟩ := before.exclusive other key heldByOther sameKey
      refine ⟨otherAbsent, ?_⟩
      rintro ⟨holder, different, holderKey, holderHolds⟩
      rw [Webhooks.move_phase] at holderHolds
      split at holderHolds
      · rename_i isRequest
        -- the new row would wait for the one `other` holds
        rw [isRequest, keyed, Option.some.injEq] at holderKey
        subst holderKey
        exact free ⟨other, same, sameKey, heldByOther⟩
      · exact otherFree ⟨holder, different, holderKey, holderHolds⟩
  seen := by
    intro other id stage
    rw [Webhooks.move_phase] at stage
    split at stage
    · rw [stage] at holding
      cases holding
    · exact before.seen other id stage
  answered := by
    intro other id created stage
    rw [Webhooks.move_phase] at stage
    split at stage
    · rw [stage] at holding
      cases holding
    · exact before.answered other id created stage
  affecting := before.affecting_move running next
  distinct := before.distinct

theorem Webhooks.commit_phase (state : Webhooks ι) (request other : ι) (externalId : String)
    (paymentId : Nat) (effects : Bool) :
    (state.commit request externalId paymentId effects).phase other =
      if other = request then .ok paymentId true else state.phase other :=
  state.move_phase request other (.ok paymentId true)

theorem stores_commit {state : Webhooks ι} {request : ι} {externalId key : String}
    {paymentId : Nat} {effects : Bool}
    (stored : (state.commit request externalId paymentId effects).stores key) :
    state.stores key ∨ key = externalId := by
  obtain ⟨row, member, same⟩ := stored
  rcases List.mem_append.mp member with old | new
  · exact Or.inl ⟨row, old, same⟩
  · rw [List.mem_singleton.mp new] at same
    exact Or.inr same.symm

theorem nodup_commit {state : Webhooks ι} {externalId : String}
    (unique : (state.rows.map Row.externalId).Nodup) (absent : ¬ state.stores externalId)
    (request : ι) (paymentId : Nat) (effects : Bool) :
    ((state.commit request externalId paymentId effects).rows.map Row.externalId).Nodup := by
  change ((state.rows ++ [_]).map Row.externalId).Nodup
  rw [List.map_append]
  refine List.nodup_append.mpr ⟨unique, List.nodup_singleton _, ?_⟩
  intro left inRows right isNew same
  obtain ⟨row, member, rowKey⟩ := List.mem_map.mp inRows
  rw [List.map_singleton, List.mem_singleton] at isNew
  exact absent ⟨row, member, rowKey.trans (same.trans isNew)⟩

theorem mem_effectCommits_commit {state : Webhooks ι} {request other : ι} {externalId : String}
    {paymentId : Nat} {effects : Bool}
    (member : other ∈ (state.commit request externalId paymentId effects).effectCommits) :
    other ∈ state.effectCommits ∨ other = request := by
  cases effects with
  | false => exact Or.inl member
  | true =>
      rcases List.mem_append.mp member with old | new
      · exact Or.inl old
      · exact Or.inr (List.mem_singleton.mp new)

/-- Committing the row a request holds keeps the invariant. -/
theorem Consistent.commit {requests : ι → Payload} {state : Webhooks ι} {request : ι}
    {externalId : String} {paymentId : Nat} (before : Consistent requests state)
    (holding : (state.phase request).holds = some paymentId)
    (keyed : externalIdOf (requests request) = some externalId) (effects : Bool) :
    Consistent requests (state.commit request externalId paymentId effects) := by
  have held : (state.phase request).holds ≠ none := by
    rw [holding]
    simp
  obtain ⟨absent, free⟩ := before.exclusive request externalId held keyed
  have running : ∀ id created, state.phase request ≠ .ok id created := by
    intro id created stage
    rw [stage] at holding
    cases holding
  have kept : ∀ row ∈ state.rows,
      row ∈ (state.commit request externalId paymentId effects).rows :=
    fun row member => List.mem_append_left _ member
  refine ⟨?_, ?_, ?_, ?_, ?_, ?_⟩
  · exact nodup_commit before.unique absent request paymentId effects
  · intro other key heldByOther sameKey
    rw [Webhooks.commit_phase] at heldByOther
    split at heldByOther
    · exact absurd rfl heldByOther
    · rename_i different
      obtain ⟨otherAbsent, otherFree⟩ := before.exclusive other key heldByOther sameKey
      constructor
      · intro stored
        rcases stores_commit stored with old | new
        · exact otherAbsent old
        · subst new
          exact free ⟨other, different, sameKey, heldByOther⟩
      · rintro ⟨holder, apart, holderKey, holderHolds⟩
        rw [Webhooks.commit_phase] at holderHolds
        split at holderHolds
        · exact holderHolds rfl
        · exact otherFree ⟨holder, apart, holderKey, holderHolds⟩
  · intro other id stage
    rw [Webhooks.commit_phase] at stage
    split at stage
    · cases stage
    · obtain ⟨row, member, backed⟩ := before.seen other id stage
      exact ⟨row, kept row member, backed⟩
  · intro other id created stage
    rw [Webhooks.commit_phase] at stage
    split at stage
    · rename_i same
      cases stage
      rw [same]
      exact ⟨⟨externalId, paymentId, some request⟩, List.mem_append_right _ (by simp), keyed, rfl,
        fun _ => rfl⟩
    · obtain ⟨row, member, backed⟩ := before.answered other id created stage
      exact ⟨row, kept row member, backed⟩
  · intro other member
    rw [Webhooks.commit_phase]
    split
    · exact ⟨paymentId, rfl⟩
    · rename_i different
      rcases mem_effectCommits_commit member with earlier | isRequest
      · exact before.affecting other earlier
      · exact absurd isRequest different
  · cases effects with
    | false => exact before.distinct
    | true =>
        change (state.effectCommits ++ [request]).Nodup
        refine List.nodup_append.mpr ⟨before.distinct, List.nodup_singleton _, ?_⟩
        intro left earlier right isNew same
        rw [List.mem_singleton] at isNew
        subst same
        subst isNew
        obtain ⟨id, stage⟩ := before.affecting left earlier
        exact running id true stage

/-! ### Every interleaving -/

theorem Consistent.step {requests : ι → Payload} {state after : Webhooks ι}
    (before : Consistent requests state) (step : Step requests state after) :
    Consistent requests after := by
  cases step with
  | lookupMiss request externalId stage keyed absent =>
      exact before.move (by rw [stage]; rfl) rfl trivial
  | lookupHit request row stage member keyed =>
      exact before.move (by rw [stage]; rfl) rfl ⟨row, member, keyed, rfl⟩
  | reject request stage =>
      refine before.move ?_ rfl trivial
      rcases stage with waiting | missed
      · rw [waiting]
        rfl
      · rw [missed]
        rfl
  | insert request externalId paymentId stage keyed absent free =>
      exact before.hold (by rw [stage]; rfl) rfl keyed absent free
  | duplicate request externalId stage keyed present =>
      exact before.move (by rw [stage]; rfl) rfl trivial
  | foreignKey request stage =>
      exact before.move (by rw [stage]; rfl) rfl trivial
  | applyEffects request externalId paymentId stage keyed completed =>
      have holding : (state.phase request).holds ≠ none := by
        rw [stage]
        simp [Phase.holds]
      obtain ⟨absent, free⟩ := before.exclusive request externalId holding keyed
      exact before.hold (by rw [stage]; rfl) rfl keyed absent free
  | commitCreated request externalId paymentId stage keyed =>
      exact before.commit (by rw [stage]; rfl) keyed false
  | commitAffected request externalId paymentId stage keyed =>
      exact before.commit (by rw [stage]; rfl) keyed true
  | commitRepeat request paymentId stage =>
      obtain ⟨row, member, keyed, named⟩ := before.seen request paymentId stage
      exact before.move (by rw [stage]; rfl) rfl ⟨rfl, row, member, keyed, named⟩
  | abort request stage =>
      exact before.move stage rfl trivial
  | rereadHit request row stage member keyed =>
      exact before.move (by rw [stage]; rfl) rfl ⟨rfl, row, member, keyed, rfl⟩
  | rereadMiss request stage =>
      exact before.move (by rw [stage]; rfl) rfl trivial

theorem Consistent.run {requests : ι → Payload} {start state : Webhooks ι}
    (before : Consistent requests start)
    (run : Relation.ReflTransGen (Step requests) start state) : Consistent requests state := by
  induction run with
  | refl => exact before
  | tail _ step ih => exact ih.step step

omit [DecidableEq ι] in
theorem Consistent.row_unique {requests : ι → Payload} {state : Webhooks ι}
    (consistent : Consistent requests state) {left right : Row ι} (inLeft : left ∈ state.rows)
    (inRight : right ∈ state.rows) (same : left.externalId = right.externalId) : left = right :=
  List.inj_on_of_nodup_map consistent.unique inLeft inRight same

private theorem length_le_one {α : Type} {items : List α} (distinct : items.Nodup)
    (same : ∀ left ∈ items, ∀ right ∈ items, left = right) : items.length ≤ 1 := by
  match items, distinct, same with
  | [], _, _ => exact Nat.zero_le 1
  | [_], _, _ => exact Nat.le_refl 1
  | first :: second :: rest, distinct, same =>
      have equal := same first (by simp) second (by simp)
      rw [equal] at distinct
      simp at distinct

omit [DecidableEq ι] in
/-- The payment a request created is its own, so two creators of one external id
are the same request. -/
theorem Consistent.creator_unique {requests : ι → Payload} {state : Webhooks ι}
    (consistent : Consistent requests state) {left right : ι} {externalId : String}
    {leftId rightId : Nat} (leftKey : externalIdOf (requests left) = some externalId)
    (rightKey : externalIdOf (requests right) = some externalId)
    (leftOk : state.phase left = .ok leftId true)
    (rightOk : state.phase right = .ok rightId true) : left = right := by
  obtain ⟨leftRow, inLeft, leftRowKey, _, leftAuthor⟩ := consistent.answered left leftId true leftOk
  obtain ⟨rightRow, inRight, rightRowKey, _, rightAuthor⟩ :=
    consistent.answered right rightId true rightOk
  rw [leftKey, Option.some.injEq] at leftRowKey
  rw [rightKey, Option.some.injEq] at rightRowKey
  have sameRow := consistent.row_unique inLeft inRight (leftRowKey.symm.trans rightRowKey)
  have sameAuthor := (leftAuthor rfl).symm.trans ((congrArg Row.author sameRow).trans
    (rightAuthor rfl))
  exact Option.some.inj sameAuthor

/-- In every interleaving and for every external id: at most one committed
transaction with effects, at most one payment, every successful answer names that
payment, and at most one of them says it was created. -/
theorem webhook_at_most_once (requests : ι → Payload) (start state : Webhooks ι)
    (fresh : Fresh start) (run : Relation.ReflTransGen (Step requests) start state)
    (externalId : String) :
    (state.effectCommits.filter (fun request =>
      externalIdOf (requests request) = some externalId)).length ≤ 1 ∧
    (state.rows.filter (fun row => row.externalId = externalId)).length ≤ 1 ∧
    (∀ request paymentId created, externalIdOf (requests request) = some externalId →
      state.phase request = .ok paymentId created →
      ∃ row ∈ state.rows, row.externalId = externalId ∧ row.paymentId = paymentId) ∧
    ∀ left right leftId rightId, externalIdOf (requests left) = some externalId →
      externalIdOf (requests right) = some externalId →
      state.phase left = .ok leftId true → state.phase right = .ok rightId true →
      left = right := by
  have consistent : Consistent requests state := fresh.consistent.run run
  refine ⟨?_, ?_, ?_, ?_⟩
  · apply length_le_one (consistent.distinct.filter _)
    intro left inLeft right inRight
    obtain ⟨leftCommitted, leftKey⟩ := List.mem_filter.mp inLeft
    obtain ⟨rightCommitted, rightKey⟩ := List.mem_filter.mp inRight
    obtain ⟨leftId, leftOk⟩ := consistent.affecting left leftCommitted
    obtain ⟨rightId, rightOk⟩ := consistent.affecting right rightCommitted
    exact consistent.creator_unique (of_decide_eq_true leftKey) (of_decide_eq_true rightKey)
      leftOk rightOk
  · apply length_le_one ((List.Nodup.of_map _ consistent.unique).filter _)
    intro left inLeft right inRight
    obtain ⟨leftStored, leftKey⟩ := List.mem_filter.mp inLeft
    obtain ⟨rightStored, rightKey⟩ := List.mem_filter.mp inRight
    exact consistent.row_unique leftStored rightStored
      ((of_decide_eq_true leftKey).trans (of_decide_eq_true rightKey).symm)
  · intro request paymentId created keyed answered
    obtain ⟨row, member, rowKey, named, _⟩ :=
      consistent.answered request paymentId created answered
    rw [keyed, Option.some.injEq] at rowKey
    exact ⟨row, member, rowKey.symm, named⟩
  · intro left right leftId rightId leftKey rightKey leftOk rightOk
    exact consistent.creator_unique leftKey rightKey leftOk rightOk

/-- Two deliveries of one completed payment. -/
def twins : Bool → Payload := fun _ => (starsDelivery "completed").payload

def twinsWaiting : Webhooks Bool := ⟨[], [], fun _ => .waiting⟩

/-- Both look up before either inserts; the slower one meets the unique index. -/
def twinsAnswered : Webhooks Bool :=
  ((((((twinsWaiting.move false .notFound).move true .notFound).move false (.inserted 4)).move
    false (.affected 4)).commit false "stars-1" 4 true).move true .conflicted).move true
    (.ok 4 false)

theorem twins_run : Relation.ReflTransGen (Step twins) twinsWaiting twinsAnswered := by
  have key : ∀ side, externalIdOf (twins side) = some "stars-1" := by decide
  have nothing : ∀ state : Webhooks Bool, state.rows = [] → ¬ state.stores "stars-1" := by
    rintro state empty ⟨row, member, _⟩
    rw [empty] at member
    cases member
  have first := (Relation.ReflTransGen.refl (a := twinsWaiting)).tail
    (Step.lookupMiss twinsWaiting false "stars-1" rfl (key false) (nothing _ rfl))
  have second := first.tail (Step.lookupMiss _ true "stars-1" rfl (key true) (nothing _ rfl))
  have third := second.tail (Step.insert _ false "stars-1" 4 rfl (key false) (nothing _ rfl) (by
    rintro ⟨other, different, _, holding⟩
    cases other with
    | false => exact different rfl
    | true => exact holding rfl))
  have fourth := third.tail (Step.applyEffects _ false "stars-1" 4 rfl (key false) (by decide))
  have fifth := fourth.tail (Step.commitAffected _ false "stars-1" 4 rfl (key false))
  have sixth := fifth.tail (Step.duplicate _ true "stars-1" rfl (key true)
    ⟨⟨"stars-1", 4, some false⟩, by simp [Webhooks.commit], rfl⟩)
  exact sixth.tail (Step.rereadHit _ true ⟨"stars-1", 4, some false⟩ rfl
    (by simp [Webhooks.commit, Webhooks.move]) (key true))

/-- Both answer with the one payment, and the effects are committed once. -/
theorem twins_at_most_once :
    twinsAnswered.phase false = .ok 4 true ∧ twinsAnswered.phase true = .ok 4 false ∧
      (twinsAnswered.effectCommits.filter (fun side =>
        externalIdOf (twins side) = some "stars-1")).length ≤ 1 ∧
      ∃ row ∈ twinsAnswered.rows, row.externalId = "stars-1" ∧ row.paymentId = 4 := by
  have fresh : Fresh twinsWaiting := ⟨List.nodup_nil, fun _ => rfl, rfl⟩
  have once := webhook_at_most_once twins twinsWaiting twinsAnswered fresh twins_run "stars-1"
  exact ⟨rfl, rfl, once.1, once.2.2.1 true 4 false (by decide) rfl⟩

/-! ### One request on its own -/

/-- The committed rows are the payments of the database. -/
def Represents (db : Db) (state : Webhooks ι) : Prop :=
  ∀ externalId paymentId,
    (∃ row ∈ state.rows, row.externalId = externalId ∧ row.paymentId = paymentId) ↔
      (db.paymentFor externalId).map Payment.id = some paymentId

omit [DecidableEq ι] in
theorem represents_stores {db : Db} {state : Webhooks ι} (same : Represents db state)
    (externalId : String) (unknown : db.paymentFor externalId = none) :
    ¬ state.stores externalId := by
  rintro ⟨row, member, key⟩
  have stored := (same externalId row.paymentId).mp ⟨row, member, key, rfl⟩
  rw [unknown] at stored
  cases stored

theorem represents_commit {db after : Db} {state : Webhooks ι} {request : ι}
    {payment : Payment} (effects : Bool) (same : Represents db state)
    (unknown : db.paymentFor payment.externalId = none)
    (grown : after.payments = db.payments ++ [payment]) :
    Represents after (state.commit request payment.externalId payment.id effects) := by
  intro externalId paymentId
  rw [paymentFor_append db after payment externalId grown]
  by_cases here : payment.externalId = externalId
  · subst here
    rw [unknown, if_pos rfl, Option.none_or, Option.map_some, Option.some.injEq]
    constructor
    · rintro ⟨row, member, key, named⟩
      rcases List.mem_append.mp member with old | new
      · exact absurd ⟨row, old, key⟩ (represents_stores same _ unknown)
      · rw [List.mem_singleton.mp new] at named
        exact named
    · intro named
      exact ⟨_, List.mem_append_right _ (List.mem_singleton.mpr rfl), rfl, named⟩
  · rw [if_neg here, Option.or_none, ← same externalId paymentId]
    constructor
    · rintro ⟨row, member, key, named⟩
      rcases List.mem_append.mp member with old | new
      · exact ⟨row, old, key, named⟩
      · rw [List.mem_singleton.mp new] at key
        exact absurd key here
    · rintro ⟨row, member, key, named⟩
      exact ⟨row, List.mem_append_left _ member, key, named⟩

/-- What the sequential service does is one run of these steps: the same answer,
the same payments and the same number of applied effects. -/
theorem processPaymentWebhook_run {settings : BillingSettings} {delivery : Delivery}
    {db after : Db} {result : WebhookResult} {requests : ι → Payload} {state : Webhooks ι}
    {request : ι} (payload : requests request = delivery.payload) (same : Represents db state)
    (stage : state.phase request = .waiting) (alone : ∀ other, (state.phase other).holds = none)
    (processed : processPaymentWebhook settings delivery db = .ok (after, result)) :
    ∃ final, Relation.ReflTransGen (Step requests) state final ∧
      final.phase request = .ok result.paymentId result.created ∧ Represents after final ∧
      final.effectCommits.length + db.effectsApplied.length =
        state.effectCommits.length + after.effectsApplied.length := by
  unfold processPaymentWebhook at processed
  cases keyed : externalIdOf delivery.payload with
  | none =>
      rw [keyed] at processed
      cases processed
  | some externalId =>
      have key : externalIdOf (requests request) = some externalId := by
        rw [payload]
        exact keyed
      rw [keyed] at processed
      dsimp only at processed
      cases known : db.paymentFor externalId with
      | some payment =>
          rw [known] at processed
          cases processed
          obtain ⟨row, member, rowKey, named⟩ :=
            (same externalId payment.id).mpr (by rw [known]; rfl)
          have found := (Relation.ReflTransGen.refl (a := state)).tail
            (Step.lookupHit state request row stage member (by rw [rowKey]; exact key))
          have answered := found.tail (Step.commitRepeat _ request row.paymentId
            (by rw [Webhooks.move_phase, if_pos rfl]))
          refine ⟨_, answered, ?_, same, rfl⟩
          rw [Webhooks.move_phase, if_pos rfl, named]
      | none =>
          rw [known] at processed
          dsimp only at processed
          have absent := represents_stores same externalId known
          obtain ⟨accepted, dated⟩ := storable_of_createPayment keyed processed
          obtain ⟨payment, final, created, external, status, payments, applied, _⟩ :=
            createPayment_ok settings keyed accepted dated
          rw [created] at processed
          cases processed
          subst external
          have missed := (Relation.ReflTransGen.refl (a := state)).tail
            (Step.lookupMiss state request payment.externalId stage key absent)
          have inserted := missed.tail (Step.insert _ request payment.externalId payment.id
            (by rw [Webhooks.move_phase, if_pos rfl]) key absent (by
              rintro ⟨other, different, _, holding⟩
              rw [Webhooks.move_phase, if_neg different] at holding
              exact holding (alone other)))
          unfold recorded at applied
          split at applied
          · rename_i both
            have affected := inserted.tail (Step.applyEffects _ request payment.externalId
              payment.id (by rw [Webhooks.move_phase, if_pos rfl]) key (by
                rw [payload]
                exact both.1))
            refine ⟨_, affected.tail (Step.commitAffected _ request payment.externalId payment.id
              (by rw [Webhooks.move_phase, if_pos rfl]) key), ?_,
              represents_commit true same known payments, ?_⟩
            · rw [Webhooks.commit_phase, if_pos rfl]
            · rw [applied]
              simp [Webhooks.commit, Webhooks.move]
              omega
          · refine ⟨_, inserted.tail (Step.commitCreated _ request payment.externalId payment.id
              (by rw [Webhooks.move_phase, if_pos rfl]) key), ?_,
              represents_commit false same known payments, ?_⟩
            · rw [Webhooks.commit_phase, if_pos rfl]
            · rw [applied]
              simp [Webhooks.commit, Webhooks.move]

end VpnSuite.Billing
