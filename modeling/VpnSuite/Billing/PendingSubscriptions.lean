/-
Get-or-create of a subscription, request by request (`create_or_get_subscription` in
`api/v1/bot.py`, `webapp_create_invoice` in `api/v1/webapp.py`).

Both requests lock the user's row, read the clock, look for an active subscription of the
plan, then for a pending one, and insert a pending one when there is neither.  The lock is
held until the commit, so at most one request of the user is between its first look and
its commit.  The web app may activate the subscription before it commits, when the plan is
free.

The system is the requests of one user for one plan.  Rows stand in the order of
`created_at`.  The look for an active subscription has no order, so the database may
return any of the rows; an action names the row it would return first.
-/

import VpnSuite.Billing.PaymentModel
import VpnSuite.Foundations.StepRuns
import VpnSuite.Foundations.ExclusiveWrites
import Mathlib.Data.Fin.VecNotation

set_option autoImplicit false

namespace VpnSuite.Billing

open Foundations

section Queries

variable (userId : Int) (planId : String)

/-! ### The two looks -/

def activeIds (now : Int) (subscriptions : Dict String Subscription) : List String :=
  (subscriptions.entries.filter (fun entry =>
    entry.2.userId = userId ∧ entry.2.planId = planId ∧ entry.2.status = "active" ∧
      entry.2.validUntil > now)).map Prod.fst

def pendingIds (subscriptions : Dict String Subscription) : List String :=
  (subscriptions.entries.filter (fun entry =>
    entry.2.userId = userId ∧ entry.2.planId = planId ∧ entry.2.status = "pending")).map Prod.fst

/-- `limit(1)` without an order. -/
def selectActive (first : String) (now : Int) (subscriptions : Dict String Subscription) :
    Option String :=
  if first ∈ activeIds userId planId now subscriptions then some first
  else (activeIds userId planId now subscriptions).head?

/-- `order_by(created_at.desc()).limit(1)`. -/
def selectPending (subscriptions : Dict String Subscription) : Option String :=
  (pendingIds userId planId subscriptions).getLast?

/-- The row both requests insert: no paid time yet. -/
def pendingSubscription (now : Int) : Subscription := ⟨userId, planId, now, now, "pending"⟩

end Queries

/-! ### Requests -/

inductive RequestKind where
  | bot
  | webapp (priceAmount : Rat) (durationDays : Int) (serverAvailable : Bool)
  deriving DecidableEq, Repr

/-- A request with the id its new row would get. -/
structure SubscriptionRequest where
  kind : RequestKind
  newId : String
  deriving DecidableEq, Repr

def RequestKind.isFree : RequestKind → Bool
  | .bot => false
  | .webapp priceAmount _ _ => decide (priceAmount ≤ 0)

/-- The web app gives up when a paid plan has no server. -/
def RequestKind.refused : RequestKind → Bool
  | .bot => false
  | .webapp priceAmount _ serverAvailable => !serverAvailable && !decide (priceAmount ≤ 0)

/-- A free plan starts at once. -/
def RequestKind.activate (kind : RequestKind) (now : Int) (row : Subscription) : Subscription :=
  match kind with
  | .bot => row
  | .webapp priceAmount durationDays _ =>
      if priceAmount ≤ 0 ∧ row.status ≠ "active" then
        { row with
          status := "active"
          validFrom := now
          validUntil := now + (if durationDays = 0 then 365 else durationDays) * day }
      else row

inductive RequestPhase where
  | waiting
  | locked (now : Int)
  | unmatched (now : Int)
  | chosen (now : Int) (id : String) (active : Bool)
  | inserted (now : Int)
  | done (id : String)
  | closed
  deriving DecidableEq, Repr

/-- The reading of the clock of a request that holds the lock. -/
def RequestPhase.reading : RequestPhase → Option Int
  | .locked now => some now
  | .unmatched now => some now
  | .chosen now _ _ => some now
  | .inserted now => some now
  | _ => none

/-- The existing row a request has decided for. -/
def RequestPhase.answer : RequestPhase → Option String
  | .chosen _ id _ => some id
  | .done id => some id
  | _ => none

structure RequestSystem (n : Nat) where
  subscriptions : Dict String Subscription
  clock : Int
  phases : Fin n → RequestPhase

namespace RequestSystem

variable {n : Nat}

def start (subscriptions : Dict String Subscription) (clock : Int) : RequestSystem n :=
  ⟨subscriptions, clock, fun _ => .waiting⟩

def setPhase (system : RequestSystem n) (i : Fin n) (phase : RequestPhase) : RequestSystem n :=
  { system with phases := Function.update system.phases i phase }

theorem setPhase_self (system : RequestSystem n) (i : Fin n) (phase : RequestPhase) :
    (system.setPhase i phase).phases i = phase := by
  simp only [setPhase, Function.update_self]

theorem setPhase_of_ne (system : RequestSystem n) {i j : Fin n} (phase : RequestPhase)
    (different : j ≠ i) : (system.setPhase i phase).phases j = system.phases j := by
  simp only [setPhase, Function.update_of_ne different]

/-- No other request holds the lock on the user's row. -/
def lockFree (system : RequestSystem n) (i : Fin n) : Bool :=
  decide (∀ j, j ≠ i → (system.phases j).reading = none)

end RequestSystem

/-- `proceed` names the row the database returns first; `wait` lets time pass. -/
inductive RequestAction (n : Nat) where
  | proceed (i : Fin n) (first : String)
  | rollback (i : Fin n)
  | wait (span : Nat)
  deriving DecidableEq, Repr

section System

variable {n : Nat} (userId : Int) (planId : String) (requests : Fin n → SubscriptionRequest)

/-- The rest of a request that has its row: the web app's checks, and the commit. -/
def commitRequest (system : RequestSystem n) (i : Fin n) (now : Int) (id : String)
    (row : Subscription) : RequestSystem n :=
  if (requests i).kind.refused then system.setPhase i .closed
  else
    RequestSystem.setPhase { system with
      subscriptions := system.subscriptions.set id ((requests i).kind.activate now row) }
      i (.done id)

/-- The next statement of a request; one that waits for the lock stays where it is. -/
def proceedRequest (system : RequestSystem n) (i : Fin n) (first : String) : RequestSystem n :=
  match system.phases i with
  | .waiting => if system.lockFree i then system.setPhase i (.locked system.clock) else system
  | .locked now =>
      match selectActive userId planId first now system.subscriptions with
      | some id => system.setPhase i (.chosen now id true)
      | none => system.setPhase i (.unmatched now)
  | .unmatched now =>
      match selectPending userId planId system.subscriptions with
      | some id => system.setPhase i (.chosen now id false)
      | none => system.setPhase i (.inserted now)
  | .chosen now id _ =>
      match system.subscriptions.get? id with
      | none => system.setPhase i .closed
      | some row => commitRequest requests system i now id row
  | .inserted now =>
      if (requests i).newId ∈ system.subscriptions.keys then system.setPhase i .closed
      else commitRequest requests system i now (requests i).newId
        (pendingSubscription userId planId now)
  | .done _ => system
  | .closed => system

def advanceRequest (system : RequestSystem n) : RequestAction n → RequestSystem n
  | .proceed i first => proceedRequest userId planId requests system i first
  | .rollback i =>
      match system.phases i with
      | .done _ => system
      | _ => system.setPhase i .closed
  | .wait span => { system with clock := system.clock + span }

/-! ### Calm stretches -/

/-- The request commits an activation next. -/
def activates (system : RequestSystem n) (i : Fin n) : Bool :=
  match system.phases i with
  | .chosen _ _ active => !active && (requests i).kind.isFree
  | .inserted _ => (requests i).kind.isFree
  | _ => false

/-- The action activates nothing. -/
def activatesNothing (system : RequestSystem n) : RequestAction n → Bool
  | .proceed i _ => !activates requests system i
  | _ => true

/-- No activation, and no active subscription of the plan that runs out. -/
def calm (system : RequestSystem n) : RequestAction n → Bool
  | .proceed i _ => !activates requests system i
  | .rollback _ => true
  | .wait span =>
      (activeIds userId planId system.clock system.subscriptions).all (fun id =>
        id ∈ activeIds userId planId (system.clock + span) system.subscriptions)

end System

/-! ### Rows by id -/

section Lists

variable {userId : Int} {planId : String} {subscriptions : Dict String Subscription}

theorem mem_activeIds {now : Int} {id : String} :
    id ∈ activeIds userId planId now subscriptions ↔
      ∃ row, subscriptions.get? id = some row ∧ row.userId = userId ∧ row.planId = planId ∧
        row.status = "active" ∧ row.validUntil > now := by
  rw [activeIds, Dict.mem_map_filter]
  simp only [decide_eq_true_eq]

theorem mem_pendingIds {id : String} :
    id ∈ pendingIds userId planId subscriptions ↔
      ∃ row, subscriptions.get? id = some row ∧ row.userId = userId ∧ row.planId = planId ∧
        row.status = "pending" := by
  rw [pendingIds, Dict.mem_map_filter]
  simp only [decide_eq_true_eq]

/-- A subscription that is active later was active before. -/
theorem activeIds_later {now later : Int} (passed : now ≤ later) {id : String}
    (active : id ∈ activeIds userId planId later subscriptions) :
    id ∈ activeIds userId planId now subscriptions := by
  obtain ⟨row, found, mine, plan, status, running⟩ := mem_activeIds.mp active
  exact mem_activeIds.mpr ⟨row, found, mine, plan, status, by omega⟩

theorem activeIds_nil_later {now later : Int} (passed : now ≤ later)
    (none_ : activeIds userId planId now subscriptions = []) :
    activeIds userId planId later subscriptions = [] := by
  apply List.eq_nil_iff_forall_not_mem.mpr
  intro id active
  exact absurd (activeIds_later passed active) (none_ ▸ List.not_mem_nil)

theorem selectActive_some {first id : String} {now : Int}
    (selected : selectActive userId planId first now subscriptions = some id) :
    id ∈ activeIds userId planId now subscriptions := by
  unfold selectActive at selected
  split at selected
  · rename_i member
    exact Option.some.inj selected ▸ member
  · exact List.mem_of_head? selected

theorem selectActive_none {first : String} {now : Int}
    (selected : selectActive userId planId first now subscriptions = none) :
    activeIds userId planId now subscriptions = [] := by
  unfold selectActive at selected
  split at selected
  · cases selected
  · exact List.head?_eq_none_iff.mp selected

theorem selectPending_some {id : String}
    (selected : selectPending userId planId subscriptions = some id) :
    id ∈ pendingIds userId planId subscriptions := List.mem_of_getLast? selected

theorem selectPending_none (selected : selectPending userId planId subscriptions = none) :
    pendingIds userId planId subscriptions = [] := List.getLast?_eq_none_iff.mp selected

end Lists

theorem activate_active (kind : RequestKind) (now : Int) {row : Subscription}
    (active : row.status = "active") : kind.activate now row = row := by
  cases kind with
  | bot => rfl
  | webapp priceAmount durationDays serverAvailable => simp [RequestKind.activate, active]

theorem activate_paid {kind : RequestKind} (paid : kind.isFree = false) (now : Int)
    (row : Subscription) : kind.activate now row = row := by
  cases kind with
  | bot => rfl
  | webapp priceAmount durationDays serverAvailable =>
      have positive : ¬ priceAmount ≤ 0 := of_decide_eq_false paid
      simp [RequestKind.activate, positive]

/-- What is pending after the activation was left alone by it. -/
theorem activate_pending {kind : RequestKind} {now : Int} {row : Subscription}
    (pending : (kind.activate now row).status = "pending") : kind.activate now row = row := by
  cases kind with
  | bot => rfl
  | webapp priceAmount durationDays serverAvailable =>
      unfold RequestKind.activate at pending ⊢
      dsimp only at pending ⊢
      split at pending
      · exact absurd pending (by simp)
      · rename_i left
        rw [if_neg left]

/-! ### The invariant -/

section Proofs

variable {n : Nat} (userId : Int) (planId : String) {requests : Fin n → SubscriptionRequest}

/-- What a request that holds the lock knows of the committed rows. -/
def PhaseFacts (subscriptions : Dict String Subscription) (clock : Int) : RequestPhase → Prop
  | .locked now => now ≤ clock
  | .unmatched now => now ≤ clock ∧ activeIds userId planId now subscriptions = []
  | .chosen now id true => now ≤ clock ∧ id ∈ activeIds userId planId now subscriptions
  | .chosen now id false =>
      now ≤ clock ∧ activeIds userId planId now subscriptions = [] ∧
        id ∈ pendingIds userId planId subscriptions
  | .inserted now =>
      now ≤ clock ∧ activeIds userId planId now subscriptions = [] ∧
        pendingIds userId planId subscriptions = []
  | _ => True

/-- Both requests hold the lock. -/
def bothHold (left right : RequestPhase) : Prop := left.reading ≠ none ∧ right.reading ≠ none

structure RequestSound (system : RequestSystem n) : Prop where
  alone : Apart bothHold system.phases
  facts : ∀ i, PhaseFacts userId planId system.subscriptions system.clock (system.phases i)
  once : ∀ left ∈ pendingIds userId planId system.subscriptions,
    ∀ right ∈ pendingIds userId planId system.subscriptions, left = right

variable {userId planId} {system : RequestSystem n}

theorem phaseFacts_released {subscriptions : Dict String Subscription} {clock : Int}
    {phase : RequestPhase} (released : phase.reading = none) :
    PhaseFacts userId planId subscriptions clock phase := by
  cases phase with
  | waiting => trivial
  | done id => trivial
  | closed => trivial
  | locked now => cases released
  | unmatched now => cases released
  | chosen now id active => cases released
  | inserted now => cases released

theorem PhaseFacts.later {subscriptions : Dict String Subscription} {clock later : Int}
    {phase : RequestPhase} (passed : clock ≤ later)
    (facts : PhaseFacts userId planId subscriptions clock phase) :
    PhaseFacts userId planId subscriptions later phase := by
  cases phase with
  | waiting => trivial
  | done id => trivial
  | closed => trivial
  | locked now => exact Int.le_trans facts passed
  | unmatched now => exact ⟨Int.le_trans facts.1 passed, facts.2⟩
  | inserted now => exact ⟨Int.le_trans facts.1 passed, facts.2⟩
  | chosen now id active =>
      cases active with
      | true => exact ⟨Int.le_trans facts.1 passed, facts.2⟩
      | false => exact ⟨Int.le_trans facts.1 passed, facts.2⟩

/-- A request that moves on under its lock, takes the free lock, or gives it up. -/
theorem RequestSound.moved (sound : RequestSound userId planId system) {i : Fin n}
    {phase : RequestPhase}
    (facts : PhaseFacts userId planId system.subscriptions system.clock phase)
    (locks : phase.reading ≠ none → ∀ j, j ≠ i → (system.phases j).reading = none) :
    RequestSound userId planId (system.setPhase i phase) := by
  refine ⟨?_, ?_, sound.once⟩
  · apply sound.alone.update And.symm
    rintro j other ⟨holds, taken⟩
    exact taken (locks holds j other)
  · intro j
    by_cases mine : j = i
    · subst mine
      rw [RequestSystem.setPhase_self]
      exact facts
    · rw [RequestSystem.setPhase_of_ne _ phase mine]
      exact sound.facts j

theorem RequestSound.others (sound : RequestSound userId planId system) {i : Fin n}
    (holds : (system.phases i).reading ≠ none) :
    ∀ j, j ≠ i → (system.phases j).reading = none := by
  intro j other
  by_contra taken
  exact sound.alone (Ne.symm other) ⟨holds, taken⟩

theorem RequestSound.closed (sound : RequestSound userId planId system) (i : Fin n) :
    RequestSound userId planId (system.setPhase i .closed) :=
  sound.moved trivial (fun impossible => absurd rfl impossible)

/-- Only the holder of the lock writes; everybody else knows nothing of the rows. -/
theorem RequestSound.written (sound : RequestSound userId planId system) {i : Fin n}
    (holds : (system.phases i).reading ≠ none) {id : String} {row : Subscription}
    (spares : row.userId = userId → row.planId = planId → row.status = "pending" →
      ∀ other ∈ pendingIds userId planId system.subscriptions, other = id) :
    RequestSound userId planId (RequestSystem.setPhase { system with
      subscriptions := system.subscriptions.set id row } i (.done id)) := by
  have released : ∀ j, ((RequestSystem.setPhase { system with
      subscriptions := system.subscriptions.set id row } i (.done id)).phases j).reading =
        none := by
    intro j
    by_cases mine : j = i
    · subst mine
      rw [RequestSystem.setPhase_self]
      rfl
    · rw [RequestSystem.setPhase_of_ne _ _ mine]
      exact sound.others holds j mine
  have origin : ∀ other,
      other ∈ pendingIds userId planId (system.subscriptions.set id row) →
      other = id ∨ other ∈ pendingIds userId planId system.subscriptions ∧
        (row.userId = userId → row.planId = planId → row.status = "pending" → other = id) := by
    intro other member
    by_cases here : other = id
    · exact Or.inl here
    · obtain ⟨stored, found, facts⟩ := mem_pendingIds.mp member
      rw [Dict.get?_set, if_neg here] at found
      have before := mem_pendingIds.mpr ⟨stored, found, facts⟩
      exact Or.inr ⟨before, fun mine plan pending => spares mine plan pending other before⟩
  have ownPending : id ∈ pendingIds userId planId (system.subscriptions.set id row) →
      row.userId = userId ∧ row.planId = planId ∧ row.status = "pending" := by
    intro member
    obtain ⟨stored, found, facts⟩ := mem_pendingIds.mp member
    rw [Dict.get?_set, if_pos rfl] at found
    exact Option.some.inj found ▸ facts
  refine ⟨?_, fun j => phaseFacts_released (released j), ?_⟩
  · intro left right _ both
    exact both.2 (released right)
  · intro left leftMember right rightMember
    rcases origin left leftMember with rfl | ⟨leftBefore, leftOwn⟩
    · rcases origin right rightMember with rfl | ⟨_, rightOwn⟩
      · rfl
      · obtain ⟨mine, plan, pending⟩ := ownPending leftMember
        exact (rightOwn mine plan pending).symm
    · rcases origin right rightMember with rfl | ⟨rightBefore, _⟩
      · obtain ⟨mine, plan, pending⟩ := ownPending rightMember
        exact leftOwn mine plan pending
      · exact sound.once left leftBefore right rightBefore

theorem RequestSound.committed (sound : RequestSound userId planId system) {i : Fin n}
    (holds : (system.phases i).reading ≠ none) {now : Int} {id : String} {row : Subscription}
    (spares : row.status = "pending" →
      ∀ other ∈ pendingIds userId planId system.subscriptions, other = id) :
    RequestSound userId planId (commitRequest requests system i now id row) := by
  unfold commitRequest
  split
  · exact sound.closed i
  · apply sound.written holds
    intro _ _ pending
    rw [activate_pending pending] at pending
    exact spares pending

theorem RequestSound.step (sound : RequestSound userId planId system) (action : RequestAction n) :
    RequestSound userId planId (advanceRequest userId planId requests system action) := by
  cases action with
  | wait span =>
      have passed : system.clock ≤ system.clock + span := by omega
      exact ⟨sound.alone, fun j => (sound.facts j).later passed, sound.once⟩
  | rollback i =>
      unfold advanceRequest
      dsimp only
      split
      · exact sound
      · exact sound.closed i
  | proceed i first =>
      have facts := sound.facts i
      change RequestSound userId planId (proceedRequest userId planId requests system i first)
      cases was : system.phases i with
      | waiting =>
          simp only [proceedRequest, was]
          split
          · rename_i free
            exact sound.moved (Int.le_refl _) (fun _ => of_decide_eq_true free)
          · exact sound
      | locked now =>
          rw [was] at facts
          have others := sound.others (i := i) (by rw [was]; exact Option.some_ne_none now)
          simp only [proceedRequest, was]
          split
          · rename_i id selected
            exact sound.moved ⟨facts, selectActive_some selected⟩ (fun _ => others)
          · rename_i selected
            exact sound.moved ⟨facts, selectActive_none selected⟩ (fun _ => others)
      | unmatched now =>
          rw [was] at facts
          have others := sound.others (i := i) (by rw [was]; exact Option.some_ne_none now)
          simp only [proceedRequest, was]
          split
          · rename_i id selected
            exact sound.moved ⟨facts.1, facts.2, selectPending_some selected⟩ (fun _ => others)
          · rename_i selected
            exact sound.moved ⟨facts.1, facts.2, selectPending_none selected⟩ (fun _ => others)
      | chosen now id active =>
          rw [was] at facts
          simp only [proceedRequest, was]
          split
          · exact sound.closed i
          · rename_i row found
            apply sound.committed (by rw [was]; exact Option.some_ne_none now)
            intro pending other member
            cases active with
            | true =>
                obtain ⟨stored, there, _, _, status, _⟩ := mem_activeIds.mp facts.2
                obtain rfl := Option.some.inj (there.symm.trans found)
                rw [status] at pending
                exact absurd pending (by decide)
            | false => exact sound.once other member id facts.2.2
      | inserted now =>
          rw [was] at facts
          simp only [proceedRequest, was]
          split
          · exact sound.closed i
          · apply sound.committed (by rw [was]; exact Option.some_ne_none now)
            intro _ other member
            rw [facts.2.2] at member
            cases member
      | done id =>
          simp only [proceedRequest, was]
          exact sound
      | closed =>
          simp only [proceedRequest, was]
          exact sound

theorem requestSound_start {subscriptions : Dict String Subscription} {clock : Int}
    (once : (pendingIds userId planId subscriptions).length ≤ 1) :
    RequestSound userId planId (RequestSystem.start subscriptions clock : RequestSystem n) := by
  refine ⟨?_, fun _ => trivial, (Dict.map_filter_le_one ..).mp once⟩
  intro _ _ _ both
  exact both.1 rfl

/-! ### Answers in a calm stretch -/

variable (userId planId) in
/-- The subscription a request that ran now would decide for. -/
def Answer (system : RequestSystem n) (id : String) : Prop :=
  id ∈ activeIds userId planId system.clock system.subscriptions ∨
    activeIds userId planId system.clock system.subscriptions = [] ∧
      id ∈ pendingIds userId planId system.subscriptions

variable (userId planId) in
/-- What holds in a calm stretch of the requests that came to the lock in it. -/
structure CalmWindow (joined : Fin n → Prop) (system : RequestSystem n) : Prop where
  unique : ∀ left ∈ activeIds userId planId system.clock system.subscriptions,
    ∀ right ∈ activeIds userId planId system.clock system.subscriptions, left = right
  running : ∀ i, joined i → ∀ now, (system.phases i).reading = some now →
    ∀ id ∈ activeIds userId planId now system.subscriptions,
      id ∈ activeIds userId planId system.clock system.subscriptions
  answers : ∀ i, joined i → ∀ id, (system.phases i).answer = some id →
    Answer userId planId system id

variable {joined : Fin n → Prop}

theorem CalmWindow.answer_unique (window : CalmWindow userId planId joined system)
    (sound : RequestSound userId planId system) {left right : String}
    (leftAnswer : Answer userId planId system left)
    (rightAnswer : Answer userId planId system right) : left = right := by
  rcases leftAnswer with leftActive | ⟨nobody, leftPending⟩
  · rcases rightAnswer with rightActive | ⟨nobody, _⟩
    · exact window.unique left leftActive right rightActive
    · rw [nobody] at leftActive
      cases leftActive
  · rcases rightAnswer with rightActive | ⟨_, rightPending⟩
    · rw [nobody] at rightActive
      cases rightActive
    · exact sound.once left leftPending right rightPending

/-- A request that moves on, with the rows as they were. -/
theorem CalmWindow.moved (window : CalmWindow userId planId joined system) {i : Fin n}
    {phase : RequestPhase}
    (running : joined i → ∀ now, phase.reading = some now →
      ∀ id ∈ activeIds userId planId now system.subscriptions,
        id ∈ activeIds userId planId system.clock system.subscriptions)
    (answers : joined i → ∀ id, phase.answer = some id → Answer userId planId system id) :
    CalmWindow userId planId joined (system.setPhase i phase) := by
  refine ⟨window.unique, ?_, ?_⟩
  · intro j member
    by_cases mine : j = i
    · subst mine
      rw [RequestSystem.setPhase_self]
      exact running member
    · rw [RequestSystem.setPhase_of_ne _ phase mine]
      exact window.running j member
  · intro j member
    by_cases mine : j = i
    · subst mine
      rw [RequestSystem.setPhase_self]
      exact answers member
    · rw [RequestSystem.setPhase_of_ne _ phase mine]
      exact window.answers j member

theorem CalmWindow.closed (window : CalmWindow userId planId joined system) (i : Fin n) :
    CalmWindow userId planId joined (system.setPhase i .closed) :=
  window.moved (fun _ _ impossible => by cases impossible)
    (fun _ _ impossible => by cases impossible)

theorem CalmWindow.waited (window : CalmWindow userId planId joined system) {span : Nat}
    (still : calm userId planId requests system (.wait span) = true) :
    CalmWindow userId planId joined { system with clock := system.clock + span } := by
  have passed : system.clock ≤ system.clock + span := by omega
  have stays : ∀ id ∈ activeIds userId planId system.clock system.subscriptions,
      id ∈ activeIds userId planId (system.clock + span) system.subscriptions := by
    simpa only [calm, List.all_eq_true, decide_eq_true_eq] using still
  refine ⟨?_, ?_, ?_⟩
  · intro left leftActive right rightActive
    exact window.unique left (activeIds_later passed leftActive) right
      (activeIds_later passed rightActive)
  · intro i member now holds id active
    exact stays id (window.running i member now holds id active)
  · intro i member id answered
    rcases window.answers i member id answered with active | ⟨nobody, pending⟩
    · exact Or.inl (stays id active)
    · exact Or.inr ⟨activeIds_nil_later passed nobody, pending⟩

/-- The first request of the stretch that finds nothing inserts the common answer. -/
theorem CalmWindow.inserted (sound : RequestSound userId planId system) {i : Fin n} {now : Int}
    (was : system.phases i = .inserted now) {id : String}
    (window : CalmWindow userId planId joined system) :
    CalmWindow userId planId joined (RequestSystem.setPhase { system with
      subscriptions := system.subscriptions.set id (pendingSubscription userId planId now) }
      i (.done id)) := by
  have holds : (system.phases i).reading ≠ none := by
    rw [was]
    exact Option.some_ne_none now
  obtain ⟨passed, nobody, noPending⟩ : PhaseFacts userId planId system.subscriptions
      system.clock (.inserted now) := was ▸ sound.facts i
  have before := activeIds_nil_later passed nobody
  have after : activeIds userId planId system.clock (system.subscriptions.set id
      (pendingSubscription userId planId now)) = [] := by
    apply List.eq_nil_iff_forall_not_mem.mpr
    intro other active
    obtain ⟨row, found, mine, plan, status, running⟩ := mem_activeIds.mp active
    rw [Dict.get?_set] at found
    split at found
    · obtain rfl := Option.some.inj found
      exact absurd status (by simp [pendingSubscription])
    · have wasActive : other ∈ activeIds userId planId system.clock system.subscriptions :=
        mem_activeIds.mpr ⟨row, found, mine, plan, status, running⟩
      rw [before] at wasActive
      cases wasActive
  have listed : id ∈ pendingIds userId planId (system.subscriptions.set id
      (pendingSubscription userId planId now)) :=
    mem_pendingIds.mpr ⟨_, (Dict.get?_set ..).trans (if_pos rfl), rfl, rfl, rfl⟩
  refine ⟨?_, ?_, ?_⟩
  · intro left active
    have listedActive : left ∈ activeIds userId planId system.clock (system.subscriptions.set id
      (pendingSubscription userId planId now)) := active
    rw [after] at listedActive
    cases listedActive
  · intro j member reading holding
    by_cases mine : j = i
    · subst mine
      rw [RequestSystem.setPhase_self] at holding
      cases holding
    · rw [RequestSystem.setPhase_of_ne _ _ mine, sound.others holds j mine] at holding
      cases holding
  · intro j member other answered
    by_cases mine : j = i
    · subst mine
      rw [RequestSystem.setPhase_self] at answered
      obtain rfl := Option.some.inj answered
      exact Or.inr ⟨after, listed⟩
    · rw [RequestSystem.setPhase_of_ne _ _ mine] at answered
      rcases window.answers j member other answered with active | ⟨_, pending⟩
      · rw [before] at active
        cases active
      · rw [noPending] at pending
        cases pending

theorem CalmWindow.step (sound : RequestSound userId planId system)
    (window : CalmWindow userId planId joined system) {action : RequestAction n}
    (still : calm userId planId requests system action = true) :
    CalmWindow userId planId joined (advanceRequest userId planId requests system action) := by
  cases action with
  | wait span => exact window.waited still
  | rollback i =>
      unfold advanceRequest
      dsimp only
      split
      · exact window
      · exact window.closed i
  | proceed i first =>
      have facts := sound.facts i
      have running := window.running i
      have answers := window.answers i
      change CalmWindow userId planId joined
        (proceedRequest userId planId requests system i first)
      cases was : system.phases i with
      | waiting =>
          simp only [proceedRequest, was]
          split
          · refine window.moved ?_ (fun _ _ impossible => by cases impossible)
            intro _ now reading id active
            obtain rfl := Option.some.inj reading
            exact active
          · exact window
      | locked now =>
          rw [was] at running
          simp only [proceedRequest, was]
          split
          · rename_i id selected
            refine window.moved running ?_
            intro member answer chosen
            obtain rfl := Option.some.inj chosen
            exact Or.inl (running member now rfl id (selectActive_some selected))
          · exact window.moved running (fun _ _ impossible => by cases impossible)
      | unmatched now =>
          rw [was] at running facts
          simp only [proceedRequest, was]
          split
          · rename_i id selected
            refine window.moved running ?_
            intro member answer chosen
            obtain rfl := Option.some.inj chosen
            exact Or.inr ⟨activeIds_nil_later facts.1 facts.2, selectPending_some selected⟩
          · exact window.moved running (fun _ _ impossible => by cases impossible)
      | chosen now id active =>
          rw [was] at answers facts
          simp only [proceedRequest, was]
          split
          · exact window.closed i
          · rename_i row found
            have kept : (requests i).kind.activate now row = row := by
              cases active with
              | true =>
                  obtain ⟨stored, there, _, _, status, _⟩ := mem_activeIds.mp facts.2
                  obtain rfl := Option.some.inj (there.symm.trans found)
                  exact activate_active _ now status
              | false =>
                  apply activate_paid
                  simpa [calm, activates, was] using still
            unfold commitRequest
            split
            · exact window.closed i
            · rw [kept, Dict.set_of_get? found]
              exact window.moved (fun _ _ impossible => by cases impossible) answers
      | inserted now =>
          simp only [proceedRequest, was]
          split
          · exact window.closed i
          · have paid : (requests i).kind.isFree = false := by
              simpa [calm, activates, was] using still
            unfold commitRequest
            split
            · exact window.closed i
            · rw [activate_paid paid]
              exact window.inserted sound was
      | done id =>
          simp only [proceedRequest, was]
          exact window
      | closed =>
          simp only [proceedRequest, was]
          exact window

/-! ### Runs -/

theorem requestSound_run (requests : Fin n → SubscriptionRequest)
    {subscriptions : Dict String Subscription} {clock : Int} (actions : List (RequestAction n))
    (once : (pendingIds userId planId subscriptions).length ≤ 1) :
    EveryState (advanceRequest userId planId requests)
      (RequestSystem.start subscriptions clock) actions (RequestSound userId planId) :=
  everyState_of_step (fun _ action sound => sound.step action) (requestSound_start once)

/-- Requests that come to the lock in a calm stretch and end in it have one answer. -/
theorem calm_answers_agree {requests : Fin n → SubscriptionRequest}
    (sound : RequestSound userId planId system) {window : List (RequestAction n)}
    (single : (activeIds userId planId system.clock system.subscriptions).length ≤ 1)
    (still : EveryStep (advanceRequest userId planId requests) system window
      (fun state action => calm userId planId requests state action = true))
    {i j : Fin n} {left right : String} (iWaits : system.phases i = .waiting)
    (jWaits : system.phases j = .waiting)
    (iDone : (window.foldl (advanceRequest userId planId requests) system).phases i = .done left)
    (jDone : (window.foldl (advanceRequest userId planId requests) system).phases j =
      .done right) :
    left = right := by
  have opened : CalmWindow userId planId (fun k => system.phases k = .waiting) system := by
    refine ⟨(Dict.map_filter_le_one ..).mp single, ?_, ?_⟩
    · intro k waits now reading
      rw [waits] at reading
      cases reading
    · intro k waits id answered
      rw [waits] at answered
      cases answered
  have kept := EveryStep.keeps (fun state action
      (held : RequestSound userId planId state ∧
        CalmWindow userId planId (fun k => system.phases k = .waiting) state)
      (here : calm userId planId requests state action = true) =>
    ⟨held.1.step action, CalmWindow.step held.1 held.2 here⟩) ⟨sound, opened⟩ still
  obtain ⟨finalSound, closed⟩ := kept window [] (List.append_nil window).symm
  apply closed.answer_unique finalSound
  · exact closed.answers i iWaits left (by rw [iDone]; rfl)
  · exact closed.answers j jWaits right (by rw [jDone]; rfl)

/-- At most one pending subscription in every committed state; and within a stretch of a
run without an activation or an expiry, at whose start at most one subscription is active,
all requests that take the lock and commit return the same id. -/
theorem one_pending_and_one_answer (userId : Int) (planId : String)
    (requests : Fin n → SubscriptionRequest) (subscriptions : Dict String Subscription)
    (clock : Int) (actions : List (RequestAction n))
    (once : (pendingIds userId planId subscriptions).length ≤ 1) :
    EveryState (advanceRequest userId planId requests)
        (RequestSystem.start subscriptions clock) actions
        (fun system => (pendingIds userId planId system.subscriptions).length ≤ 1) ∧
      ∀ earlier window later, actions = earlier ++ (window ++ later) →
        let opened : RequestSystem n := earlier.foldl (advanceRequest userId planId requests)
          (RequestSystem.start subscriptions clock)
        (activeIds userId planId opened.clock opened.subscriptions).length ≤ 1 →
        EveryStep (advanceRequest userId planId requests) opened window
          (fun state action => calm userId planId requests state action = true) →
        ∀ i j left right, opened.phases i = .waiting → opened.phases j = .waiting →
          (window.foldl (advanceRequest userId planId requests) opened).phases i = .done left →
          (window.foldl (advanceRequest userId planId requests) opened).phases j =
            .done right →
          left = right := by
  have sound : EveryState (advanceRequest userId planId requests)
      (RequestSystem.start subscriptions clock) actions (RequestSound userId planId) :=
    requestSound_run requests actions once
  constructor
  · exact sound.imp (fun held => (Dict.map_filter_le_one ..).mpr held.once)
  · intro earlier window later split opened single still i j left right iWaits jWaits
      iDone jDone
    exact calm_answers_agree (sound earlier (window ++ later) split) single still iWaits jWaits
      iDone jDone

/-! ### Runs of two requests -/

def twoBots : Fin 2 → SubscriptionRequest := ![⟨.bot, "new-0"⟩, ⟨.bot, "new-1"⟩]

/-- A request that meets the given row and runs to its end. -/
def runsThrough (i : Fin 2) (first : String) : List (RequestAction 2) :=
  List.replicate 5 (.proceed i first)

/-- Without any activation, two bot requests get different ids when the active
subscription runs out between them, and when two are active. -/
theorem bot_answers_differ :
    let running : Dict String Subscription := Dict.ofList [("old", ⟨1, "month", 0, 10, "active"⟩)]
    let twice : Dict String Subscription := Dict.ofList
      [("a", ⟨1, "month", 0, 100, "active"⟩), ("b", ⟨1, "month", 0, 100, "active"⟩)]
    let expiring := runsThrough 0 "" ++ [.wait 20] ++ runsThrough 1 ""
    let undecided := runsThrough 0 "a" ++ runsThrough 1 "b"
    let step := advanceRequest 1 "month" twoBots
    (stepsAll step (activatesNothing twoBots) (RequestSystem.start running 5) expiring = true ∧
        (expiring.foldl step (RequestSystem.start running 5)).phases 0 = .done "old" ∧
        (expiring.foldl step (RequestSystem.start running 5)).phases 1 = .done "new-1") ∧
      stepsAll step (activatesNothing twoBots) (RequestSystem.start twice 5) undecided = true ∧
        (undecided.foldl step (RequestSystem.start twice 5)).phases 0 = .done "a" ∧
        (undecided.foldl step (RequestSystem.start twice 5)).phases 1 = .done "b" := by
  decide +kernel

/-- Two bots that come to the lock together. -/
def contendedRun : List (RequestAction 2) :=
  [.proceed 0 "", .proceed 1 "", .proceed 0 "", .proceed 1 ""] ++ runsThrough 0 "" ++
    runsThrough 1 ""

/-- With nothing stored the second gets the row of the first. -/
theorem second_bot_gets_first_row :
    EveryState (advanceRequest 1 "month" twoBots) (RequestSystem.start Dict.empty 5) contendedRun
        (fun system => (pendingIds 1 "month" system.subscriptions).length ≤ 1) ∧
      ∀ answer, (contendedRun.foldl (advanceRequest 1 "month" twoBots)
          (RequestSystem.start Dict.empty 5)).phases 1 = .done answer → answer = "new-0" := by
  obtain ⟨once, agree⟩ :=
    one_pending_and_one_answer 1 "month" twoBots Dict.empty 5 contendedRun (by decide)
  have single : (activeIds 1 "month" 5 (Dict.empty : Dict String Subscription)).length ≤ 1 := by
    decide
  have still : EveryStep (advanceRequest 1 "month" twoBots) (RequestSystem.start Dict.empty 5)
      contendedRun (fun state action => calm 1 "month" twoBots state action = true) :=
    everyStep_iff_stepsAll.mpr (by decide +kernel)
  have first : (contendedRun.foldl (advanceRequest 1 "month" twoBots)
      (RequestSystem.start Dict.empty 5)).phases 0 = .done "new-0" := by decide +kernel
  refine ⟨once, ?_⟩
  intro answer second
  exact (agree [] contendedRun [] (List.append_nil contendedRun).symm single still 0 1 "new-0"
    answer rfl rfl first second).symm

end Proofs

end VpnSuite.Billing
