/-
Issue transactions side by side, at READ COMMITTED.

A transaction locks its subscription row, counts the live devices, reads the used
addresses, inserts its device and commits; each read sees the committed table of its own
moment.  The lock is held until the first commit or rollback.  Revocations run in
between.  `admin_issue_peer` commits its row first and writes the outcome of the node
calls afterwards.

The lock covers the count, so the limit holds in every interleaving.  It does not cover
the addresses, which all subscriptions share.
-/

import VpnSuite.Fleet.FleetInvariants
import VpnSuite.Foundations.ExclusiveWrites
import Mathlib.Data.Fin.VecNotation

set_option autoImplicit false

namespace VpnSuite.Fleet

open Foundations
open Foundations.PythonText

/-! ### Transactions -/

inductive IssueTask where
  | issue (request : IssueRequest)
  | admin (request : AdminIssueRequest)
  deriving DecidableEq, Repr

def IssueTask.inputs : IssueTask → IssueInputs
  | .issue request => request.inputs
  | .admin request => request.inputs

def IssueTask.serverId : IssueTask → Option String
  | .issue request => request.serverId
  | .admin request => some request.serverId

/-- The user and the subscription row a transaction locks. -/
def lockTarget (task : IssueTask) (db : FleetDb) : Except IssueError (Int × String) :=
  match task with
  | .issue request => do
      require (db.billing.users.any (fun user => user.id = request.userId)) .userNotFound
      require (request.userId ∉ db.banned) .userBanned
      require (validSubscription request.inputs.now request.userId request.subscriptionId db).isSome
        .subscriptionInvalid
      .ok (request.userId, request.subscriptionId)
  | .admin request => do
      let server ← findServer request.serverId db
      require (!server.isDraining) .serverDraining
      require request.inputs.keyVerified .serverNotSynced
      adminOwner request db

/-- The server a transaction allocates from, and the address it gets. -/
def taskAddress (task : IssueTask) (db : FleetDb) : Except IssueError String := do
  let serverId ← task.serverId.elim (.error .serverRequired) .ok
  let server ← findServer serverId db
  require task.inputs.keyVerified .serverNotSynced
  takeAddress server db

/-- The subnet base a transaction allocates from. -/
def taskBase (task : IssueTask) (db : FleetDb) : Option String :=
  (task.serverId.bind db.servers.get?).map (fun server => (subnetOf server.requestParams).1)

/-- The row a transaction inserts, with the status it has when it is committed. -/
def taskDevice (task : IssueTask) (owner : Int × String) (allowedIps : String)
    (applyStatus : ApplyStatus) : Device :=
  newDevice owner.1 owner.2 (task.serverId.getD "") task.inputs allowedIps applyStatus

theorem taskDevice_owner (task : IssueTask) (owner : Int × String) (allowedIps : String)
    (applyStatus : ApplyStatus) :
    (taskDevice task owner allowedIps applyStatus).subscriptionId = owner.2 := rfl

/-- The status under which the row is first committed, if it is. -/
def commitStatus (settings : FleetSettings) (task : IssueTask) : Except IssueError ApplyStatus := do
  require task.inputs.configValid .configInvalid
  match task with
  | .issue request => issuedStatus settings request.inputs.peerApplied
  | .admin _ => .ok (if settings.appliesPeers then .created else .pendingApply)

/-- What `admin_issue_peer` writes after its first commit. -/
def followUp (settings : FleetSettings) (task : IssueTask) (db : FleetDb) : FleetDb :=
  match task with
  | .issue _ => db
  | .admin request =>
      match db.devices.get? request.inputs.deviceId with
      | none => db
      | some device =>
          db.setDevice request.inputs.deviceId
            { device with
              applyStatus := adminIssuedStatus settings request.inputs.peerApplied }

/-! ### Interleavings -/

inductive IssuePhase where
  | waiting
  | locked (owner : Int × String)
  | counted (owner : Int × String)
  | allocated (owner : Int × String) (allowedIps : String)
  | inserted (owner : Int × String) (allowedIps : String)
  | committed
  | closed
  deriving DecidableEq, Repr

/-- The subscription row a transaction holds. -/
def IssuePhase.held : IssuePhase → Option String
  | .locked owner => some owner.2
  | .counted owner => some owner.2
  | .allocated owner _ => some owner.2
  | .inserted owner _ => some owner.2
  | _ => none

/-- The subscription in which a transaction has found a free slot. -/
def IssuePhase.slot : IssuePhase → Option String
  | .counted owner => some owner.2
  | .allocated owner _ => some owner.2
  | .inserted owner _ => some owner.2
  | _ => none

/-- The address a transaction has read as free and not committed yet. -/
def IssuePhase.address : IssuePhase → Option String
  | .allocated _ allowedIps => some allowedIps
  | .inserted _ allowedIps => some allowedIps
  | _ => none

structure IssueSystem (n : Nat) where
  db : FleetDb
  phases : Fin n → IssuePhase

namespace IssueSystem

variable {n : Nat}

def start (db : FleetDb) : IssueSystem n := ⟨db, fun _ => .waiting⟩

def setPhase (system : IssueSystem n) (i : Fin n) (phase : IssuePhase) : IssueSystem n :=
  { system with phases := Function.update system.phases i phase }

theorem setPhase_self (system : IssueSystem n) (i : Fin n) (phase : IssuePhase) :
    (system.setPhase i phase).phases i = phase := by
  simp only [setPhase, Function.update_self]

theorem setPhase_of_ne (system : IssueSystem n) {i j : Fin n} (phase : IssuePhase)
    (different : j ≠ i) : (system.setPhase i phase).phases j = system.phases j := by
  simp only [setPhase, Function.update_of_ne different]

/-- No other transaction holds the row. -/
def lockFree (system : IssueSystem n) (i : Fin n) (subscriptionId : String) : Bool :=
  decide (∀ j, j ≠ i → (system.phases j).held ≠ some subscriptionId)

end IssueSystem

inductive IssueAction (n : Nat) where
  | proceed (i : Fin n)
  | rollback (i : Fin n)
  | revoke (id : String) (confirmed : Bool) (now : Int)
  | expiryCheck (now : Int)
  | delete (id : String) (confirmed : Bool)
  deriving DecidableEq, Repr

section System

variable {n : Nat} (settings : FleetSettings) (tasks : Fin n → IssueTask)

/-- The next statement of a transaction; one that waits for a lock stays where it is. -/
def proceed (system : IssueSystem n) (i : Fin n) : IssueSystem n :=
  match system.phases i with
  | .waiting =>
      match lockTarget (tasks i) system.db with
      | .error _ => system.setPhase i .closed
      | .ok owner =>
          if system.lockFree i owner.2 then system.setPhase i (.locked owner) else system
  | .locked owner =>
      match checkDeviceLimit owner.2 system.db with
      | .error _ => system.setPhase i .closed
      | .ok _ => system.setPhase i (.counted owner)
  | .counted owner =>
      match taskAddress (tasks i) system.db with
      | .error _ => system.setPhase i .closed
      | .ok allowedIps => system.setPhase i (.allocated owner allowedIps)
  | .allocated owner allowedIps => system.setPhase i (.inserted owner allowedIps)
  | .inserted owner allowedIps =>
      match commitStatus settings (tasks i) with
      | .error _ => system.setPhase i .closed
      | .ok applyStatus =>
          if (tasks i).inputs.deviceId ∈ system.db.devices.keys then system.setPhase i .closed
          else
            IssueSystem.setPhase { system with
                db := system.db.setDevice (tasks i).inputs.deviceId
                  (taskDevice (tasks i) owner allowedIps applyStatus) } i .committed
  | .committed =>
      IssueSystem.setPhase { system with db := followUp settings (tasks i) system.db } i .closed
  | .closed => system

def advance (system : IssueSystem n) : IssueAction n → IssueSystem n
  | .proceed i => proceed settings tasks system i
  | .rollback i => system.setPhase i .closed
  | .revoke id confirmed now => { system with db := revokeDevice id confirmed now system.db }
  | .expiryCheck now => { system with db := runDeviceExpiryCheck now system.db }
  | .delete id confirmed => { system with db := deleteDevice id confirmed system.db }

/-! ### What one action can do -/

inductive Advanced (system : IssueSystem n) (action : IssueAction n) : IssueSystem n → Prop where
  | idle : Advanced system action system
  | closed (i : Fin n) : Advanced system action (system.setPhase i .closed)
  | locked (i : Fin n) (owner : Int × String) (was : system.phases i = .waiting)
      (free : system.lockFree i owner.2 = true) :
      Advanced system action (system.setPhase i (.locked owner))
  | counted (i : Fin n) (owner : Int × String) (was : system.phases i = .locked owner)
      (room : (liveIds owner.2 system.db.devices).length < system.db.deviceLimit owner.2) :
      Advanced system action (system.setPhase i (.counted owner))
  | allocated (i : Fin n) (owner : Int × String) (allowedIps : String)
      (acted : action = .proceed i) (was : system.phases i = .counted owner)
      (taken : taskAddress (tasks i) system.db = .ok allowedIps) :
      Advanced system action (system.setPhase i (.allocated owner allowedIps))
  | inserted (i : Fin n) (owner : Int × String) (allowedIps : String)
      (was : system.phases i = .allocated owner allowedIps) :
      Advanced system action (system.setPhase i (.inserted owner allowedIps))
  | committed (i : Fin n) (owner : Int × String) (allowedIps : String)
      (applyStatus : ApplyStatus) (was : system.phases i = .inserted owner allowedIps)
      (fresh : (tasks i).inputs.deviceId ∉ system.db.devices.keys) :
      Advanced system action (IssueSystem.setPhase { system with
        db := system.db.setDevice (tasks i).inputs.deviceId
          (taskDevice (tasks i) owner allowedIps applyStatus) } i .committed)
  | followed (i : Fin n) (devices : Dict String Device) (was : system.phases i = .committed)
      (shrinks : Shrinks system.db.devices devices) :
      Advanced system action (IssueSystem.setPhase { system with
        db := { system.db with devices := devices } } i .closed)
  | shrunk (devices : Dict String Device) (shrinks : Shrinks system.db.devices devices) :
      Advanced system action { system with db := { system.db with devices := devices } }

theorem followUp_shrinks (task : IssueTask) (db : FleetDb) :
    ∃ devices, followUp settings task db = { db with devices := devices } ∧
      Shrinks db.devices devices := by
  cases task with
  | issue request => exact ⟨db.devices, rfl, Shrinks.refl db.devices⟩
  | admin request =>
      unfold followUp
      dsimp only
      split
      · exact ⟨db.devices, rfl, Shrinks.refl db.devices⟩
      · rename_i device found
        exact ⟨_, rfl, shrinks_set found rfl rfl id⟩

theorem proceed_advanced (system : IssueSystem n) (i : Fin n) :
    Advanced tasks system (.proceed i) (proceed settings tasks system i) := by
  unfold proceed
  split
  · rename_i was
    split
    · exact .closed i
    · rename_i owner target
      split
      · rename_i free
        exact .locked i owner was free
      · exact .idle
  · rename_i owner was
    split
    · exact .closed i
    · rename_i done limited
      exact .counted i owner was (of_decide_eq_true (require_ok.mp limited))
  · rename_i owner was
    split
    · exact .closed i
    · rename_i allowedIps taken
      exact .allocated i owner allowedIps rfl was taken
  · rename_i owner allowedIps was
    exact .inserted i owner allowedIps was
  · rename_i owner allowedIps was
    split
    · exact .closed i
    · rename_i applyStatus accepted
      split
      · exact .closed i
      · rename_i fresh
        exact .committed i owner allowedIps applyStatus was fresh
  · rename_i was
    obtain ⟨devices, written, shrinks⟩ := followUp_shrinks settings (tasks i) system.db
    rw [written]
    exact .followed i devices was shrinks
  · exact .idle

theorem advanced_of_shrinks {system : IssueSystem n} {action : IssueAction n} {after : FleetDb}
    (shrinks : OnlyShrinks system.db after) :
    Advanced tasks system action { system with db := after } := by
  obtain ⟨devices, rfl, fewer, _⟩ := shrinks
  exact .shrunk devices fewer

theorem advance_advanced (system : IssueSystem n) (action : IssueAction n) :
    Advanced tasks system action (advance settings tasks system action) := by
  cases action with
  | proceed i => exact proceed_advanced settings tasks system i
  | rollback i => exact .closed i
  | revoke id confirmed now =>
      exact advanced_of_shrinks tasks (revokeDevice_shrinks id confirmed now system.db)
  | expiryCheck now => exact advanced_of_shrinks tasks (expiryCheck_shrinks now system.db)
  | delete id confirmed => exact advanced_of_shrinks tasks (deleteDevice_shrinks id confirmed system.db)

variable {settings tasks}

theorem Advanced.steady {system after : IssueSystem n} {action : IssueAction n}
    (advanced : Advanced tasks system action after) :
    after.db.deviceLimit = system.db.deviceLimit ∧ after.db.servers = system.db.servers := by
  cases advanced <;> exact ⟨rfl, rfl⟩

/-! ### The lock -/

/-- Both transactions hold the same row. -/
def sharesLock (left right : IssuePhase) : Prop :=
  ∃ subscriptionId, left.held = some subscriptionId ∧ right.held = some subscriptionId

theorem sharesLock_symmetric {left right : IssuePhase} :
    sharesLock left right → sharesLock right left :=
  fun ⟨subscriptionId, first, second⟩ => ⟨subscriptionId, second, first⟩

theorem not_sharesLock_released {phase other : IssuePhase} (released : phase.held = none) :
    ¬ sharesLock phase other := by
  rintro ⟨subscriptionId, held, _⟩
  rw [released] at held
  cases held

/-- A transaction keeps its lock until it commits or rolls back, and takes a free one. -/
theorem locks_apart_step {system after : IssueSystem n} {action : IssueAction n}
    (apart : Apart sharesLock system.phases) (advanced : Advanced tasks system action after) :
    Apart sharesLock after.phases := by
  have releases : ∀ (i : Fin n) (phase : IssuePhase), phase.held = none →
      Apart sharesLock (Function.update system.phases i phase) := by
    intro i phase released
    apply apart.update_weaker sharesLock_symmetric
    exact fun other shared => absurd shared (not_sharesLock_released released)
  have keeps : ∀ (i : Fin n) (phase : IssuePhase), phase.held = (system.phases i).held →
      Apart sharesLock (Function.update system.phases i phase) := by
    intro i phase same
    apply apart.update_weaker sharesLock_symmetric
    rintro other ⟨subscriptionId, held, shared⟩
    exact ⟨subscriptionId, same ▸ held, shared⟩
  cases advanced with
  | idle => exact apart
  | closed i => exact releases i .closed rfl
  | locked i owner was free =>
      apply apart.update sharesLock_symmetric
      rintro other different ⟨subscriptionId, held, shared⟩
      obtain rfl := Option.some.inj held
      exact of_decide_eq_true free other different shared
  | counted i owner was room => exact keeps i (.counted owner) (by rw [was]; rfl)
  | allocated i owner allowedIps acted was taken =>
      exact keeps i (.allocated owner allowedIps) (by rw [was]; rfl)
  | inserted i owner allowedIps was =>
      exact keeps i (.inserted owner allowedIps) (by rw [was]; rfl)
  | committed i owner allowedIps applyStatus was fresh => exact releases i .committed rfl
  | followed i devices was shrinks => exact releases i .closed rfl
  | shrunk devices shrinks => exact apart

theorem locks_apart_start (db : FleetDb) :
    Apart sharesLock (IssueSystem.start db : IssueSystem n).phases :=
  fun _ _ _ => not_sharesLock_released rfl

/-! ### Transactions as a ledger -/

section Ledger

variable {τ ω : Type} (table : Dict String Device → τ) (want : IssuePhase → Option ω)

/-- What the transactions want of a view of the committed table. -/
def IssueSystem.ledger (system : IssueSystem n) : Ledger (Fin n) τ ω :=
  { table := table system.db.devices
    intent := fun i => want (system.phases i) }

variable {table want}

theorem ledger_moves {system : IssueSystem n} {db : FleetDb} {i : Fin n} {phase : IssuePhase} :
    (system.ledger table want).Moves i
      ((IssueSystem.setPhase { system with db := db } i phase).ledger table want) := by
  intro other different
  exact congrArg want (IssueSystem.setPhase_of_ne _ phase different)

theorem ledger_intent {system : IssueSystem n} {i : Fin n} {phase : IssuePhase} :
    ((system.setPhase i phase).ledger table want).intent i = want phase :=
  congrArg want (IssueSystem.setPhase_self system i phase)

/-- A transaction that neither gains nor loses an intent, next to a harmless change. -/
theorem ledger_steps {rules : WriteRules τ ω} {system : IssueSystem n} {db : FleetDb} {i : Fin n}
    {phase : IssuePhase} (same : want phase = want (system.phases i))
    (harmless : rules.Harmless (table system.db.devices) (table db.devices)) :
    LedgerStep rules (system.ledger table want)
      ((IssueSystem.setPhase { system with db := db } i phase).ledger table want) := by
  refine .ambient ?_ harmless
  funext j
  by_cases mine : j = i
  · rw [mine, ledger_intent]
    exact same
  · exact ledger_moves j mine

end Ledger

/-! ### The device limit -/

/-- Slots of a subscription: one request at a time. -/
def slotRules (limit : Int) : WriteRules Nat Unit :=
  { fits := fun count _ => count < limit
    writes := fun count _ after => after = count + 1
    conflicts := fun _ _ => True
    safe := fun count => count ≤ limit }

theorem slotRules_sound (limit : Int) : (slotRules limit).Sound := by
  refine ⟨fun _ => trivial, ?_, fun _ _ clash => absurd trivial clash⟩
  intro before after intent safe fits written
  simp only [slotRules] at fits written ⊢
  omega

theorem slotRules_harmless {limit : Int} {before after : Nat} (fewer : after ≤ before) :
    (slotRules limit).Harmless before after := by
  constructor
  · intro safe
    simp only [slotRules] at safe ⊢
    omega
  · intro intent fits
    simp only [slotRules] at fits ⊢
    omega

def countOf (subscriptionId : String) (devices : Dict String Device) : Nat :=
  (liveIds subscriptionId devices).length

def slotIn (subscriptionId : String) (phase : IssuePhase) : Option Unit :=
  if phase.slot = some subscriptionId then some () else none

theorem held_of_slotIn {subscriptionId : String} {phase : IssuePhase} {slot : Unit}
    (wanted : slotIn subscriptionId phase = some slot) : phase.held = some subscriptionId := by
  unfold slotIn at wanted
  split at wanted
  · rename_i found
    cases phase with
    | counted owner => exact found
    | allocated owner allowedIps => exact found
    | inserted owner allowedIps => exact found
    | waiting => cases found
    | locked owner => cases found
    | committed => cases found
    | closed => cases found
  · cases wanted

/-- For one subscription every action is a step of the ledger of its slots: whoever has
counted holds the lock. -/
theorem Advanced.slots {system after : IssueSystem n} {action : IssueAction n}
    (advanced : Advanced tasks system action after)
    (apart : Apart sharesLock system.phases) (subscriptionId : String) :
    LedgerStep (slotRules (system.db.deviceLimit subscriptionId))
      (system.ledger (countOf subscriptionId) (slotIn subscriptionId))
      (after.ledger (countOf subscriptionId) (slotIn subscriptionId)) := by
  cases advanced with
  | idle => exact .ambient rfl (.refl _ _)
  | closed i => exact .drop i ledger_moves rfl ledger_intent
  | locked i owner was free => exact .drop i ledger_moves rfl ledger_intent
  | counted i owner was room =>
      by_cases mine : owner.2 = subscriptionId
      · subst mine
        refine .reserve i () ledger_moves rfl ?_ room ?_
        · rw [ledger_intent]
          exact if_pos rfl
        · intro other slot different wanted
          have held : (system.phases i).held = some owner.2 := by rw [was]; rfl
          exact absurd ⟨owner.2, held, held_of_slotIn wanted⟩ (apart (Ne.symm different))
      · refine .drop i ledger_moves rfl ?_
        rw [ledger_intent]
        exact if_neg (fun same => mine (Option.some.inj same))
  | allocated i owner allowedIps acted was taken =>
      exact ledger_steps (by rw [was]; rfl) (.refl _ _)
  | inserted i owner allowedIps was => exact ledger_steps (by rw [was]; rfl) (.refl _ _)
  | committed i owner allowedIps applyStatus was fresh =>
      have notLive : ∀ other, ¬ LiveIn system.db.devices (tasks i).inputs.deviceId other :=
        fun other live => fresh (Dict.mem_keys_of_get? live.1)
      have counted := @length_liveIds_set system.db.devices (tasks i).inputs.deviceId
        (taskDevice (tasks i) owner allowedIps applyStatus) notLive rfl subscriptionId
      rw [taskDevice_owner] at counted
      by_cases mine : owner.2 = subscriptionId
      · refine .commit i () ledger_moves ?_ ledger_intent ?_
        · change slotIn subscriptionId (system.phases i) = some ()
          rw [was]
          exact if_pos (congrArg some mine)
        · rw [if_pos mine] at counted
          exact counted
      · refine .drop i ledger_moves ?_ ledger_intent
        rw [if_neg mine] at counted
        exact counted
  | followed i devices was shrinks =>
      exact ledger_steps (by rw [was]; rfl) (slotRules_harmless (shrinks.length_le subscriptionId))
  | shrunk devices shrinks =>
      exact .ambient rfl (slotRules_harmless (shrinks.length_le subscriptionId))

/-- The invariant behind the limit. -/
structure SlotsReserved (limit : Int) (subscriptionId : String) (system : IssueSystem n) : Prop where
  apart : Apart sharesLock system.phases
  fixed : system.db.deviceLimit subscriptionId = limit
  reserved : Reserved (slotRules limit)
    (system.ledger (countOf subscriptionId) (slotIn subscriptionId))

theorem SlotsReserved.step {limit : Int} {subscriptionId : String} {system after : IssueSystem n}
    {action : IssueAction n} (holds : SlotsReserved limit subscriptionId system)
    (advanced : Advanced tasks system action after) :
    SlotsReserved limit subscriptionId after := by
  refine ⟨locks_apart_step holds.apart advanced, ?_, ?_⟩
  · rw [advanced.steady.1, holds.fixed]
  · have step := advanced.slots holds.apart subscriptionId
    rw [holds.fixed] at step
    exact holds.reserved.step (slotRules_sound limit) step

theorem slotsReserved_start {db : FleetDb} {subscriptionId : String}
    (within : (liveIds subscriptionId db.devices).length ≤ db.deviceLimit subscriptionId) :
    SlotsReserved (db.deviceLimit subscriptionId) subscriptionId
      (IssueSystem.start db : IssueSystem n) := by
  refine ⟨locks_apart_start db, rfl, within, ?_, ?_⟩
  · intro i slot wanted
    cases wanted
  · intro left right first second different wanted
    cases wanted

/-- Whatever the interleaving, no committed state exceeds the limit. -/
theorem limit_holds_in_every_interleaving (settings : FleetSettings) (tasks : Fin n → IssueTask)
    (db : FleetDb) (subscriptionId : String) (actions : List (IssueAction n))
    (within : (liveIds subscriptionId db.devices).length ≤ db.deviceLimit subscriptionId) :
    EveryState (advance settings tasks) (IssueSystem.start db) actions (fun system =>
      (liveIds subscriptionId system.db.devices).length ≤ db.deviceLimit subscriptionId) := by
  have kept : EveryState (advance settings tasks) (IssueSystem.start db) actions
      (SlotsReserved (db.deviceLimit subscriptionId) subscriptionId) :=
    everyState_of_step (fun system action holds =>
        holds.step (advance_advanced settings tasks system action))
      (slotsReserved_start within)
  exact kept.imp (fun holds => holds.reserved.safe)

/-- Two subscribers with two slots each, and one server. -/
def twoSubscribers : FleetDb :=
  { smallFleet with
    billing := { smallFleet.billing with
      users := [⟨1, 101⟩, ⟨2, 102⟩]
      subscriptions := Dict.ofList [("sub", ⟨1, "month", 0, 100, "active"⟩),
        ("sub-2", ⟨2, "month", 0, 100, "active"⟩)] } }

/-- A request for a device named after its key. -/
def requestFor (userId : Int) (subscriptionId deviceId : String) : IssueTask :=
  .issue
    { userId := userId
      subscriptionId := subscriptionId
      serverId := some "node-1"
      inputs := ⟨none, deviceId, deviceId, none, 10, true, true, true⟩ }

def issueTurns {n : Nat} (order : List (Fin n)) : List (IssueAction n) := order.map .proceed

/-- Three requests for the last two slots: the third waits, then finds none left. -/
theorem third_request_finds_no_slot :
    let tasks := ![requestFor 1 "sub" "a", requestFor 1 "sub" "b", requestFor 1 "sub" "c"]
    let actions := issueTurns [0, 1, 2, 0, 0, 1, 0, 0, 2, 1, 2, 2, 2, 2, 2, 1, 1]
    ((liveIds "sub" (actions.foldl (advance dockerSettings tasks)
      (IssueSystem.start smallFleet)).db.devices) = ["a", "c"]) ∧
    EveryState (advance dockerSettings tasks) (IssueSystem.start smallFleet) actions
      (fun system => (liveIds "sub" system.db.devices).length ≤ (2 : Int)) := by
  intro tasks actions
  refine ⟨by decide +kernel, ?_⟩
  exact limit_holds_in_every_interleaving dockerSettings tasks smallFleet "sub" actions
    (by decide +kernel)

/-! ### Addresses -/

/-- Addresses: a new live row needs one that no live row has. -/
def addressRules : WriteRules (Dict String Device) String :=
  { fits := fun devices allowedIps => allowedIps ∉ liveIps devices
    writes := fun devices allowedIps after => ∃ id device,
      (∀ other, ¬ LiveIn devices id other) ∧ device.revokedAt = none ∧
        device.allowedIps = some allowedIps ∧ after = devices.set id device
    conflicts := fun left right => left = right
    safe := DistinctAddresses }

theorem addressRules_sound : addressRules.Sound := by
  refine ⟨Eq.symm, ?_, ?_⟩
  · rintro devices after allowedIps safe fits ⟨id, device, notLive, live, addressed, rfl⟩
    apply (distinct_set_iff notLive live safe).mpr
    intro other stored storedLive same
    exact fits (mem_liveIps.mpr ⟨other, stored, storedLive, same.trans addressed⟩)
  · rintro devices after allowedIps other fits otherFits apart
      ⟨id, device, notLive, live, addressed, rfl⟩ used
    obtain ⟨key, stored, storedLive, holds⟩ := mem_liveIps.mp used
    rcases (liveIn_set live).mp storedLive with ⟨_, rfl⟩ | ⟨_, wasLive⟩
    · exact apart (Option.some.inj (holds.symm.trans addressed))
    · exact fits (mem_liveIps.mpr ⟨key, stored, wasLive, holds⟩)

theorem addressRules_harmless {before after : Dict String Device} (shrinks : Shrinks before after) :
    addressRules.Harmless before after := by
  constructor
  · exact shrinks.distinct
  · intro allowedIps fits used
    obtain ⟨id, device, live, addressed⟩ := mem_liveIps.mp used
    obtain ⟨earlier, wasLive, _, sameAddress⟩ := shrinks id device live
    exact fits (mem_liveIps.mpr ⟨id, earlier, wasLive, sameAddress.trans addressed⟩)

/-- The address came from the subnet the transaction allocates from. -/
def FromBase (task : IssueTask) (db : FleetDb) (allowedIps : String) : Prop :=
  ∃ base host, taskBase task db = some base ∧ host ∈ hosts ∧ allowedIps = hostAddress base host

theorem taskAddress_ok {task : IssueTask} {db : FleetDb} {allowedIps : String}
    (taken : taskAddress task db = .ok allowedIps) :
    ∃ serverId server address, task.serverId = some serverId ∧
      db.servers.get? serverId = some server ∧
      taskBase task db = some (subnetOf server.requestParams).1 ∧
      allocateAddressForDevice server.requestParams (liveIps db.devices) =
        some (address, allowedIps) := by
  unfold taskAddress at taken
  obtain ⟨serverId, chosen, taken⟩ := bind_eq_ok.mp taken
  obtain ⟨server, served, taken⟩ := bind_eq_ok.mp taken
  obtain ⟨_, _, taken⟩ := bind_eq_ok.mp taken
  obtain ⟨address, given⟩ := takeAddress_ok taken
  have found := findServer_ok served
  refine ⟨serverId, server, address, elim_ok.mp chosen, found, ?_, given⟩
  rw [taskBase, elim_ok.mp chosen, Option.bind_some, found, Option.map_some]

theorem fromBase_of_taskAddress {task : IssueTask} {db : FleetDb} {allowedIps : String}
    (taken : taskAddress task db = .ok allowedIps) : FromBase task db allowedIps := by
  obtain ⟨_, server, address, _, _, based, given⟩ := taskAddress_ok taken
  obtain ⟨found, next, pair⟩ := Option.map_eq_some_iff.mp given
  obtain rfl : found = allowedIps := (Prod.mk.inj pair).2
  obtain ⟨host, free, rfl⟩ := Option.map_eq_some_iff.mp next
  exact ⟨_, host, based, List.mem_of_find?_eq_some free, rfl⟩

variable (tasks) in
/-- Allocation is safe at this moment: the base of the subnet is numeric, and no other
transaction has an uncommitted address of the same base. -/
def allocationAlone (system : IssueSystem n) (i : Fin n) : Bool :=
  (taskBase (tasks i) system.db).all numericBase &&
    decide (∀ j, j ≠ i → (system.phases j).address ≠ none →
      taskBase (tasks j) system.db ≠ taskBase (tasks i) system.db)

variable (tasks) in
/-- The condition on an action: if it allocates, it does so alone. -/
def allocatesAlone (system : IssueSystem n) : IssueAction n → Bool
  | .proceed i =>
      match system.phases i with
      | .counted _ => allocationAlone tasks system i
      | _ => true
  | _ => true

theorem allocatesAlone_counted {system : IssueSystem n} {i : Fin n} {owner : Int × String}
    (was : system.phases i = .counted owner) :
    allocatesAlone tasks system (.proceed i) = allocationAlone tasks system i := by
  unfold allocatesAlone
  dsimp only
  rw [was]

/-- Every open address is of its transaction's base. -/
def BasesKnown (tasks : Fin n → IssueTask) (system : IssueSystem n) : Prop :=
  ∀ i allowedIps, (system.phases i).address = some allowedIps →
    FromBase (tasks i) system.db allowedIps

theorem BasesKnown.setPhase {system : IssueSystem n} (known : BasesKnown tasks system) {db : FleetDb}
    (sameServers : db.servers = system.db.servers) {i : Fin n} {phase : IssuePhase}
    (mine : ∀ allowedIps, phase.address = some allowedIps → FromBase (tasks i) system.db allowedIps) :
    BasesKnown tasks (IssueSystem.setPhase { system with db := db } i phase) := by
  intro j allowedIps held
  have based : ∀ task, taskBase task db = taskBase task system.db := by
    intro task
    rw [taskBase, taskBase, sameServers]
  have fromOld : FromBase (tasks j) system.db allowedIps := by
    by_cases here : j = i
    · subst here
      rw [IssueSystem.setPhase_self] at held
      exact mine allowedIps held
    · rw [IssueSystem.setPhase_of_ne _ phase here] at held
      exact known j allowedIps held
  obtain ⟨base, host, stored, rest⟩ := fromOld
  exact ⟨base, host, (based (tasks j)).trans stored, rest⟩

theorem BasesKnown.step {system after : IssueSystem n} {action : IssueAction n}
    (known : BasesKnown tasks system) (advanced : Advanced tasks system action after) :
    BasesKnown tasks after := by
  have closes : ∀ (db : FleetDb) (i : Fin n) (phase : IssuePhase), db.servers = system.db.servers →
      phase.address = none → BasesKnown tasks (IssueSystem.setPhase { system with db := db } i phase) := by
    intro db i phase sameServers unaddressed
    apply known.setPhase sameServers
    intro allowedIps held
    rw [unaddressed] at held
    cases held
  cases advanced with
  | idle => exact known
  | closed i => exact closes system.db i .closed rfl rfl
  | locked i owner was free => exact closes system.db i (.locked owner) rfl rfl
  | counted i owner was room => exact closes system.db i (.counted owner) rfl rfl
  | allocated i owner allowedIps acted was taken =>
      refine known.setPhase rfl ?_
      intro held same
      obtain rfl := Option.some.inj same
      exact fromBase_of_taskAddress taken
  | inserted i owner allowedIps was =>
      refine known.setPhase rfl ?_
      intro held same
      apply known i
      rw [was]
      exact same
  | committed i owner allowedIps applyStatus was fresh => exact closes _ i .committed rfl rfl
  | followed i devices was shrinks => exact closes _ i .closed rfl rfl
  | shrunk devices shrinks => exact known

/-- An action that allocates alone is a step of the ledger of addresses. -/
theorem Advanced.addresses {system after : IssueSystem n} {action : IssueAction n}
    (advanced : Advanced tasks system action after) (known : BasesKnown tasks system)
    (alone : allocatesAlone tasks system action = true) :
    LedgerStep addressRules (system.ledger id IssuePhase.address)
      (after.ledger id IssuePhase.address) := by
  cases advanced with
  | idle => exact .ambient rfl (.refl _ _)
  | closed i => exact .drop i ledger_moves rfl ledger_intent
  | locked i owner was free => exact .drop i ledger_moves rfl ledger_intent
  | counted i owner was room => exact .drop i ledger_moves rfl ledger_intent
  | allocated i owner allowedIps acted was taken =>
      subst acted
      rw [allocatesAlone_counted was, allocationAlone, Bool.and_eq_true, decide_eq_true_eq] at alone
      obtain ⟨numeric, others⟩ := alone
      obtain ⟨_, server, address, _, _, based, given⟩ := taskAddress_ok taken
      rw [based, Option.all_some] at numeric
      refine .reserve i allowedIps ledger_moves rfl ledger_intent
        (allocateAddressForDevice_fresh numeric given) ?_
      rintro j held different promised rfl
      obtain ⟨leftBase, leftHost, leftStored, leftRange, rfl⟩ := fromBase_of_taskAddress taken
      obtain ⟨rightBase, rightHost, rightStored, rightRange, same⟩ := known j _ promised
      apply others j different
      · exact ne_of_eq_of_ne promised (Option.some_ne_none _)
      · rw [leftStored, rightStored, hostAddress_base leftRange rightRange same]
  | inserted i owner allowedIps was => exact ledger_steps (by rw [was]; rfl) (.refl _ _)
  | committed i owner allowedIps applyStatus was fresh =>
      refine .commit i allowedIps ledger_moves ?_ ledger_intent ?_
      · change (system.phases i).address = some allowedIps
        rw [was]
        rfl
      · exact ⟨_, _, fun other live => fresh (Dict.mem_keys_of_get? live.1), rfl, rfl, rfl⟩
  | followed i devices was shrinks =>
      exact ledger_steps (by rw [was]; rfl) (addressRules_harmless shrinks)
  | shrunk devices shrinks => exact .ambient rfl (addressRules_harmless shrinks)

/-- The invariant behind distinct addresses. -/
structure AddressesReserved (tasks : Fin n → IssueTask) (system : IssueSystem n) : Prop where
  known : BasesKnown tasks system
  reserved : Reserved addressRules (system.ledger id IssuePhase.address)

theorem AddressesReserved.step {system after : IssueSystem n} {action : IssueAction n}
    (holds : AddressesReserved tasks system) (alone : allocatesAlone tasks system action = true)
    (advanced : Advanced tasks system action after) : AddressesReserved tasks after :=
  ⟨holds.known.step advanced,
    holds.reserved.step addressRules_sound (advanced.addresses holds.known alone)⟩

theorem addressesReserved_start {db : FleetDb} (distinct : DistinctAddresses db.devices) :
    AddressesReserved tasks (IssueSystem.start db) := by
  refine ⟨?_, distinct, ?_, ?_⟩
  · intro i allowedIps held
    cases held
  · intro i allowedIps held
    cases held
  · intro left right first second different held
    cases held

/-- In every run whose allocations take place alone, every committed state has distinct
addresses. -/
theorem addresses_distinct_when_allocated_alone (settings : FleetSettings)
    (tasks : Fin n → IssueTask) (db : FleetDb) (actions : List (IssueAction n))
    (distinct : DistinctAddresses db.devices)
    (alone : EveryStep (advance settings tasks) (IssueSystem.start db) actions
      (fun system action => allocatesAlone tasks system action = true)) :
    EveryState (advance settings tasks) (IssueSystem.start db) actions
      (fun system => DistinctAddresses system.db.devices) := by
  have kept : EveryState (advance settings tasks) (IssueSystem.start db) actions
      (AddressesReserved tasks) :=
    EveryStep.keeps (fun system action holds here =>
        holds.step here (advance_advanced settings tasks system action))
      (addressesReserved_start distinct) alone
  exact kept.imp (fun holds => holds.reserved.safe)

/-- Two subscribers allocate before either commits, and get the same address. -/
theorem overlapping_allocations_collide :
    ¬ EveryState
      (advance dockerSettings ![requestFor 1 "sub" "a", requestFor 2 "sub-2" "b"])
      (IssueSystem.start twoSubscribers) (issueTurns [0, 0, 0, 1, 1, 1, 0, 0, 1, 1])
      (fun system => DistinctAddresses system.db.devices) := by
  intro distinct
  have final := distinct _ [] (List.append_nil _).symm
  let devices := ((issueTurns [0, 0, 0, 1, 1, 1, 0, 0, 1, 1]).foldl
    (advance dockerSettings ![requestFor 1 "sub" "a", requestFor 2 "sub-2" "b"])
    (IssueSystem.start twoSubscribers)).db.devices
  let device (userId : Int) (subscriptionId key : String) : Device :=
    ⟨userId, subscriptionId, "node-1", none, key, some "10.8.1.2/32", none, none, none, none,
      .applied⟩
  have first : LiveIn devices "a" (device 1 "sub" "a") := ⟨by decide +kernel, rfl⟩
  have second : LiveIn devices "b" (device 2 "sub-2" "b") := ⟨by decide +kernel, rfl⟩
  exact final first second (by decide) rfl

/-- The second subscriber allocates after the first has committed. -/
theorem serial_allocations_stay_apart :
    EveryState
      (advance dockerSettings ![requestFor 1 "sub" "a", requestFor 2 "sub-2" "b"])
      (IssueSystem.start twoSubscribers) (issueTurns [0, 1, 0, 1, 0, 0, 0, 1, 1, 1])
      (fun system => DistinctAddresses system.db.devices) := by
  apply addresses_distinct_when_allocated_alone
  · intro left right first second live
    cases live.1
  · exact everyStep_iff_stepsAll.mpr (by decide +kernel)

end System

/-! ### One transaction alone -/

section Alone

variable {n : Nat} (settings : FleetSettings) (tasks : Fin n → IssueTask) (i : Fin n)

/-- The next turns all go to the same transaction. -/
def turnsOf (turns : Nat) (system : IssueSystem n) : IssueSystem n :=
  (List.replicate turns (.proceed i)).foldl (advance settings tasks) system

theorem turnsOf_succ (turns : Nat) (system : IssueSystem n) :
    turnsOf settings tasks i (turns + 1) system =
      turnsOf settings tasks i turns (proceed settings tasks system i) := by
  rw [turnsOf, List.replicate_succ, List.foldl_cons]
  rfl

theorem turnsOf_closed (turns : Nat) (system : IssueSystem n) :
    (turnsOf settings tasks i turns (system.setPhase i .closed)).db = system.db := by
  induction turns with
  | zero => rfl
  | succ turns ih =>
      have stays : proceed settings tasks (system.setPhase i .closed) i =
          system.setPhase i .closed := by
        simp only [proceed, IssueSystem.setPhase_self]
      rw [turnsOf_succ, stays, ih]

/-- What a transaction reads: its owner, under the limit, and a free address. -/
def taskReads (task : IssueTask) (db : FleetDb) : Except IssueError ((Int × String) × String) := do
  let owner ← lockTarget task db
  checkDeviceLimit owner.2 db
  let allowedIps ← taskAddress task db
  .ok (owner, allowedIps)

/-- What it commits after that. -/
def taskWrites (task : IssueTask) (owner : Int × String) (allowedIps : String) (db : FleetDb) :
    FleetDb :=
  match commitStatus settings task with
  | .error _ => db
  | .ok applyStatus =>
      if task.inputs.deviceId ∈ db.devices.keys then db
      else followUp settings task (db.setDevice task.inputs.deviceId
        (taskDevice task owner allowedIps applyStatus))

variable {settings tasks i}

theorem turnsOf_inserted {system : IssueSystem n} {owner : Int × String} {allowedIps : String}
    (was : system.phases i = .inserted owner allowedIps) :
    (turnsOf settings tasks i 2 system).db =
      taskWrites settings (tasks i) owner allowedIps system.db := by
  rw [turnsOf_succ, taskWrites]
  simp only [proceed, was]
  cases commitStatus settings (tasks i) with
  | error reason => exact turnsOf_closed settings tasks i 1 system
  | ok applyStatus =>
      dsimp only
      split
      · exact turnsOf_closed settings tasks i 1 system
      · rw [turnsOf_succ]
        simp only [proceed, IssueSystem.setPhase_self]
        rfl

theorem turnsOf_counted {system : IssueSystem n} {owner : Int × String}
    (was : system.phases i = .counted owner) :
    (turnsOf settings tasks i 4 system).db =
      match taskAddress (tasks i) system.db with
      | .error _ => system.db
      | .ok allowedIps => taskWrites settings (tasks i) owner allowedIps system.db := by
  rw [turnsOf_succ]
  simp only [proceed, was]
  cases taskAddress (tasks i) system.db with
  | error reason => exact turnsOf_closed settings tasks i 3 system
  | ok allowedIps =>
      dsimp only
      rw [turnsOf_succ]
      simp only [proceed, IssueSystem.setPhase_self]
      exact turnsOf_inserted (IssueSystem.setPhase_self ..)

theorem ok_bind {α β : Type} (value : α) (next : α → Except IssueError β) :
    (Except.ok value >>= next) = next value := rfl

theorem error_bind {α β : Type} (error : IssueError) (next : α → Except IssueError β) :
    (Except.error error >>= next) = .error error := rfl

theorem turnsOf_start (db : FleetDb) :
    (turnsOf settings tasks i 6 (IssueSystem.start db)).db =
      match taskReads (tasks i) db with
      | .error _ => db
      | .ok (owner, allowedIps) => taskWrites settings (tasks i) owner allowedIps db := by
  have free : ∀ subscriptionId,
      (IssueSystem.start db : IssueSystem n).lockFree i subscriptionId = true := by
    intro subscriptionId
    apply decide_eq_true
    intro j _ held
    cases held
  rw [taskReads, turnsOf_succ]
  cases target : lockTarget (tasks i) db with
  | error reason =>
      simp only [proceed, IssueSystem.start, target]
      exact turnsOf_closed settings tasks i 5 (IssueSystem.start db)
  | ok owner =>
      have locked : proceed settings tasks (IssueSystem.start db) i =
          (IssueSystem.start db).setPhase i (.locked owner) := by
        simp only [proceed, IssueSystem.start, target]
        exact if_pos (free owner.2)
      rw [locked, turnsOf_succ, ok_bind]
      simp only [proceed, IssueSystem.setPhase_self]
      change (turnsOf settings tasks i 4 (match checkDeviceLimit owner.2 db with
        | .error _ => _
        | .ok _ => _)).db = _
      cases checkDeviceLimit owner.2 db with
      | error reason => exact turnsOf_closed settings tasks i 4 _
      | ok done =>
          dsimp only
          rw [turnsOf_counted (IssueSystem.setPhase_self ..), ok_bind]
          change (match taskAddress (tasks i) db with | .error _ => db | .ok _ => _) = _
          cases taskAddress (tasks i) db with
          | error reason => rfl
          | ok allowedIps => rfl

/-- `issue_device` cut at the statements of its transaction. -/
theorem issueDevice_reads (request : IssueRequest) (db : FleetDb) :
    issueDevice settings request db = (do
      let found ← taskReads (.issue request) db
      require (request.inputs.deviceId ∉ db.devices.keys) .duplicateId
      let applyStatus ← issuedStatus settings request.inputs.peerApplied
      require request.inputs.configValid .configInvalid
      .ok (db.setDevice request.inputs.deviceId
        (taskDevice (.issue request) found.1 found.2 applyStatus))) := by
  unfold issueDevice taskReads lockTarget taskAddress
  simp only [bind_assoc, ok_bind, IssueTask.serverId, IssueTask.inputs, taskDevice]
  cases request.serverId with
  | none => rfl
  | some serverId => rfl

/-- `admin_issue_peer` likewise; it reads its server before it locks. -/
theorem adminIssuePeer_reads (request : AdminIssueRequest) (db : FleetDb) :
    adminIssuePeer settings request db = (do
      let found ← taskReads (.admin request) db
      require request.inputs.configValid .configInvalid
      require (request.inputs.deviceId ∉ db.devices.keys) .duplicateId
      .ok (db.setDevice request.inputs.deviceId (taskDevice (.admin request) found.1 found.2
          (adminIssuedStatus settings request.inputs.peerApplied)),
        if settings.appliesPeers && !request.inputs.peerApplied then some .peerNotCreated
        else none)) := by
  unfold adminIssuePeer taskReads lockTarget taskAddress
  simp only [bind_assoc, ok_bind, IssueTask.serverId, IssueTask.inputs, taskDevice,
    Option.elim_some]
  cases findServer request.serverId db with
  | error reason => rfl
  | ok server =>
      simp only [ok_bind]
      cases server.isDraining with
      | true => rfl
      | false =>
          cases request.inputs.keyVerified with
          | false => rfl
          | true => rfl

/-- The sequential operation a transaction stands for. -/
def IssueTask.toStep : IssueTask → FleetStep
  | .issue request => .issue request
  | .admin request => .adminIssue request

/-- A transaction that runs alone does what the sequential model says. -/
theorem transaction_alone (db : FleetDb) :
    (turnsOf settings tasks i 6 (IssueSystem.start db)).db =
      fleetStep settings db (tasks i).toStep := by
  rw [turnsOf_start]
  cases tasks i with
  | issue request =>
      rw [IssueTask.toStep, fleetStep_issue, issueDevice_reads]
      cases taskReads (.issue request) db with
      | error reason => rfl
      | ok found =>
          simp only [ok_bind, taskWrites, commitStatus, followUp, IssueTask.inputs]
          -- a duplicate id, a refused config and an error of the node all leave the table alone
          by_cases used : request.inputs.deviceId ∈ db.devices.keys <;>
            cases request.inputs.configValid <;>
            cases issuedStatus settings request.inputs.peerApplied <;>
            simp [require, used, ok_bind, error_bind]
  | admin request =>
      rw [IssueTask.toStep, fleetStep_adminIssue, adminIssuePeer_reads]
      cases taskReads (.admin request) db with
      | error reason => rfl
      | ok found =>
          simp only [ok_bind, taskWrites, commitStatus, followUp, IssueTask.inputs]
          by_cases used : request.inputs.deviceId ∈ db.devices.keys <;>
            cases request.inputs.configValid <;>
            simp [require, used, ok_bind, error_bind, FleetDb.setDevice, Dict.set_set, taskDevice, newDevice]

end Alone

end VpnSuite.Fleet
