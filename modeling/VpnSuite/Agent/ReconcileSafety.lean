/-
Safety and accounting of one reconcile pass under arbitrary exit codes.

The three loops share one budget that only a successful command is charged to,
and a failed command is skipped, so a loop runs through a prefix of its list
whose length depends on the outcomes.  `LoopRun` says what one loop can do; the
theorem about the whole pass is assembled from three of them.
-/

import Mathlib.Data.Int.Order.Basic
import VpnSuite.Agent.ReconcileDiff

set_option autoImplicit false

namespace VpnSuite.Agent

open Foundations
open Foundations.PythonText

/-! ### One loop -/

def successes (batch : List Issued) : Nat := batch.countP (fun issued => issued.exitCode = 0)

/-- A loop over `keys` issued `batch`, one command for each key of `used`. -/
structure LoopRun (exitCode : Nat → Int)
    (prepare : String → Except ReconcileError Command) (keys : List String)
    (before after : Progress) (batch : List Issued) (used : List String) : Prop where
  issued : after.issued = before.issued ++ batch
  inOrder : used <+: keys
  commands : List.Forall₂ (fun issued key => prepare key = .ok issued.command) batch used
  codes : ∀ issued ∈ batch, ∃ position, issued.exitCode = exitCode position
  running : after.failure = none
  counted : after.succeeded = before.succeeded + successes batch
  charged : after.mutationsLeft + successes batch = before.mutationsLeft
  exhausted : used = keys ∨ after.mutationsLeft = 0
  idle : before.mutationsLeft = 0 → used = []

theorem record_failure (progress : Progress) (command : Command) (exitCode : Int) :
    (progress.record command exitCode).failure = progress.failure := by
  unfold Progress.record
  split <;> rfl

theorem record_issued (progress : Progress) (command : Command) (exitCode : Int) :
    (progress.record command exitCode).issued = progress.issued ++ [⟨command, exitCode⟩] := by
  unfold Progress.record
  split <;> rfl

theorem record_succeeded (progress : Progress) (command : Command) (exitCode : Int)
    (batch : List Issued) :
    (progress.record command exitCode).succeeded + successes batch =
      progress.succeeded + successes (⟨command, exitCode⟩ :: batch) := by
  unfold Progress.record successes
  by_cases zero : exitCode = 0
  · simp only [zero, if_true, decide_true, List.countP_cons_of_pos]
    omega
  · simp [zero]

theorem record_mutationsLeft (progress : Progress) (command : Command) (exitCode : Int)
    (batch : List Issued) (remaining : Nat) (available : progress.mutationsLeft ≠ 0)
    (charged : remaining + successes batch = (progress.record command exitCode).mutationsLeft) :
    remaining + successes (⟨command, exitCode⟩ :: batch) = progress.mutationsLeft := by
  unfold Progress.record at charged
  unfold successes at charged ⊢
  by_cases zero : exitCode = 0
  · simp only [zero, if_true, decide_true, List.countP_cons_of_pos] at charged ⊢
    omega
  · simpa [zero] using charged

section Loop

variable {exitCode : Nat → Int} {prepare : String → Except ReconcileError Command}
  {key : String} {rest : List String} {before after : Progress}

/-- A loop that issues nothing has nothing to do or no budget left. -/
theorem LoopRun.stopped {keys : List String} (running : before.failure = none)
    (exhausted : [] = keys ∨ before.mutationsLeft = 0) :
    LoopRun exitCode prepare keys before before [] [] where
  issued := (List.append_nil _).symm
  inOrder := List.nil_prefix
  commands := List.Forall₂.nil
  codes := by
    intro issued member
    cases member
  running := running
  counted := rfl
  charged := rfl
  exhausted := exhausted
  idle := fun _spent => rfl

theorem LoopRun.cons {command : Command} {batch : List Issued} {used : List String}
    (ready : prepare key = .ok command) (available : before.mutationsLeft ≠ 0)
    (tail : LoopRun exitCode prepare rest
      (before.record command (exitCode before.issued.length)) after batch used) :
    LoopRun exitCode prepare (key :: rest) before after
      (⟨command, exitCode before.issued.length⟩ :: batch) (key :: used) where
  issued := by
    rw [tail.issued, record_issued, List.append_assoc]
    rfl
  inOrder := List.cons_prefix_cons.mpr ⟨rfl, tail.inOrder⟩
  commands := List.Forall₂.cons ready tail.commands
  codes := by
    intro issued member
    rcases List.mem_cons.mp member with atHead | inTail
    · rw [atHead]
      exact ⟨_, rfl⟩
    · exact tail.codes issued inTail
  running := tail.running
  counted := by rw [tail.counted, record_succeeded]
  charged := record_mutationsLeft _ _ _ _ _ available tail.charged
  exhausted := by
    rcases tail.exhausted with complete | spentNow
    · exact Or.inl (by rw [complete])
    · exact Or.inr spentNow
  idle := fun spentBefore => False.elim (available spentBefore)

end Loop

theorem mutationLoop_run (exitCode : Nat → Int)
    (prepare : String → Except ReconcileError Command) (keys : List String)
    (prepared : ∀ key ∈ keys, ∃ command, prepare key = .ok command) (before : Progress)
    (running : before.failure = none) :
    ∃ batch used,
      LoopRun exitCode prepare keys before (mutationLoop exitCode prepare keys before) batch used := by
  induction keys generalizing before with
  | nil => exact ⟨[], [], LoopRun.stopped running (Or.inl rfl)⟩
  | cons key rest ih =>
      by_cases spent : before.mutationsLeft = 0
      · have stops : mutationLoop exitCode prepare (key :: rest) before = before := by
          rw [mutationLoop, running, spent]
          rfl
        rw [stops]
        exact ⟨[], [], LoopRun.stopped running (Or.inr spent)⟩
      · obtain ⟨command, ready⟩ := prepared key (List.mem_cons_self ..)
        have continues : mutationLoop exitCode prepare (key :: rest) before =
            mutationLoop exitCode prepare rest
              (before.record command (exitCode before.issued.length)) := by
          rw [mutationLoop, running, ready]
          simp [spent]
        rw [continues]
        obtain ⟨batch, used, tail⟩ := ih
          (fun other member => prepared other (List.mem_cons_of_mem key member))
          (before.record command (exitCode before.issued.length))
          ((record_failure _ _ _).trans running)
        exact ⟨_, _, LoopRun.cons ready spent tail⟩

/-! ### Targets of the issued commands -/

def Command.target : Command → Option String
  | .setPeer key _ => some key
  | .removePeer key => some key
  | .save => none

def targets (issued : List Issued) : List String :=
  issued.filterMap (fun entry => entry.command.target)

theorem targets_append (first second : List Issued) :
    targets (first ++ second) = targets first ++ targets second :=
  List.filterMap_append

theorem targets_batch {prepare : String → Except ReconcileError Command}
    {batch : List Issued} {used : List String}
    (commands : List.Forall₂ (fun issued key => prepare key = .ok issued.command) batch used)
    (named : ∀ key ∈ used, ∀ command, prepare key = .ok command → command.target = some key) :
    targets batch = used := by
  induction commands with
  | nil => rfl
  | @cons issued key batch used ready _commands ih =>
      have headTarget := named key (List.mem_cons_self ..) issued.command ready
      have tailTargets := ih (fun other member =>
        named other (List.mem_cons_of_mem key member))
      unfold targets at tailTargets ⊢
      rw [List.filterMap_cons, headTarget, tailTargets]

theorem exists_key_of_mem_batch {prepare : String → Except ReconcileError Command}
    {batch : List Issued} {used : List String}
    (commands : List.Forall₂ (fun issued key => prepare key = .ok issued.command) batch used)
    {issued : Issued} (member : issued ∈ batch) :
    ∃ key ∈ used, prepare key = .ok issued.command := by
  induction commands with
  | nil => cases member
  | @cons head key batch used ready _commands ih =>
      rcases List.mem_cons.mp member with atHead | inTail
      · subst atHead
        exact ⟨key, List.mem_cons_self .., ready⟩
      · obtain ⟨later, present, readyLater⟩ := ih inTail
        exact ⟨later, List.mem_cons_of_mem key present, readyLater⟩

theorem prepareSet_eq_ok {desired : Dict String PeerSpec} {key : String} {command : Command}
    (ready : prepareSet desired key = .ok command) :
    ∃ spec, desired.get? key = some spec ∧ command = .setPeer key spec := by
  unfold prepareSet at ready
  cases found : desired.get? key with
  | none =>
      rw [found] at ready
      cases ready
  | some spec =>
      rw [found] at ready
      cases ready
      exact ⟨spec, rfl, rfl⟩

theorem prepareSet_of_mem {desired : Dict String PeerSpec} {key : String}
    (filed : key ∈ desired.keys) : ∃ command, prepareSet desired key = .ok command := by
  obtain ⟨spec, found⟩ := (desired.mem_keys_iff key).mp filed
  exact ⟨.setPeer key spec, by rw [prepareSet, found]⟩

theorem prepareRemove_of_fixed {key : String} (wellFormed : sanitizePubkey key = .ok key) :
    prepareRemove key = .ok (.removePeer key) := by
  rw [prepareRemove, wellFormed]
  rfl

/-! ### The whole pass -/

/-- A pass visits a prefix of its plan, split over the three loops, and stops
early only when the budget is spent. -/
structure PassRun (exitCode : Nat → Int) (desired : Dict String PeerSpec)
    (runtime : Dict String Peer) (budget : Nat) (outcome : Outcome)
    (adds updates removes : List Issued)
    (usedAdds usedUpdates usedRemoves : List String) : Prop where
  outcome_eq : outcome = finish exitCode (adds ++ (updates ++ removes))
    { added := successes adds, removed := successes removes, updated := successes updates }
  addCommands : List.Forall₂
    (fun issued key => prepareSet desired key = .ok issued.command) adds usedAdds
  updateCommands : List.Forall₂
    (fun issued key => prepareSet desired key = .ok issued.command) updates usedUpdates
  removeCommands : List.Forall₂
    (fun issued key => prepareRemove key = .ok issued.command) removes usedRemoves
  codes : ∀ issued ∈ adds ++ (updates ++ removes), ∃ position,
    issued.exitCode = exitCode position
  fromAdds : usedAdds <+: toAdd desired runtime
  fromUpdates : usedUpdates <+: toUpdate desired runtime
  fromRemoves : usedRemoves <+: toRemove desired runtime
  inOrder : usedAdds ++ (usedUpdates ++ usedRemoves) <+: plan desired runtime
  withinBudget : successes adds + (successes updates + successes removes) ≤ budget
  exhausted : usedAdds ++ (usedUpdates ++ usedRemoves) = plan desired runtime ∨
    successes adds + (successes updates + successes removes) = budget

/-- Two stages that each run through a prefix, the second idle when the first
stopped early, together run through a prefix. -/
private theorem append_prefix {first second all more : List String} {spent : Prop}
    (firstPrefix : first <+: all) (secondPrefix : second <+: more)
    (stopped : first = all ∨ spent) (idle : spent → second = []) :
    first ++ second <+: all ++ more := by
  rcases stopped with complete | spentNow
  · rw [complete]
    exact (List.prefix_append_right_inj all).mpr secondPrefix
  · rw [idle spentNow, List.append_nil]
    exact firstPrefix.trans (List.prefix_append all more)

theorem applyMutations_run (exitCode : Nat → Int) (desired : Dict String PeerSpec)
    (runtime : Dict String Peer) (budget : Nat)
    (wellFormed : ∀ key ∈ runtime.keys, sanitizePubkey key = .ok key) :
    ∃ adds updates removes usedAdds usedUpdates usedRemoves,
      PassRun exitCode desired runtime budget
        (applyMutations exitCode desired runtime budget)
        adds updates removes usedAdds usedUpdates usedRemoves := by
  obtain ⟨adds, usedAdds, addRun⟩ := mutationLoop_run exitCode (prepareSet desired)
    (toAdd desired runtime)
    (fun key member => prepareSet_of_mem ((mem_toAdd desired runtime key).mp member).1)
    (startProgress budget) rfl
  generalize afterAddsEq : mutationLoop exitCode (prepareSet desired) (toAdd desired runtime)
    (startProgress budget) = afterAdds at addRun
  obtain ⟨updates, usedUpdates, updateRun⟩ := mutationLoop_run exitCode (prepareSet desired)
    (toUpdate desired runtime)
    (fun key member => prepareSet_of_mem (toUpdate_present desired runtime member).1)
    afterAdds.nextLoop addRun.running
  generalize afterUpdatesEq : mutationLoop exitCode (prepareSet desired)
    (toUpdate desired runtime) afterAdds.nextLoop = afterUpdates at updateRun
  obtain ⟨removes, usedRemoves, removeRun⟩ := mutationLoop_run exitCode prepareRemove
    (toRemove desired runtime)
    (fun key member => ⟨.removePeer key, prepareRemove_of_fixed
      (wellFormed key ((mem_toRemove desired runtime key).mp member).1)⟩)
    afterUpdates.nextLoop updateRun.running
  generalize afterRemovesEq : mutationLoop exitCode prepareRemove
    (toRemove desired runtime) afterUpdates.nextLoop = afterRemoves at removeRun
  have addCount : afterAdds.succeeded = successes adds := by
    rw [addRun.counted, startProgress, Nat.zero_add]
  have updateCount : afterUpdates.succeeded = successes updates := by
    rw [updateRun.counted, Progress.nextLoop, Nat.zero_add]
  have removeCount : afterRemoves.succeeded = successes removes := by
    rw [removeRun.counted, Progress.nextLoop, Nat.zero_add]
  have trace : afterRemoves.issued = adds ++ (updates ++ removes) := by
    rw [removeRun.issued, Progress.nextLoop, updateRun.issued, Progress.nextLoop,
      addRun.issued, startProgress, List.nil_append, List.append_assoc]
  have addCharge : afterAdds.mutationsLeft + successes adds = budget := addRun.charged
  have updateCharge : afterUpdates.mutationsLeft + successes updates =
      afterAdds.mutationsLeft := updateRun.charged
  have removeCharge : afterRemoves.mutationsLeft + successes removes =
      afterUpdates.mutationsLeft := removeRun.charged
  have updatesIdle : afterAdds.mutationsLeft = 0 → usedUpdates = [] := updateRun.idle
  have removesIdle : afterUpdates.mutationsLeft = 0 → usedRemoves = [] := removeRun.idle
  refine ⟨adds, updates, removes, usedAdds, usedUpdates, usedRemoves, ?_⟩
  exact
    { outcome_eq := by
        unfold applyMutations
        simp only [afterAddsEq, afterUpdatesEq, afterRemovesEq, removeRun.running]
        rw [trace, addCount, updateCount, removeCount]
      addCommands := addRun.commands
      updateCommands := updateRun.commands
      removeCommands := removeRun.commands
      codes := by
        intro issued member
        rcases List.mem_append.mp member with inAdds | inLater
        · exact addRun.codes issued inAdds
        · rcases List.mem_append.mp inLater with inUpdates | inRemoves
          · exact updateRun.codes issued inUpdates
          · exact removeRun.codes issued inRemoves
      fromAdds := addRun.inOrder
      fromUpdates := updateRun.inOrder
      fromRemoves := removeRun.inOrder
      inOrder := by
        have later := append_prefix updateRun.inOrder removeRun.inOrder
          updateRun.exhausted removesIdle
        apply append_prefix addRun.inOrder later addRun.exhausted
        intro spent
        have alsoSpent : afterUpdates.mutationsLeft = 0 := by omega
        rw [updatesIdle spent, removesIdle alsoSpent]
        rfl
      withinBudget := by omega
      exhausted := by
        rcases addRun.exhausted with allAdds | spent
        · rcases updateRun.exhausted with allUpdates | spent
          · rcases removeRun.exhausted with allRemoves | spent
            · exact Or.inl (by rw [allAdds, allUpdates, allRemoves, plan])
            · exact Or.inr (by omega)
          · exact Or.inr (by omega)
        · exact Or.inr (by omega) }

/-! ### Safety of a call -/

/-- The container, the interface and every public key pass their sanitisers; the
dump parser has already stripped the runtime keys. -/
structure WellFormedCall (call : ReconcileCall) : Prop where
  container : ∃ name, sanitizeContainer call.container = .ok name
  iface : ∃ name, sanitizeIface call.iface = .ok name
  desired : ∀ peer ∈ call.desired, ∃ key, desiredKey peer = .ok key
  runtime : ∀ peer ∈ call.runtime, sanitizePubkey peer.publicKey = .ok peer.publicKey

def onNode (call : ReconcileCall) (key : String) : Bool :=
  call.runtime.any (fun peer => peer.publicKey = key)

def Justified (call : ReconcileCall) : Command → Prop
  | .setPeer key spec => lastDesired call.desired key = some spec
  | .removePeer key => onNode call key = true ∧ lastDesired call.desired key = none
  | .save => True

def isSuccessfulAdd (call : ReconcileCall) (issued : Issued) : Bool :=
  match issued.command with
  | .setPeer key _ => !onNode call key && decide (issued.exitCode = 0)
  | _ => false

def isSuccessfulUpdate (call : ReconcileCall) (issued : Issued) : Bool :=
  match issued.command with
  | .setPeer key _ => onNode call key && decide (issued.exitCode = 0)
  | _ => false

def isSuccessfulRemove (issued : Issued) : Bool :=
  match issued.command with
  | .removePeer _ => decide (issued.exitCode = 0)
  | _ => false

theorem prepareCall_ok {call : ReconcileCall} (wellFormed : WellFormedCall call) :
    ∃ filed, prepareCall call = .ok filed ∧ desiredMap call.desired = .ok filed ∧
      (∀ key, filed.get? key = lastDesired call.desired key) ∧
      (filed.keys = [] ↔ call.desired = []) := by
  obtain ⟨container, containerOk⟩ := wellFormed.container
  obtain ⟨iface, ifaceOk⟩ := wellFormed.iface
  obtain ⟨filed, mapped, lookups, emptiness⟩ := desiredMap_ok call.desired wellFormed.desired
  refine ⟨filed, ?_, mapped, lookups, emptiness⟩
  rw [prepareCall, containerOk, ifaceOk, mapped]
  rfl

theorem mem_keys_runtimeMap_iff_onNode {call : ReconcileCall} (wellFormed : WellFormedCall call)
    (key : String) : key ∈ (runtimeMap call.runtime).keys ↔ onNode call key = true := by
  rw [mem_keys_runtimeMap, onNode, List.any_eq_true]
  constructor
  · rintro ⟨_nonempty, peer, listed, atKey⟩
    exact ⟨peer, listed, by simpa using atKey⟩
  · rintro ⟨peer, listed, atKey⟩
    have atKey : peer.publicKey = key := by simpa using atKey
    refine ⟨?_, peer, listed, atKey⟩
    rw [← atKey]
    exact sanitizePubkey_nonempty (wellFormed.runtime peer listed)

theorem runtimeMap_keys_fixed {call : ReconcileCall} (wellFormed : WellFormedCall call) :
    ∀ key ∈ (runtimeMap call.runtime).keys, sanitizePubkey key = .ok key := by
  intro key present
  obtain ⟨_nonempty, peer, listed, atKey⟩ := (mem_keys_runtimeMap call.runtime key).mp present
  rw [← atKey]
  exact wellFormed.runtime peer listed

theorem runtimeMap_keys_nil {call : ReconcileCall} (wellFormed : WellFormedCall call) :
    (runtimeMap call.runtime).keys = [] ↔ call.runtime = [] := by
  constructor
  · intro noKeys
    cases listed : call.runtime with
    | nil => rfl
    | cons peer rest =>
        have member : peer ∈ call.runtime := by
          rw [listed]
          exact List.mem_cons_self ..
        have present : peer.publicKey ∈ (runtimeMap call.runtime).keys :=
          (mem_keys_runtimeMap call.runtime peer.publicKey).mpr
            ⟨sanitizePubkey_nonempty (wellFormed.runtime peer member), peer, member, rfl⟩
        rw [noKeys] at present
        cases present
  · intro noPeers
    rw [noPeers]
    rfl

/-- The two situations in which a call must leave the node alone. -/
def Guarded (call : ReconcileCall) : Prop :=
  call.readOnly = true ∨
    (call.desired = [] ∧ call.runtime ≠ [] ∧
      allowPruneEmpty call.allowPruneEmptyDesired = false)

theorem reconcile_of_guarded {call : ReconcileCall} (wellFormed : WellFormedCall call)
    (exitCode : Nat → Int) (guarded : Guarded call) : reconcile call exitCode = noChange := by
  obtain ⟨filed, prepared, _mapped, _lookups, emptiness⟩ := prepareCall_ok wellFormed
  unfold reconcile
  rw [prepared]
  dsimp only
  split
  · rfl
  · rename_i notEmptyGuard
    rcases guarded with readOnly | ⟨noDesired, somePeers, notAllowed⟩
    · rw [if_pos readOnly]
    · refine False.elim (notEmptyGuard ⟨emptiness.mpr noDesired, ?_, notAllowed⟩)
      intro noKeys
      exact somePeers ((runtimeMap_keys_nil wellFormed).mp noKeys)

theorem reconcile_of_not_guarded {call : ReconcileCall} (wellFormed : WellFormedCall call)
    (exitCode : Nat → Int) (unguarded : ¬ Guarded call) :
    ∃ filed, desiredMap call.desired = .ok filed ∧
      (∀ key, filed.get? key = lastDesired call.desired key) ∧
      reconcile call exitCode =
        applyMutations exitCode filed (runtimeMap call.runtime) call.maxMutations.toNat := by
  obtain ⟨filed, prepared, mapped, lookups, emptiness⟩ := prepareCall_ok wellFormed
  refine ⟨filed, mapped, lookups, ?_⟩
  unfold reconcile
  rw [prepared]
  dsimp only
  rw [if_neg, if_neg]
  · exact fun readOnly => unguarded (Or.inl readOnly)
  · rintro ⟨noKeys, someKeys, notAllowed⟩
    refine unguarded (Or.inr ⟨emptiness.mp noKeys, ?_, notAllowed⟩)
    intro noPeers
    exact someKeys ((runtimeMap_keys_nil wellFormed).mpr noPeers)

theorem countP_counted {batch : List Issued} {kind : Issued → Bool}
    (same : ∀ issued ∈ batch, kind issued = decide (issued.exitCode = 0)) :
    batch.countP kind = successes batch := by
  apply List.countP_congr
  intro issued member
  rw [same issued member]

theorem countP_ignored {batch : List Issued} {kind : Issued → Bool}
    (ignored : ∀ issued ∈ batch, kind issued = false) : batch.countP kind = 0 := by
  apply List.countP_eq_zero.mpr
  intro issued member
  simp [ignored issued member]

section Pass

variable {call : ReconcileCall} {exitCode : Nat → Int} {filed : Dict String PeerSpec}
  {outcome : Outcome} {budget : Nat} {adds updates removes : List Issued}
  {usedAdds usedUpdates usedRemoves : List String}
  (run : PassRun exitCode filed (runtimeMap call.runtime) budget outcome
    adds updates removes usedAdds usedUpdates usedRemoves)
  (wellFormed : WellFormedCall call)
  (lookups : ∀ key, filed.get? key = lastDesired call.desired key)

include run wellFormed lookups in
theorem PassRun.mem_adds {issued : Issued} (member : issued ∈ adds) :
    ∃ key spec, issued.command = .setPeer key spec ∧
      lastDesired call.desired key = some spec ∧ onNode call key = false := by
  obtain ⟨key, used, ready⟩ := exists_key_of_mem_batch run.addCommands member
  obtain ⟨spec, found, command⟩ := prepareSet_eq_ok ready
  have missing := ((mem_toAdd _ _ key).mp (run.fromAdds.subset used)).2
  rw [mem_keys_runtimeMap_iff_onNode wellFormed] at missing
  exact ⟨key, spec, command, by rw [← lookups, found], by simpa using missing⟩

include run wellFormed lookups in
theorem PassRun.mem_updates {issued : Issued} (member : issued ∈ updates) :
    ∃ key spec, issued.command = .setPeer key spec ∧
      lastDesired call.desired key = some spec ∧ onNode call key = true := by
  obtain ⟨key, used, ready⟩ := exists_key_of_mem_batch run.updateCommands member
  obtain ⟨spec, found, command⟩ := prepareSet_eq_ok ready
  have present := (toUpdate_present _ _ (run.fromUpdates.subset used)).2
  rw [mem_keys_runtimeMap_iff_onNode wellFormed] at present
  exact ⟨key, spec, command, by rw [← lookups, found], present⟩

include run wellFormed lookups in
theorem PassRun.mem_removes {issued : Issued} (member : issued ∈ removes) :
    ∃ key, issued.command = .removePeer key ∧ onNode call key = true ∧
      lastDesired call.desired key = none := by
  obtain ⟨key, used, ready⟩ := exists_key_of_mem_batch run.removeCommands member
  obtain ⟨present, undesired⟩ := (mem_toRemove _ _ key).mp (run.fromRemoves.subset used)
  rw [prepareRemove_of_fixed (runtimeMap_keys_fixed wellFormed key present)] at ready
  rw [mem_keys_runtimeMap_iff_onNode wellFormed] at present
  rw [← Dict.get?_eq_none_iff, lookups] at undesired
  exact ⟨key, (Except.ok.inj ready).symm, present, undesired⟩

include run wellFormed in
theorem PassRun.targets_eq :
    targets (adds ++ (updates ++ removes)) = usedAdds ++ (usedUpdates ++ usedRemoves) := by
  have setTarget : ∀ key command, prepareSet filed key = .ok command →
      command.target = some key := by
    intro key command ready
    obtain ⟨spec, _found, isSet⟩ := prepareSet_eq_ok ready
    rw [isSet]
    rfl
  rw [targets_append, targets_append,
    targets_batch run.addCommands (fun key _ => setTarget key),
    targets_batch run.updateCommands (fun key _ => setTarget key),
    targets_batch run.removeCommands]
  intro key used command ready
  have present := ((mem_toRemove _ _ key).mp (run.fromRemoves.subset used)).1
  rw [prepareRemove_of_fixed (runtimeMap_keys_fixed wellFormed key present)] at ready
  rw [← Except.ok.inj ready]
  rfl

include run wellFormed lookups in
theorem PassRun.mem_batches {issued : Issued} (member : issued ∈ adds ++ (updates ++ removes)) :
    Justified call issued.command ∧ issued.command ≠ .save := by
  rcases List.mem_append.mp member with inAdds | inLater
  · obtain ⟨key, spec, command, wanted, _absent⟩ := run.mem_adds wellFormed lookups inAdds
    rw [command]
    exact ⟨wanted, Command.noConfusion⟩
  · rcases List.mem_append.mp inLater with inUpdates | inRemoves
    · obtain ⟨key, spec, command, wanted, _present⟩ :=
        run.mem_updates wellFormed lookups inUpdates
      rw [command]
      exact ⟨wanted, Command.noConfusion⟩
    · obtain ⟨key, command, present, undesired⟩ :=
        run.mem_removes wellFormed lookups inRemoves
      rw [command]
      exact ⟨⟨present, undesired⟩, Command.noConfusion⟩

include run wellFormed lookups in
/-- Counting by kind over the concatenated batches picks out one batch each. -/
theorem PassRun.counts :
    (adds ++ (updates ++ removes)).countP (isSuccessfulAdd call) = successes adds ∧
      (adds ++ (updates ++ removes)).countP (isSuccessfulUpdate call) = successes updates ∧
      (adds ++ (updates ++ removes)).countP isSuccessfulRemove = successes removes := by
  have onAdds : ∀ issued ∈ adds,
      isSuccessfulAdd call issued = decide (issued.exitCode = 0) ∧
        isSuccessfulUpdate call issued = false ∧ isSuccessfulRemove issued = false := by
    intro issued member
    obtain ⟨key, spec, command, _desired, absent⟩ := run.mem_adds wellFormed lookups member
    simp [isSuccessfulAdd, isSuccessfulUpdate, isSuccessfulRemove, command, absent]
  have onUpdates : ∀ issued ∈ updates,
      isSuccessfulAdd call issued = false ∧
        isSuccessfulUpdate call issued = decide (issued.exitCode = 0) ∧
        isSuccessfulRemove issued = false := by
    intro issued member
    obtain ⟨key, spec, command, _desired, present⟩ := run.mem_updates wellFormed lookups member
    simp [isSuccessfulAdd, isSuccessfulUpdate, isSuccessfulRemove, command, present]
  have onRemoves : ∀ issued ∈ removes,
      isSuccessfulAdd call issued = false ∧ isSuccessfulUpdate call issued = false ∧
        isSuccessfulRemove issued = decide (issued.exitCode = 0) := by
    intro issued member
    obtain ⟨key, command, _present, _undesired⟩ := run.mem_removes wellFormed lookups member
    simp [isSuccessfulAdd, isSuccessfulUpdate, isSuccessfulRemove, command]
  refine ⟨?_, ?_, ?_⟩
  · rw [List.countP_append, List.countP_append,
      countP_counted (fun issued member => (onAdds issued member).1),
      countP_ignored (fun issued member => (onUpdates issued member).1),
      countP_ignored (fun issued member => (onRemoves issued member).1)]
    omega
  · rw [List.countP_append, List.countP_append,
      countP_ignored (fun issued member => (onAdds issued member).2.1),
      countP_counted (fun issued member => (onUpdates issued member).2.1),
      countP_ignored (fun issued member => (onRemoves issued member).2.1)]
    omega
  · rw [List.countP_append, List.countP_append,
      countP_ignored (fun issued member => (onAdds issued member).2.2),
      countP_ignored (fun issued member => (onUpdates issued member).2.2),
      countP_counted (fun issued member => (onRemoves issued member).2.2)]
    omega

end Pass

/-! ### The saving command -/

theorem finish_issued (exitCode : Nat → Int) (issued : List Issued) (counts : Counts) :
    ∃ saved : List Issued, (finish exitCode issued counts).issued = issued ++ saved ∧
      (∀ entry ∈ saved, entry.command = .save) ∧ (saved = [] ↔ counts.total = 0) := by
  unfold finish
  by_cases unchanged : counts.total = 0
  · rw [if_pos unchanged]
    exact ⟨[], (List.append_nil issued).symm, by simp, by simp [unchanged]⟩
  · rw [if_neg unchanged]
    exact ⟨_, rfl, by simp, by simp [unchanged]⟩

theorem finish_returned (exitCode : Nat → Int) (issued : List Issued) (counts : Counts) :
    (finish exitCode issued counts).returned = .ok counts := by
  unfold finish
  split <;> rfl

section Saved

variable {saved : List Issued} (onlySave : ∀ entry ∈ saved, entry.command = .save)

include onlySave in
theorem targets_saved : targets saved = [] := by
  unfold targets
  rw [List.filterMap_eq_nil_iff]
  intro entry member
  rw [onlySave entry member]
  rfl

include onlySave in
theorem countP_saved (call : ReconcileCall) :
    saved.countP (isSuccessfulAdd call) = 0 ∧ saved.countP (isSuccessfulUpdate call) = 0 ∧
      saved.countP isSuccessfulRemove = 0 := by
  refine ⟨countP_ignored ?_, countP_ignored ?_, countP_ignored ?_⟩
  · intro entry member
    simp [isSuccessfulAdd, onlySave entry member]
  · intro entry member
    simp [isSuccessfulUpdate, onlySave entry member]
  · intro entry member
    simp [isSuccessfulRemove, onlySave entry member]

include onlySave in
/-- A trace ends with a save exactly when something was changed before it. -/
theorem exists_save_iff {batches : List Issued} {total : Nat}
    (noSave : ∀ issued ∈ batches, issued.command ≠ .save) (idle : saved = [] ↔ total = 0) :
    (∃ issued ∈ batches ++ saved, issued.command = .save) ↔ 0 < total := by
  constructor
  · rintro ⟨issued, member, isSave⟩
    rcases List.mem_append.mp member with inBatches | inSaved
    · exact False.elim (noSave issued inBatches isSave)
    · by_contra noMutation
      rw [idle.mpr (by omega)] at inSaved
      cases inSaved
  · intro positive
    have someSaved : saved ≠ [] := by
      intro none
      have unchanged := idle.mp none
      omega
    obtain ⟨entry, present⟩ := List.exists_mem_of_ne_nil saved someSaved
    exact ⟨entry, List.mem_append.mpr (Or.inr present), onlySave entry present⟩

end Saved

/-- One call of `_reconcile`, for every exit code sequence: what it may issue,
whom it may touch, and what it reports. -/
theorem reconcile_safety (call : ReconcileCall) (exitCode : Nat → Int)
    (wellFormed : WellFormedCall call) :
    (Guarded call →
      (reconcile call exitCode).issued = [] ∧
        (reconcile call exitCode).returned = .ok ⟨0, 0, 0⟩) ∧
    (∀ issued ∈ (reconcile call exitCode).issued, Justified call issued.command) ∧
    (targets (reconcile call exitCode).issued).Nodup ∧
    ∃ counts : Counts, (reconcile call exitCode).returned = .ok counts ∧
      counts.added = (reconcile call exitCode).issued.countP (isSuccessfulAdd call) ∧
      counts.removed = (reconcile call exitCode).issued.countP isSuccessfulRemove ∧
      counts.updated = (reconcile call exitCode).issued.countP (isSuccessfulUpdate call) ∧
      (counts.total : Int) ≤ max 0 call.maxMutations ∧
      ((∃ issued ∈ (reconcile call exitCode).issued, issued.command = .save) ↔
        0 < counts.total) := by
  by_cases guarded : Guarded call
  · have quiet := reconcile_of_guarded wellFormed exitCode guarded
    rw [quiet]
    refine ⟨fun _ => ⟨rfl, rfl⟩, by simp [noChange], by simp [noChange, targets],
      ⟨0, 0, 0⟩, rfl, rfl, rfl, rfl, ?_, ?_⟩
    · exact le_max_left 0 call.maxMutations
    · simp [noChange, Counts.total]
  · obtain ⟨filed, _mapped, lookups, applied⟩ := reconcile_of_not_guarded wellFormed exitCode guarded
    obtain ⟨adds, updates, removes, usedAdds, usedUpdates, usedRemoves, run⟩ :=
      applyMutations_run exitCode filed (runtimeMap call.runtime) call.maxMutations.toNat
        (runtimeMap_keys_fixed wellFormed)
    obtain ⟨addCount, updateCount, removeCount⟩ := run.counts wellFormed lookups
    have whole := applied.trans run.outcome_eq
    have withinBudget := run.withinBudget
    generalize reported : Counts.mk (successes adds) (successes removes) (successes updates) =
      counts at whole
    have totalEq : counts.total = successes adds + successes removes + successes updates := by
      rw [← reported]
      rfl
    obtain ⟨saved, trace, onlySave, savedIff⟩ :=
      finish_issued exitCode (adds ++ (updates ++ removes)) counts
    obtain ⟨noAdd, noUpdate, noRemove⟩ := countP_saved onlySave call
    rw [whole, trace, finish_returned]
    refine ⟨fun impossible => False.elim (guarded impossible), ?_, ?_, counts, rfl, ?_, ?_, ?_,
      ?_, ?_⟩
    · intro issued member
      rcases List.mem_append.mp member with inBatches | inSaved
      · exact (run.mem_batches wellFormed lookups inBatches).1
      · rw [onlySave issued inSaved]
        trivial
    · rw [targets_append, targets_saved onlySave, List.append_nil, run.targets_eq wellFormed]
      exact (plan_nodup filed (runtimeMap call.runtime)).sublist run.inOrder.sublist
    · rw [List.countP_append, addCount, noAdd, ← reported, Nat.add_zero]
    · rw [List.countP_append, removeCount, noRemove, ← reported, Nat.add_zero]
    · rw [List.countP_append, updateCount, noUpdate, ← reported, Nat.add_zero]
    · rw [totalEq]
      omega
    · exact exists_save_iff onlySave
        (fun _ inBatches => (run.mem_batches wellFormed lookups inBatches).2) savedIff

/-- Two duplicate desired objects, one orphan on the node and a budget of one. -/
def crowdedCall : ReconcileCall :=
  { container := "amnezia-awg"
    iface := "awg0"
    desired := [
      { publicKey := some "AAAAAAAAAAAAAAAAAAAAAAAAAAAAAAAAAAAAAAAAAAA="
        allowedIps := some "10.8.1.2/32", presharedKey := none, persistentKeepalive := none },
      { publicKey := some "AAAAAAAAAAAAAAAAAAAAAAAAAAAAAAAAAAAAAAAAAAA="
        allowedIps := some "10.8.1.3/32", presharedKey := none, persistentKeepalive := none }]
    runtime := [
      { publicKey := "BBBBBBBBBBBBBBBBBBBBBBBBBBBBBBBBBBBBBBBBBBB=", allowedIps := "10.8.1.9/32" }]
    maxMutations := 1
    readOnly := false
    allowPruneEmptyDesired := "" }

theorem crowdedCall_wellFormed : WellFormedCall crowdedCall :=
  { container := ⟨"amnezia-awg", by decide⟩
    iface := ⟨"awg0", by decide⟩
    desired := by
      intro peer member
      simp only [crowdedCall, List.mem_cons, List.not_mem_nil, or_false] at member
      rcases member with first | second
      · subst first
        exact ⟨"AAAAAAAAAAAAAAAAAAAAAAAAAAAAAAAAAAAAAAAAAAA=", by decide⟩
      · subst second
        exact ⟨"AAAAAAAAAAAAAAAAAAAAAAAAAAAAAAAAAAAAAAAAAAA=", by decide⟩
    runtime := by
      intro peer member
      have only := List.mem_singleton.mp member
      subst only
      decide }

theorem reconcile_safety_crowded :
    (reconcile crowdedCall (fun _ => 0)).issued.length = 2 ∧
      (targets (reconcile crowdedCall (fun _ => 0)).issued).Nodup :=
  ⟨by decide +kernel, (reconcile_safety crowdedCall (fun _ => 0) crowdedCall_wellFormed).2.2.1⟩

end VpnSuite.Agent
