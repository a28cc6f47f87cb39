/-
The books of a rebalance execution.

The loop over the devices of a move is followed attempt by attempt: the counters agree with the
log of the calls, and every device that was migrated is still to be rolled back, is back on the
source, or is one whose roll-back failed.  A failure rolls back what was migrated since the
failure before it, and forgets the devices whose roll-back fails.

A move may select a device that an earlier move has taken away, so nothing is assumed of where a
device is when its move begins.
-/

import VpnSuite.ControlPlane.RebalanceExecution

set_option autoImplicit false

namespace VpnSuite.ControlPlane

open Foundations
open Foundations.Relocations

/-! ### The law of a roll-back -/

section Laws

variable (assigned : String → String) (sourceNodeId : String)
  (log : List (Relocation String String))

/-- When all roll-backs of a failure succeed, every device that was migrated before it is back on
the source. -/
def RestoresMigrated : Prop :=
  ∀ earlier failure back, FailureIn log earlier failure back →
    (∀ call ∈ back, call.succeeded = true) →
    ∀ call ∈ earlier, call.isForward = true → call.succeeded = true →
      placeAfter assigned (earlier ++ failure :: back) call.item = sourceNodeId

/-- A roll-back of the device failed. -/
def Stranded (earlier : List (Relocation String String)) (deviceId : String) : Prop :=
  ∃ other ∈ earlier, other.isForward = false ∧ other.item = deviceId ∧ other.succeeded = false

/-- The law of the code, which gives up on a device whose roll-back has failed: a device that was
migrated before a failure is back on the source after it, unless its own roll-back failed, at this
failure or at an earlier one. -/
def RestoredUnlessStranded : Prop :=
  ∀ earlier failure back, FailureIn log earlier failure back →
    ∀ call ∈ earlier, call.isForward = true → call.succeeded = true →
      placeAfter assigned (earlier ++ failure :: back) call.item = sourceNodeId ∨
        Stranded (earlier ++ back) call.item

end Laws

/-! ### The roll-back of a failure -/

section Rollback

variable {options : ExecutionOptions} {assigned : String → String} {outcomes : Nat → Bool}
  {move : RequestedMove}

/-- What the roll-back of some devices adds to the log and to the counters. -/
structure RolledBack (move : RequestedMove) (deviceIds : List String)
    (back : List (Relocation String String)) (before after : MoveProgress) : Prop where
  items : back.map Relocation.item = deviceIds
  backward : ∀ call ∈ back, call.isForward = false ∧ call.target = move.sourceNodeId
  log : after.log = before.log ++ back
  rolledBack : after.rolledBack = before.rolledBack + back.countP Relocation.succeeded
  succeeded : after.succeeded = before.succeeded - back.countP Relocation.succeeded
  rollbackFailed : after.rollbackFailed = before.rollbackFailed + failedUndos back
  attempted : after.attempted = before.attempted
  failed : after.failed = before.failed
  budget : after.remainingBudget = before.remainingBudget

theorem rolledBack_nothing (progress : MoveProgress) : RolledBack move [] [] progress progress :=
  ⟨rfl, fun _ absent => absurd absent List.not_mem_nil, (List.append_nil _).symm, rfl, rfl, rfl, rfl,
    rfl, rfl⟩

theorem rollbackDevice_rolledBack (progress : MoveProgress) (deviceId : String) :
    RolledBack move [deviceId]
      [migratePeerCall assigned outcomes progress.log deviceId move.sourceNodeId false] progress
      (rollbackDevice assigned outcomes move progress deviceId) := by
  unfold rollbackDevice
  dsimp only
  cases outcome : (migratePeerCall assigned outcomes progress.log deviceId move.sourceNodeId
      false).succeeded with
  | true =>
      refine ⟨rfl, ?_, rfl, ?_, ?_, ?_, rfl, rfl, rfl⟩
      · intro call member
        obtain rfl := List.mem_singleton.mp member
        exact ⟨rfl, rfl⟩
      · rw [List.countP_cons_of_pos outcome]
        rfl
      · rw [List.countP_cons_of_pos outcome]
        dsimp only [List.countP_nil]
        simp only [if_true]
        split
        · rfl
        · omega
      · rw [failedUndos, List.countP_cons_of_neg (by simp [outcome])]
        rfl
  | false =>
      refine ⟨rfl, ?_, rfl, ?_, ?_, ?_, rfl, rfl, rfl⟩
      · intro call member
        obtain rfl := List.mem_singleton.mp member
        exact ⟨rfl, rfl⟩
      · rw [List.countP_cons_of_neg (by simp [outcome])]
        rfl
      · rw [List.countP_cons_of_neg (by simp [outcome])]
        rfl
      · have backward : (migratePeerCall assigned outcomes progress.log deviceId move.sourceNodeId
            false).isForward = false := rfl
        rw [failedUndos, List.countP_cons_of_pos (by rw [outcome, backward]; rfl)]
        rfl

theorem RolledBack.trans {first second : List String}
    {firstBack secondBack : List (Relocation String String)} {start between after : MoveProgress}
    (former : RolledBack move first firstBack start between)
    (latter : RolledBack move second secondBack between after) :
    RolledBack move (first ++ second) (firstBack ++ secondBack) start after := by
  refine ⟨?_, ?_, ?_, ?_, ?_, ?_, ?_, ?_, ?_⟩
  · rw [List.map_append, former.items, latter.items]
  · intro call member
    rcases List.mem_append.mp member with early | late
    · exact former.backward call early
    · exact latter.backward call late
  · rw [latter.log, former.log, List.append_assoc]
  · rw [latter.rolledBack, former.rolledBack, List.countP_append, Nat.add_assoc]
  · rw [latter.succeeded, former.succeeded, List.countP_append, Nat.sub_sub]
  · rw [latter.rollbackFailed, former.rollbackFailed, failedUndos_append, Nat.add_assoc]
  · rw [latter.attempted, former.attempted]
  · rw [latter.failed, former.failed]
  · rw [latter.budget, former.budget]

theorem foldl_rollbackDevice (deviceIds : List String) (progress : MoveProgress) :
    ∃ back, RolledBack move deviceIds back progress
      (deviceIds.foldl (rollbackDevice assigned outcomes move) progress) := by
  induction deviceIds generalizing progress with
  | nil => exact ⟨[], rolledBack_nothing progress⟩
  | cons deviceId rest ih =>
      obtain ⟨back, later⟩ := ih (rollbackDevice assigned outcomes move progress deviceId)
      exact ⟨_, (rollbackDevice_rolledBack progress deviceId).trans later⟩

variable (options) in
/-- The devices a failure rolls back. -/
def rolledBackDevices (progress : MoveProgress) : List String :=
  if options.rollbackOnError then progress.migratedDevices.reverse else []

theorem rollbackMove_rolledBack (progress : MoveProgress) :
    (∃ back, RolledBack move (rolledBackDevices options progress) back progress
      (rollbackMove options assigned outcomes move progress)) ∧
      (rollbackMove options assigned outcomes move progress).migratedDevices =
        if options.rollbackOnError then [] else progress.migratedDevices := by
  cases asked : options.rollbackOnError with
  | false =>
      have unasked : rollbackMove options assigned outcomes move progress = progress := by
        rw [rollbackMove, if_neg (by simp [asked])]
      rw [unasked, rolledBackDevices, asked]
      exact ⟨⟨[], rolledBack_nothing progress⟩, rfl⟩
  | true =>
      rw [rolledBackDevices, asked, if_pos rfl, if_pos rfl]
      by_cases nobody : progress.migratedDevices = []
      · have unneeded : rollbackMove options assigned outcomes move progress = progress := by
          rw [rollbackMove, if_neg (fun both => both.2 nobody)]
        rw [unneeded, nobody]
        exact ⟨⟨[], rolledBack_nothing progress⟩, rfl⟩
      · obtain ⟨back, items, backward, log, rolledBack, succeeded, rollbackFailed, attempted, failed,
          budget⟩ := @foldl_rollbackDevice assigned outcomes move progress.migratedDevices.reverse
            progress
        rw [rollbackMove, if_pos ⟨asked, nobody⟩]
        exact ⟨⟨back, items, backward, log, rolledBack, succeeded, rollbackFailed, attempted, failed,
          budget⟩, rfl⟩

end Rollback

/-! ### The loop over the devices -/

section Move

variable (options : ExecutionOptions) (move : RequestedMove) (assigned : String → String)
  (budget : Int)

/-- The books after some devices were tried. -/
structure MoveBooks (tried : List String) (progress : MoveProgress) : Prop where
  items : forwardItems progress.log = tried
  attempted : progress.attempted = tried.length
  balance : progress.attempted = progress.succeeded + progress.failed + progress.rolledBack
  onTarget : progress.succeeded = tried.countP (fun deviceId =>
    placeAfter assigned progress.log deviceId = move.targetNodeId)
  calls : ∀ call ∈ progress.log, call.item ∈ tried
  migratedDistinct : progress.migratedDevices.Nodup
  migrated : ∀ deviceId ∈ progress.migratedDevices,
    deviceId ∈ tried ∧ placeAfter assigned progress.log deviceId = move.targetNodeId
  accounted : ∀ call ∈ progress.log, call.isForward = true → call.succeeded = true →
    call.item ∈ progress.migratedDevices ∨
      placeAfter assigned progress.log call.item = move.sourceNodeId ∨
      Stranded progress.log call.item
  counted : progress.rollbackFailed = failedUndos progress.log
  undoneOnce : (backwardItems progress.log).Nodup
  notUndone : ∀ deviceId ∈ progress.migratedDevices, deviceId ∉ backwardItems progress.log
  budget : progress.remainingBudget + forwardSuccesses progress.log = budget
  failures : progress.failed = 0 ↔ hasFailure progress.log = false
  restored : options.rollbackOnError = true →
    RestoredUnlessStranded assigned move.sourceNodeId progress.log

variable {options move assigned budget} {outcomes : Nat → Bool} {tried : List String}
  {progress : MoveProgress} {deviceId : String}

theorem moveBooks_start (stopReason : Option String) :
    MoveBooks options move assigned budget []
      ⟨0, 0, 0, 0, 0, [], "completed", budget, stopReason, []⟩ := by
  refine ⟨rfl, rfl, rfl, rfl, nofun, List.nodup_nil, nofun, nofun, rfl, List.nodup_nil, nofun, ?_, ?_,
    ?_⟩
  · exact Int.add_zero budget
  · exact ⟨fun _ => rfl, fun _ => rfl⟩
  · intro _ earlier failure back failureIn
    exact absurd failureIn not_failureIn_nil

theorem MoveBooks.success (books : MoveBooks options move assigned budget tried progress)
    (fresh : deviceId ∉ tried) :
    MoveBooks options move assigned budget (tried ++ [deviceId])
      { progress with
        attempted := progress.attempted + 1
        log := progress.log ++ [⟨deviceId, move.targetNodeId, true, true⟩]
        succeeded := progress.succeeded + 1
        migratedDevices := progress.migratedDevices ++ [deviceId]
        remainingBudget := progress.remainingBudget - 1 } := by
  have stays : ∀ other ∈ tried, placeAfter assigned (progress.log ++
      [⟨deviceId, move.targetNodeId, true, true⟩]) other = placeAfter assigned progress.log other := by
    intro other member
    rw [placeAfter_concat]
    apply relocate_other
    intro same
    have isNew : deviceId = other := same
    exact absurd (isNew ▸ member) fresh
  have arrives : placeAfter assigned (progress.log ++ [⟨deviceId, move.targetNodeId, true, true⟩])
      deviceId = move.targetNodeId := by
    rw [placeAfter_concat]
    exact @relocate_self _ _ _ (placeAfter assigned progress.log)
      ⟨deviceId, move.targetNodeId, true, true⟩ rfl
  have sameUndone : backwardItems (progress.log ++ [⟨deviceId, move.targetNodeId, true, true⟩]) =
      backwardItems progress.log := by
    rw [backwardItems_append]
    exact List.append_nil _
  constructor
  · rw [forwardItems_append, books.items]
    rfl
  · rw [List.length_append, ← books.attempted]
    rfl
  · have balance := books.balance
    dsimp only
    omega
  · have sameCount : tried.countP (fun other => placeAfter assigned (progress.log ++
        [⟨deviceId, move.targetNodeId, true, true⟩]) other = move.targetNodeId) =
        tried.countP (fun other => placeAfter assigned progress.log other = move.targetNodeId) := by
      apply List.countP_congr
      intro other member
      rw [stays other member]
    rw [List.countP_append, sameCount, ← books.onTarget, List.countP_cons_of_pos (by simp [arrives])]
    rfl
  · intro call member
    rcases List.mem_append.mp member with early | late
    · exact List.mem_append_left _ (books.calls call early)
    · obtain rfl := List.mem_singleton.mp late
      exact List.mem_append_right tried List.mem_cons_self
  · refine List.nodup_append.mpr ⟨books.migratedDistinct, List.nodup_singleton deviceId, ?_⟩
    rintro other member _ late rfl
    obtain rfl := List.mem_singleton.mp late
    exact fresh (books.migrated other member).1
  · intro other member
    rcases List.mem_append.mp member with early | late
    · obtain ⟨wasTried, there⟩ := books.migrated other early
      exact ⟨List.mem_append_left _ wasTried, (stays other wasTried).trans there⟩
    · obtain rfl := List.mem_singleton.mp late
      exact ⟨List.mem_append_right tried List.mem_cons_self, arrives⟩
  · intro call member forward succeeded
    rcases List.mem_append.mp member with early | late
    · rcases books.accounted call early forward succeeded with migrated | back | stranded
      · exact Or.inl (List.mem_append_left _ migrated)
      · exact Or.inr (Or.inl ((stays call.item (books.calls call early)).trans back))
      · obtain ⟨other, inLog, backward, same, failed⟩ := stranded
        exact Or.inr (Or.inr ⟨other, List.mem_append_left _ inLog, backward, same, failed⟩)
    · obtain rfl := List.mem_singleton.mp late
      exact Or.inl (List.mem_append_right _ List.mem_cons_self)
  · rw [failedUndos_append]
    exact books.counted
  · rw [sameUndone]
    exact books.undoneOnce
  · intro other member
    rw [sameUndone]
    rcases List.mem_append.mp member with early | late
    · exact books.notUndone other early
    · obtain rfl := List.mem_singleton.mp late
      intro undone
      obtain ⟨call, inLog, same⟩ := mem_backwardItems undone
      exact fresh (same ▸ books.calls call inLog)
  · have spent := books.budget
    have one : forwardSuccesses [(⟨deviceId, move.targetNodeId, true, true⟩ :
        Relocation String String)] = 1 := rfl
    rw [forwardSuccesses_append, one]
    dsimp only
    omega
  · have sameFailures : hasFailure (progress.log ++
        [⟨deviceId, move.targetNodeId, true, true⟩]) = hasFailure progress.log := by
      rw [hasFailure, List.any_append]
      exact Bool.or_false _
    rw [sameFailures]
    exact books.failures
  · intro asked earlier failure back failureIn
    rcases failureIn_append rfl (fun _ absent => absurd absent List.not_mem_nil) failureIn with
      before | ⟨_, _, _, failed⟩
    · exact books.restored asked earlier failure back before
    · cases failed

/-- What is known of the devices after a failure and its roll-back. -/
theorem MoveBooks.afterRollback (books : MoveBooks options move assigned budget tried progress)
    (different : move.sourceNodeId ≠ move.targetNodeId) {failure : Relocation String String}
    (failed : failure.succeeded = false) {back : List (Relocation String String)}
    (backItems : back.map Relocation.item = rolledBackDevices options progress)
    (backward : ∀ call ∈ back, call.isForward = false ∧ call.target = move.sourceNodeId)
    {call : Relocation String String} (member : call ∈ progress.log)
    (forward : call.isForward = true) (succeeded : call.succeeded = true) :
    (options.rollbackOnError = false ∧ call.item ∈ progress.migratedDevices) ∨
      placeAfter assigned (progress.log ++ failure :: back) call.item = move.sourceNodeId ∨
      Stranded progress.log call.item ∨
      ∃ other ∈ back, other.item = call.item ∧ other.succeeded = false := by
  have atFailure : placeAfter assigned (progress.log ++ failure :: back) =
      placeAfter (placeAfter assigned progress.log) back := by
    have unmoved : relocate (placeAfter assigned progress.log) failure =
        placeAfter assigned progress.log := by
      rw [relocate, failed]
      rfl
    rw [placeAfter_append]
    exact congrArg (fun place => placeAfter place back) unmoved
  rw [atFailure]
  rcases books.accounted call member forward succeeded with migrated | home | stranded
  · cases asked : options.rollbackOnError with
    | false => exact Or.inl ⟨rfl, migrated⟩
    | true =>
        right
        have inBack : call.item ∈ back.map Relocation.item := by
          rw [backItems, rolledBackDevices, asked, if_pos rfl]
          exact List.mem_reverse.mpr migrated
        obtain ⟨other, isBack, same⟩ := List.mem_map.mp inBack
        cases outcome : other.succeeded with
        | false => exact Or.inr (Or.inr ⟨other, isBack, same, outcome⟩)
        | true =>
            left
            exact placeAfter_of_succeeded (fun undo isUndo _ => (backward undo isUndo).2)
              ⟨other, isBack, same, outcome⟩
  · right
    left
    rw [placeAfter_untouched]
    · exact home
    · -- what is rolled back is on the target
      intro other isBack same
      have inBack := List.mem_map_of_mem (f := Relocation.item) isBack
      rw [backItems, rolledBackDevices] at inBack
      split at inBack
      · have there := (books.migrated other.item (List.mem_reverse.mp inBack)).2
        rw [same, home] at there
        exact absurd there different
      · cases inBack
  · exact Or.inr (Or.inr (Or.inl stranded))

theorem MoveBooks.failure (books : MoveBooks options move assigned budget tried progress)
    (fresh : deviceId ∉ tried) (distinct : tried.Nodup)
    (notThere : placeAfter assigned progress.log deviceId ≠ move.targetNodeId)
    (different : move.sourceNodeId ≠ move.targetNodeId) {status : String}
    {back : List (Relocation String String)} {after : MoveProgress}
    (rolled : RolledBack move (rolledBackDevices options progress) back
      { progress with
        attempted := progress.attempted + 1
        log := progress.log ++ [⟨deviceId, move.targetNodeId, true, false⟩]
        failed := progress.failed + 1
        status := status } after)
    (cleared : after.migratedDevices =
      if options.rollbackOnError then [] else progress.migratedDevices) :
    MoveBooks options move assigned budget (tried ++ [deviceId]) after := by
  obtain ⟨backItems, backward, log, rolledBack, succeeded, rollbackFailed, attempted, failed,
    spent⟩ := rolled
  dsimp only at log rolledBack succeeded rollbackFailed attempted failed spent
  rw [List.append_assoc, List.singleton_append] at log
  have failedCall : (⟨deviceId, move.targetNodeId, true, false⟩ :
      Relocation String String).succeeded = false := rfl
  have onlyBack : ∀ call ∈ back, call.isForward = false := fun call member => (backward call member).1
  have atFailure : placeAfter assigned after.log =
      placeAfter (placeAfter assigned progress.log) back := by
    rw [log, placeAfter_append]
    rfl
  have backInside : ∀ call ∈ back, call.item ∈ progress.migratedDevices := by
    intro call member
    have inBack := List.mem_map_of_mem (f := Relocation.item) member
    rw [backItems, rolledBackDevices] at inBack
    split at inBack
    · exact List.mem_reverse.mp inBack
    · cases inBack
  have backApart : (back.map Relocation.item).Nodup := by
    rw [backItems, rolledBackDevices]
    split
    · exact List.nodup_reverse.mpr books.migratedDistinct
    · exact List.nodup_nil
  have triedDistinct : (tried ++ [deviceId]).Nodup := by
    refine List.nodup_append.mpr ⟨distinct, List.nodup_singleton deviceId, ?_⟩
    rintro other member _ late rfl
    obtain rfl := List.mem_singleton.mp late
    exact fresh member
  have leaves := @countP_placeAfter String String _ _ (tried ++ [deviceId])
    (placeAfter assigned progress.log) move.targetNodeId back triedDistinct backApart (by
      intro call member
      obtain ⟨wasTried, there⟩ := books.migrated call.item (backInside call member)
      refine ⟨List.mem_append_left _ wasTried, there, ?_⟩
      rw [(backward call member).2]
      exact different)
  have beforeBack : (tried ++ [deviceId]).countP (fun other =>
      placeAfter assigned progress.log other = move.targetNodeId) = progress.succeeded := by
    rw [List.countP_append, ← books.onTarget, List.countP_cons_of_neg (by simpa using notThere),
      List.countP_nil, Nat.add_zero]
  rw [beforeBack, ← atFailure] at leaves
  have balance := books.balance
  have undone : backwardItems after.log =
      backwardItems progress.log ++ back.map Relocation.item := by
    have none : backwardItems ((⟨deviceId, move.targetNodeId, true, false⟩ :
        Relocation String String) :: back) = backwardItems back := rfl
    rw [log, backwardItems_append, none, backwardItems_backward onlyBack]
  constructor
  · rw [log, forwardItems_append, books.items]
    have one : forwardItems ((⟨deviceId, move.targetNodeId, true, false⟩ :
        Relocation String String) :: back) = deviceId :: forwardItems back := rfl
    rw [one, forwardItems_backward onlyBack]
  · rw [attempted, List.length_append, ← books.attempted]
    rfl
  · omega
  · omega
  · intro call member
    rw [log] at member
    rcases List.mem_append.mp member with early | late
    · exact List.mem_append_left _ (books.calls call early)
    · rcases List.mem_cons.mp late with rfl | isBack
      · exact List.mem_append_right tried List.mem_cons_self
      · exact List.mem_append_left _ (books.migrated call.item (backInside call isBack)).1
  · rw [cleared]
    split
    · exact List.nodup_nil
    · exact books.migratedDistinct
  · intro other member
    rw [cleared] at member
    split at member
    · cases member
    · rename_i unasked
      have nobody : back = [] := by
        rw [rolledBackDevices, if_neg unasked] at backItems
        exact List.map_eq_nil_iff.mp backItems
      obtain ⟨wasTried, there⟩ := books.migrated other member
      refine ⟨List.mem_append_left _ wasTried, ?_⟩
      rw [atFailure, nobody]
      exact there
  · intro call member forward moved
    rw [log] at member
    rcases List.mem_append.mp member with early | late
    · rw [cleared, log]
      rcases books.afterRollback different failedCall backItems backward early forward moved with
        ⟨unasked, migrated⟩ | home | stranded | ⟨other, isBack, same, notMoved⟩
      · rw [unasked]
        exact Or.inl migrated
      · exact Or.inr (Or.inl home)
      · obtain ⟨other, inLog, undoes, same, notMoved⟩ := stranded
        exact Or.inr (Or.inr ⟨other, List.mem_append_left _ inLog, undoes, same, notMoved⟩)
      · exact Or.inr (Or.inr ⟨other,
          List.mem_append_right _ (List.mem_cons_of_mem _ isBack), onlyBack other isBack, same,
          notMoved⟩)
    · rcases List.mem_cons.mp late with rfl | isBack
      · cases moved
      · rw [onlyBack call isBack] at forward
        cases forward
  · have none : failedUndos ((⟨deviceId, move.targetNodeId, true, false⟩ :
        Relocation String String) :: back) = failedUndos back := rfl
    rw [rollbackFailed, log, failedUndos_append, none, books.counted]
  · rw [undone]
    refine List.nodup_append.mpr ⟨books.undoneOnce, backApart, ?_⟩
    rintro other early _ late rfl
    obtain ⟨call, isBack, rfl⟩ := List.mem_map.mp late
    exact books.notUndone call.item (backInside call isBack) early
  · intro other member
    rw [cleared] at member
    split at member
    · cases member
    · rename_i unasked
      rw [rolledBackDevices, if_neg unasked] at backItems
      rw [undone, backItems, List.append_nil]
      exact books.notUndone other member
  · have before := books.budget
    have none : forwardSuccesses ((⟨deviceId, move.targetNodeId, true, false⟩ :
        Relocation String String) :: back) = forwardSuccesses back := rfl
    rw [log, spent, forwardSuccesses_append, none, forwardSuccesses_backward onlyBack]
    omega
  · have fails : hasFailure after.log = true := by
      rw [log, hasFailure, List.any_append, List.any_cons]
      simp
    rw [failed, fails]
    exact iff_of_false (Nat.succ_ne_zero _) Bool.noConfusion
  · intro asked earlier other undoing failureIn call member forward moved
    rw [log] at failureIn
    rcases failureIn_append rfl onlyBack failureIn with before | ⟨rfl, rfl, rfl, _⟩
    · exact books.restored asked earlier other undoing before call member forward moved
    · rcases books.afterRollback different failedCall backItems backward member forward moved with
        ⟨unasked, _⟩ | home | stranded | ⟨undo, isBack, same, notMoved⟩
      · rw [asked] at unasked
        cases unasked
      · exact Or.inl home
      · obtain ⟨undo, inLog, undoes, same, notMoved⟩ := stranded
        exact Or.inr ⟨undo, List.mem_append_left _ inLog, undoes, same, notMoved⟩
      · exact Or.inr ⟨undo, List.mem_append_right _ isBack, onlyBack undo isBack, same, notMoved⟩

/-- The books do not read the status. -/
theorem MoveBooks.relabel (books : MoveBooks options move assigned budget tried progress)
    (status : String) (stopReason : Option String) :
    MoveBooks options move assigned budget tried
      { progress with status := status, stopReason := stopReason } :=
  ⟨books.items, books.attempted, books.balance, books.onTarget, books.calls, books.migratedDistinct,
    books.migrated, books.accounted, books.counted, books.undoneOnce, books.notUndone, books.budget,
    books.failures, books.restored⟩

/-- The loop keeps the books of the devices it has tried, and stops where that is asked for. -/
theorem migrateDevices_books {devices : List String}
    (books : MoveBooks options move assigned budget tried progress)
    (distinct : (tried ++ devices).Nodup)
    (different : move.sourceNodeId ≠ move.targetNodeId) :
    (∃ taken, taken <+: devices ∧ MoveBooks options move assigned budget (tried ++ taken)
      (migrateDevices options assigned outcomes move devices progress)) ∧
    (options.stopOnError = true → hasFailure progress.log = false →
      StopsAtFailure (migrateDevices options assigned outcomes move devices progress).log) := by
  induction devices generalizing tried progress with
  | nil =>
      refine ⟨⟨[], List.prefix_rfl, ?_⟩, fun _ noFailure => stopsAtFailure_of_none noFailure⟩
      rw [List.append_nil]
      exact books
  | cons deviceId rest ih =>
      have reassociated : tried ++ deviceId :: rest = (tried ++ [deviceId]) ++ rest := by simp
      obtain ⟨triedDistinct, -, apart⟩ := List.nodup_append.mp distinct
      have fresh : deviceId ∉ tried :=
        fun member => apart deviceId member deviceId List.mem_cons_self rfl
      have laterDistinct : ((tried ++ [deviceId]) ++ rest).Nodup := reassociated ▸ distinct
      have extended : ∀ taken : List String, taken <+: rest → deviceId :: taken <+: deviceId :: rest :=
        fun taken within => (List.prefix_cons_inj deviceId).mpr within
      have regrouped : ∀ taken : List String,
          tried ++ deviceId :: taken = (tried ++ [deviceId]) ++ taken := by simp
      rw [migrateDevices]
      cases outcome : (decide (placeAfter assigned progress.log deviceId = move.targetNodeId) ||
          outcomes progress.log.length) with
      | true =>
          have call : migratePeerCall assigned outcomes progress.log deviceId move.targetNodeId true =
              ⟨deviceId, move.targetNodeId, true, true⟩ := by rw [migratePeerCall, outcome]
          simp only [call, if_true]
          obtain ⟨⟨taken, within, kept⟩, stops⟩ := ih (books.success fresh) laterDistinct
          refine ⟨⟨deviceId :: taken, extended taken within, ?_⟩, ?_⟩
          · rw [regrouped]
            exact kept
          · intro asked noFailure
            refine stops asked ?_
            rw [hasFailure_append, noFailure]
            rfl
      | false =>
          have call : migratePeerCall assigned outcomes progress.log deviceId move.targetNodeId true =
              ⟨deviceId, move.targetNodeId, true, false⟩ := by rw [migratePeerCall, outcome]
          simp only [call, Bool.false_eq_true, if_false]
          obtain ⟨⟨back, rolled⟩, cleared⟩ := @rollbackMove_rolledBack options assigned outcomes
            move
            { progress with
              attempted := progress.attempted + 1
              log := progress.log ++ [⟨deviceId, move.targetNodeId, true, false⟩]
              failed := progress.failed + 1
              status := "failed" }
          have notThere := of_decide_eq_false (Bool.or_eq_false_iff.mp outcome).1
          have kept := books.failure fresh triedDistinct notThere different rolled cleared
          have log := rolled.log
          dsimp only at kept log
          generalize rollbackMove options assigned outcomes move _ = after at kept log
          split
          · refine ⟨⟨[deviceId], extended [] List.nil_prefix, kept.relabel _ _⟩, ?_⟩
            intro _ noFailure
            dsimp only
            rw [log, List.append_assoc]
            exact StopsAtFailure.append noFailure
              (stopsAtFailure_cons (fun undo member => (rolled.backward undo member).1))
          · rename_i unasked
            obtain ⟨⟨taken, within, later⟩, _⟩ := ih kept laterDistinct
            refine ⟨⟨deviceId :: taken, extended taken within, ?_⟩, ?_⟩
            · rw [regrouped]
              exact later
            · intro asked
              exact absurd asked unasked

end Move

/-! ### The plan -/

section Plan

variable (settings : ExecutionSettings) (options : ExecutionOptions)
  (population : DevicePopulation)

/-- The laws of a move that was executed. -/
structure KeepsBooks (executed : ExecutedMove) : Prop where
  attempts : executed.result.attempted = (forwardItems executed.log).length
  balance : executed.result.attempted =
    executed.result.succeeded + executed.result.failed + executed.result.rolledBack
  within : (executed.result.attempted : Int) ≤ min executed.result.requested options.batchSize
  onTarget : executed.result.succeeded = (forwardItems executed.log).countP (fun deviceId =>
    executed.after deviceId = executed.move.targetNodeId)
  notEnterprise : ∀ call ∈ executed.log, ∀ row ∈ population.rows, row.deviceId = call.item →
    isEnterprisePlanName settings row.planName = false
  counted : executed.result.rollbackFailed = failedUndos executed.log
  undoneOnce : (backwardItems executed.log).Nodup
  restored : options.rollbackOnError = true →
    RestoredUnlessStranded executed.before executed.move.sourceNodeId executed.log

/-- The calls of all moves. -/
def planLog (executed : List ExecutedMove) : List (Relocation String String) :=
  executed.flatMap ExecutedMove.log

theorem planLog_concat (executed : List ExecutedMove) (last : ExecutedMove) :
    planLog (executed ++ [last]) = planLog executed ++ last.log := by
  rw [planLog, List.flatMap_append, List.flatMap_singleton]
  rfl

structure PlanBooks (progress : PlanProgress) : Prop where
  each : ∀ executed ∈ progress.executed, KeepsBooks settings options population executed
  spent : progress.remainingBudget + forwardSuccesses (planLog progress.executed) =
    max 0 options.maxExecutionsPerCycle
  budget : 0 ≤ progress.remainingBudget

variable {settings options population} {now : Int} {listPeers : Nat → Option (List RuntimePeer)}
  {outcomes : Nat → Bool} {stored : String → String} {progress : PlanProgress} {move : RequestedMove}

/-- What is known of the devices a move takes. -/
theorem candidateDevices_spec {sourceNodeId : String} {listing : Option (List RuntimePeer)} :
    ((candidateDevices settings population stored sourceNodeId listing now).map
      MigrationRow.deviceId).Nodup ∧
    ∀ row ∈ candidateDevices settings population stored sourceNodeId listing now,
      row ∈ population.rows ∧ isEnterprisePlanName settings row.planName = false := by
  have sorted : (candidateDevices settings population stored sourceNodeId listing now).Perm
      ((activeRows population stored sourceNodeId).filter (fun row =>
        ¬ isEnterprisePlanName settings row.planName)) := List.perm_insertionSort _ _
  have selected : (activeRows population stored sourceNodeId).Perm
      (population.rows.filter (fun row => stored row.deviceId = sourceNodeId ∧ ¬ row.isRevoked ∧
        row.subscriptionStatus = "active")) := List.perm_insertionSort _ _
  constructor
  · rw [(sorted.map MigrationRow.deviceId).nodup_iff]
    have within := (List.filter_sublist (l := activeRows population stored sourceNodeId)
      (p := fun row => ¬ isEnterprisePlanName settings row.planName)).map MigrationRow.deviceId
    refine List.Nodup.sublist within ?_
    rw [(selected.map MigrationRow.deviceId).nodup_iff]
    exact population.distinct.sublist (List.filter_sublist.map MigrationRow.deviceId)
  · intro row member
    obtain ⟨isActive, plain⟩ := List.mem_filter.mp (sorted.mem_iff.mp member)
    obtain ⟨inRows, _⟩ := List.mem_filter.mp (selected.mem_iff.mp isActive)
    exact ⟨inRows, by simpa using plain⟩

/-- A move keeps its books, within the budget. -/
theorem executeMove_books (books : PlanBooks settings options population progress)
    (different : move.sourceNodeId ≠ move.targetNodeId)
    (limited : 0 < moveLimit options move progress.remainingBudget)
    {next : PlanProgress}
    (isNext : next = executeMove settings options now listPeers outcomes population stored progress
      move) :
    PlanBooks settings options population next ∧
      (options.stopOnError = true → hasFailure (planLog progress.executed) = false →
        StopsAtFailure (planLog next.executed) ∧
          (stopsAfter options next = false → hasFailure (planLog next.executed) = false)) := by
  subst isNext
  unfold executeMove
  dsimp only
  obtain ⟨allDistinct, allKnown⟩ := @candidateDevices_spec settings population now stored
    move.sourceNodeId (listPeers progress.executed.length)
  generalize candidateDevices settings population stored move.sourceNodeId
    (listPeers progress.executed.length) now = candidates at allDistinct allKnown
  have distinct : ((candidates.take (moveLimit options move
      progress.remainingBudget).toNat).map MigrationRow.deviceId).Nodup :=
    allDistinct.sublist ((List.take_sublist _ _).map MigrationRow.deviceId)
  have known : ∀ deviceId ∈ (candidates.take (moveLimit options move
      progress.remainingBudget).toNat).map MigrationRow.deviceId,
      ∃ row ∈ population.rows, row.deviceId = deviceId ∧
        isEnterprisePlanName settings row.planName = false := by
    intro deviceId member
    obtain ⟨row, taken, rfl⟩ := List.mem_map.mp member
    obtain ⟨inRows, plain⟩ := allKnown row (List.take_subset _ _ taken)
    exact ⟨row, inRows, rfl, plain⟩
  have few : ((candidates.take (moveLimit options move
      progress.remainingBudget).toNat).map MigrationRow.deviceId).length ≤
        (moveLimit options move progress.remainingBudget).toNat := by
    rw [List.length_map, List.length_take]
    exact Nat.min_le_left _ _
  generalize (candidates.take (moveLimit options move
    progress.remainingBudget).toNat).map MigrationRow.deviceId = devices at distinct known few
  have start := @moveBooks_start options move progress.assigned progress.remainingBudget
    progress.stopReason
  obtain ⟨⟨taken, within, kept⟩, stops⟩ := @migrateDevices_books options move progress.assigned
    progress.remainingBudget (fun call => outcomes (progress.calls + call)) [] _ devices start
    distinct different
  generalize migrateDevices options progress.assigned (fun call => outcomes (progress.calls + call))
    move devices ⟨0, 0, 0, 0, 0, [], "completed", progress.remainingBudget, progress.stopReason, []⟩
    = moved at kept stops
  rw [List.nil_append] at kept
  have fewer := within.length_le
  have moveSpent := kept.budget
  have planSpent := books.spent
  have enough := books.budget
  have successes := forwardSuccesses_le moved.log
  rw [kept.items] at successes
  unfold moveLimit at limited few
  refine ⟨⟨?_, ?_, ?_⟩, ?_⟩
  · intro executed member
    rcases List.mem_append.mp member with early | late
    · exact books.each executed early
    · obtain rfl := List.mem_singleton.mp late
      constructor
      · dsimp only [executionOf]
        rw [kept.attempted, kept.items]
      · exact kept.balance
      · dsimp only [executionOf]
        rw [kept.attempted]
        omega
      · dsimp only [executionOf]
        rw [kept.onTarget, kept.items]
        rfl
      · intro call inLog row inRows same
        obtain ⟨other, isRow, isDevice, plain⟩ :=
          known call.item (within.subset (kept.calls call inLog))
        have found := Dict.find?_key population.distinct inRows
        rw [same, ← isDevice, Dict.find?_key population.distinct isRow] at found
        rw [← Option.some.inj found]
        exact plain
      · exact kept.counted
      · exact kept.undoneOnce
      · exact kept.restored
  · dsimp only
    rw [planLog_concat, forwardSuccesses_append]
    dsimp only
    omega
  · dsimp only
    omega
  · intro asked noFailure
    rw [planLog_concat]
    refine ⟨StopsAtFailure.append noFailure (stops asked rfl), ?_⟩
    intro goesOn
    rw [stopsAfter, asked, Bool.true_and] at goesOn
    dsimp only at goesOn
    rw [List.getLast?_concat, Option.any_some, decide_eq_false_iff_not, Nat.not_lt, Nat.le_zero]
      at goesOn
    rw [hasFailure_append, noFailure, kept.failures.mp goesOn]
    rfl

/-- The whole plan keeps its books. -/
theorem executeMoves_books {moves : List RequestedMove}
    (books : PlanBooks settings options population progress)
    (different : ∀ move ∈ moves, move.sourceNodeId ≠ move.targetNodeId)
    (noFailure : options.stopOnError = true → hasFailure (planLog progress.executed) = false) :
    PlanBooks settings options population
        (executeMoves settings options now listPeers outcomes population stored moves progress) ∧
      (options.stopOnError = true → StopsAtFailure (planLog
        (executeMoves settings options now listPeers outcomes population stored moves progress).executed)) := by
  induction moves generalizing progress with
  | nil => exact ⟨books, fun asked => stopsAtFailure_of_none (noFailure asked)⟩
  | cons move rest ih =>
      have later := fun other member => different other (List.mem_cons_of_mem move member)
      rw [executeMoves]
      split
      · exact ⟨⟨books.each, books.spent, books.budget⟩,
          fun asked => stopsAtFailure_of_none (noFailure asked)⟩
      · split
        · exact ih books later noFailure
        · rename_i limited
          obtain ⟨kept, stops⟩ := @executeMove_books settings options population now listPeers
            outcomes stored progress move books (different move List.mem_cons_self) (Int.not_le.mp limited)
            _ rfl
          dsimp only
          split
          · exact ⟨kept, fun asked => (stops asked (noFailure asked)).1⟩
          · rename_i goesOn
            exact ih kept later (fun asked =>
              (stops asked (noFailure asked)).2 (Bool.not_eq_true _ ▸ goesOn))

variable (settings options population) in
/-- The laws of an execution: of every move, of the budget and of stopping. -/
structure ExecutionLaws (progress : PlanProgress) : Prop where
  each : ∀ executed ∈ progress.executed, KeepsBooks settings options population executed
  limit : (forwardSuccesses (planLog progress.executed) : Int) ≤ max 0 options.maxExecutionsPerCycle
  stops : options.stopOnError = true → StopsAtFailure (planLog progress.executed)

/-- Executing a plan keeps its books and its limits. -/
theorem execution_keeps_books (settings : ExecutionSettings) (options : ExecutionOptions) (now : Int)
    (listPeers : Nat → Option (List RuntimePeer)) (outcomes : Nat → Bool)
    (population : DevicePopulation) (stored : String → String) (moves : List RequestedMove)
    (different : ∀ move ∈ moves, move.sourceNodeId ≠ move.targetNodeId) :
    ExecutionLaws settings options population
      (executedMoves settings options now listPeers outcomes population stored moves) := by
  have start : PlanBooks settings options population
      ⟨max 0 options.maxExecutionsPerCycle, none, false, stored, 0, []⟩ := by
    refine ⟨nofun, ?_, ?_⟩
    · exact Int.add_zero _
    · dsimp only
      omega
  obtain ⟨books, stops⟩ := @executeMoves_books settings options population now listPeers outcomes
    stored _ moves start different (fun _ => rfl)
  refine ⟨books.each, ?_, stops⟩
  have spent := books.spent
  have enough := books.budget
  rw [executedMoves]
  omega

end Plan

/-! ### A device that a roll-back gives up on -/

def sampleMigrationRow (deviceId planName : String) : MigrationRow :=
  ⟨deviceId, deviceId, false, "active", planName, 0⟩

def samplePopulation : DevicePopulation where
  rows := [sampleMigrationRow "dev-1" "Personal", sampleMigrationRow "dev-2" "Personal",
    sampleMigrationRow "dev-3" "Personal", sampleMigrationRow "dev-4" "Personal",
    sampleMigrationRow "dev-5" "enterprise gold"]
  distinct := by decide

def sampleExecutionSettings : ExecutionSettings := ⟨id, "enterprise", 300, 10485760⟩

/-- Failures are rolled back, and do not stop the plan. -/
def sampleExecutionOptions : ExecutionOptions := ⟨25, 100, false, true⟩

def sampleExecution (outcomes : Nat → Bool) : PlanProgress :=
  executedMoves sampleExecutionSettings sampleExecutionOptions 0 (fun _ => none) outcomes
    samplePopulation (fun _ => "node-a") [⟨"node-a", "node-b", 5⟩]

theorem sample_execution_laws :
    ExecutionLaws sampleExecutionSettings sampleExecutionOptions samplePopulation
      (sampleExecution (fun call => call ≠ 1)) :=
  execution_keeps_books sampleExecutionSettings sampleExecutionOptions 0 (fun _ => none)
    (fun call => call ≠ 1) samplePopulation (fun _ => "node-a") [⟨"node-a", "node-b", 5⟩] (by decide)

/-- The roll-back of the first device fails, and the later failure does not repeat it. -/
theorem stranded_device_is_not_restored :
    ∃ executed ∈ (sampleExecution (fun call => call ∈ [0, 3, 5])).executed,
      ¬ RestoresMigrated executed.before executed.move.sourceNodeId executed.log := by
  have logged : ((sampleExecution (fun call => call ∈ [0, 3, 5])).executed.map (fun executed =>
      (executed.move.sourceNodeId, executed.log))) =
        [("node-a", [⟨"dev-1", "node-b", true, true⟩, ⟨"dev-2", "node-b", true, false⟩,
          ⟨"dev-1", "node-a", false, false⟩, ⟨"dev-3", "node-b", true, true⟩,
          ⟨"dev-4", "node-b", true, false⟩, ⟨"dev-3", "node-a", false, true⟩])] := by
    decide +kernel
  obtain ⟨executed, member, same⟩ := List.mem_map.mp
    (logged ▸ List.mem_cons_self : _ ∈ (sampleExecution (fun call => call ∈ [0, 3, 5])).executed.map
      (fun executed => (executed.move.sourceNodeId, executed.log)))
  obtain ⟨source, log⟩ := Prod.mk.inj same
  refine ⟨executed, member, ?_⟩
  intro restores
  have home := restores
    [⟨"dev-1", "node-b", true, true⟩, ⟨"dev-2", "node-b", true, false⟩,
      ⟨"dev-1", "node-a", false, false⟩, ⟨"dev-3", "node-b", true, true⟩]
    ⟨"dev-4", "node-b", true, false⟩ [⟨"dev-3", "node-a", false, true⟩]
    ⟨⟨[], log, nofun⟩, rfl, rfl, by decide⟩ (by decide)
    ⟨"dev-1", "node-b", true, true⟩ List.mem_cons_self rfl rfl
  rw [source] at home
  have left : "node-b" = "node-a" := home
  exact absurd left (by decide)

end VpnSuite.ControlPlane
