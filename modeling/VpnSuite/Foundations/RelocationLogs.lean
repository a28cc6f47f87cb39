/-
Logs of relocations.

A log lists the attempts to put items somewhere, forward or back, with their outcomes.  An
attempt that fails moves nothing.  What follows a failed forward attempt, up to the next forward
one, is the attempt to undo what was done before it.

The items and the places are arbitrary.
-/

import Mathlib.Data.List.Count
import Mathlib.Data.List.Induction
import Mathlib.Logic.Function.Basic

set_option autoImplicit false

namespace VpnSuite.Foundations

structure Relocation (ι κ : Type) where
  item : ι
  target : κ
  isForward : Bool
  succeeded : Bool
  deriving DecidableEq, Repr

namespace Relocations

variable {ι κ : Type} [DecidableEq ι]

/-! ### Where the items are -/

def relocate (place : ι → κ) (call : Relocation ι κ) : ι → κ :=
  if call.succeeded then Function.update place call.item call.target else place

def placeAfter (place : ι → κ) (log : List (Relocation ι κ)) : ι → κ := log.foldl relocate place

theorem placeAfter_append (place : ι → κ) (first second : List (Relocation ι κ)) :
    placeAfter place (first ++ second) = placeAfter (placeAfter place first) second :=
  List.foldl_append

theorem placeAfter_concat (place : ι → κ) (log : List (Relocation ι κ)) (call : Relocation ι κ) :
    placeAfter place (log ++ [call]) = relocate (placeAfter place log) call :=
  placeAfter_append place log [call]

theorem relocate_other {place : ι → κ} {call : Relocation ι κ} {item : ι}
    (other : call.item = item → call.succeeded = false) : relocate place call item = place item := by
  unfold relocate
  split
  · rename_i succeeded
    rw [Function.update_of_ne]
    intro same
    rw [other same.symm] at succeeded
    cases succeeded
  · rfl

theorem relocate_self {place : ι → κ} {call : Relocation ι κ} (succeeded : call.succeeded = true) :
    relocate place call call.item = call.target := by
  rw [relocate, if_pos succeeded, Function.update_self]

/-- What no attempt succeeds to move stays. -/
theorem placeAfter_untouched {place : ι → κ} {log : List (Relocation ι κ)} {item : ι}
    (untouched : ∀ call ∈ log, call.item = item → call.succeeded = false) :
    placeAfter place log item = place item := by
  induction log generalizing place with
  | nil => rfl
  | cons call rest ih =>
      have later := @ih (relocate place call)
        (fun other member => untouched other (List.mem_cons_of_mem call member))
      exact later.trans (relocate_other (untouched call List.mem_cons_self))

/-- What every attempt would put to the same place is there once one succeeds. -/
theorem placeAfter_of_succeeded {place : ι → κ} {log : List (Relocation ι κ)} {item : ι} {target : κ}
    (sameTarget : ∀ call ∈ log, call.item = item → call.target = target)
    (some : ∃ call ∈ log, call.item = item ∧ call.succeeded = true) :
    placeAfter place log item = target := by
  induction log using List.reverseRecOn with
  | nil =>
      obtain ⟨call, absent, _⟩ := some
      cases absent
  | append_singleton before last ih =>
      rw [placeAfter_concat]
      by_cases moved : last.item = item ∧ last.succeeded = true
      · rw [← moved.1, relocate_self moved.2]
        exact sameTarget last (List.mem_append_right before List.mem_cons_self) moved.1
      · have other : last.item = item → last.succeeded = false :=
          fun same => Bool.eq_false_iff.mpr (fun succeeded => moved ⟨same, succeeded⟩)
        rw [relocate_other other]
        apply ih
        · exact fun call member => sameTarget call (List.mem_append_left _ member)
        · obtain ⟨call, member, same, succeeded⟩ := some
          rcases List.mem_append.mp member with early | late
          · exact ⟨call, early, same, succeeded⟩
          · obtain rfl := List.mem_singleton.mp late
            exact absurd ⟨same, succeeded⟩ moved

/-- Counting where one item more is counted. -/
theorem countP_of_one_more {items : List ι} {item : ι} {before after : ι → Bool}
    (distinct : items.Nodup) (member : item ∈ items) (counted : before item = true)
    (uncounted : after item = false) (others : ∀ other, other ≠ item → after other = before other) :
    items.countP after + 1 = items.countP before := by
  induction items with
  | nil => cases member
  | cons first rest ih =>
      rw [List.nodup_cons] at distinct
      by_cases here : first = item
      · subst here
        have sameRest : rest.countP after = rest.countP before := by
          apply List.countP_congr
          intro other inRest
          have different : other ≠ first := fun same => distinct.1 (same ▸ inRest)
          rw [others other different]
        rw [List.countP_cons_of_pos counted, List.countP_cons_of_neg (by simp [uncounted]), sameRest]
      · have inRest := (List.mem_cons.mp member).resolve_left (Ne.symm here)
        have later := ih distinct.2 inRest
        rw [List.countP_cons, List.countP_cons, others first here]
        omega

/-- Items that are all there leave one by one. -/
theorem countP_placeAfter [DecidableEq κ] {items : List ι} {place : ι → κ} {target : κ}
    {log : List (Relocation ι κ)} (distinct : items.Nodup)
    (apart : (log.map Relocation.item).Nodup)
    (leaves : ∀ call ∈ log, call.item ∈ items ∧ place call.item = target ∧ call.target ≠ target) :
    items.countP (fun item => placeAfter place log item = target) +
        log.countP Relocation.succeeded =
      items.countP (fun item => place item = target) := by
  induction log generalizing place with
  | nil => rfl
  | cons call rest ih =>
      rw [List.map_cons, List.nodup_cons] at apart
      obtain ⟨inItems, there, away⟩ := leaves call List.mem_cons_self
      have later := @ih (relocate place call) apart.2 (by
        intro other member
        obtain ⟨inside, stays, elsewhere⟩ := leaves other (List.mem_cons_of_mem call member)
        refine ⟨inside, ?_, elsewhere⟩
        rw [relocate_other]
        · exact stays
        · intro same
          exact absurd (same ▸ List.mem_map_of_mem member) apart.1)
      have unfolded : placeAfter place (call :: rest) = placeAfter (relocate place call) rest := rfl
      rw [unfolded]
      cases outcome : call.succeeded with
      | false =>
          have same : relocate place call = place := by
            rw [relocate, outcome]
            rfl
          rw [same] at later ⊢
          rw [List.countP_cons_of_neg (by simp [outcome])]
          exact later
      | true =>
          have oneLess := @countP_of_one_more ι _ items call.item
            (fun item => decide (place item = target))
            (fun item => decide (relocate place call item = target)) distinct inItems
            (decide_eq_true there)
            (decide_eq_false (by rw [relocate_self outcome]; exact away))
            (fun other different => by
              rw [relocate_other (fun same => absurd same.symm different)])
          rw [List.countP_cons_of_pos outcome]
          omega

/-! ### Forward attempts -/

omit [DecidableEq ι]

def forwardItems (log : List (Relocation ι κ)) : List ι :=
  (log.filter Relocation.isForward).map Relocation.item

def forwardSuccesses (log : List (Relocation ι κ)) : Nat :=
  log.countP (fun call => call.isForward && call.succeeded)

theorem forwardItems_append (first second : List (Relocation ι κ)) :
    forwardItems (first ++ second) = forwardItems first ++ forwardItems second := by
  rw [forwardItems, List.filter_append, List.map_append]
  rfl

theorem forwardItems_backward {log : List (Relocation ι κ)}
    (backward : ∀ call ∈ log, call.isForward = false) : forwardItems log = [] := by
  rw [forwardItems, List.map_eq_nil_iff, List.filter_eq_nil_iff]
  intro call member
  rw [backward call member]
  exact Bool.false_ne_true

theorem forwardSuccesses_append (first second : List (Relocation ι κ)) :
    forwardSuccesses (first ++ second) = forwardSuccesses first + forwardSuccesses second :=
  List.countP_append

theorem forwardSuccesses_backward {log : List (Relocation ι κ)}
    (backward : ∀ call ∈ log, call.isForward = false) : forwardSuccesses log = 0 := by
  rw [forwardSuccesses, List.countP_eq_zero]
  intro call member
  rw [backward call member]
  exact Bool.false_ne_true

theorem forwardSuccesses_le (log : List (Relocation ι κ)) :
    forwardSuccesses log ≤ (forwardItems log).length := by
  rw [forwardItems, List.length_map, ← List.countP_eq_length_filter, forwardSuccesses]
  exact List.countP_mono_left (fun call _ both => (Bool.and_eq_true _ _ ▸ both).1)

def hasFailure (log : List (Relocation ι κ)) : Bool :=
  log.any (fun call => call.isForward && !call.succeeded)

theorem hasFailure_append (first second : List (Relocation ι κ)) :
    hasFailure (first ++ second) = (hasFailure first || hasFailure second) :=
  List.any_append

/-- No forward attempt comes after a failed one. -/
def StopsAtFailure (log : List (Relocation ι κ)) : Prop :=
  ∀ earlier failure later, log = earlier ++ failure :: later →
    failure.isForward = true → failure.succeeded = false →
      ∀ call ∈ later, call.isForward = false

theorem stopsAtFailure_of_none {log : List (Relocation ι κ)} (noFailure : hasFailure log = false) :
    StopsAtFailure log := by
  intro earlier failure later split forward failed
  have here := List.any_eq_false.mp noFailure failure
    (split ▸ List.mem_append_right earlier List.mem_cons_self)
  rw [forward, failed] at here
  exact absurd rfl here

/-- A failure can only come in the last part. -/
theorem StopsAtFailure.append {first second : List (Relocation ι κ)}
    (noFailure : hasFailure first = false) (stops : StopsAtFailure second) :
    StopsAtFailure (first ++ second) := by
  intro earlier failure later split forward failed
  rcases List.append_eq_append_iff.mp split with ⟨middle, rfl, rest⟩ | ⟨middle, isFirst, rest⟩
  · exact stops middle failure later rest forward failed
  · cases middle with
    | nil => exact stops [] failure later rest.symm forward failed
    | cons head others =>
        obtain ⟨rfl, -⟩ := List.cons.inj rest
        have here := List.any_eq_false.mp noFailure failure
          (isFirst ▸ List.mem_append_right earlier List.mem_cons_self)
        rw [forward, failed] at here
        exact absurd rfl here

/-- After a failure only attempts to undo follow. -/
theorem stopsAtFailure_cons {failure : Relocation ι κ} {back : List (Relocation ι κ)}
    (backward : ∀ call ∈ back, call.isForward = false) : StopsAtFailure (failure :: back) := by
  intro earlier other later split forward _ call member
  cases earlier with
  | nil =>
      obtain ⟨rfl, rfl⟩ := List.cons.inj split
      exact backward call member
  | cons head others =>
      obtain ⟨rfl, rfl⟩ := List.cons.inj split
      exact backward call (List.mem_append_right others (List.mem_cons_of_mem other member))

/-! ### Attempts to undo -/

def backwardItems (log : List (Relocation ι κ)) : List ι :=
  (log.filter (fun call => !call.isForward)).map Relocation.item

def failedUndos (log : List (Relocation ι κ)) : Nat :=
  log.countP (fun call => !call.isForward && !call.succeeded)

theorem backwardItems_append (first second : List (Relocation ι κ)) :
    backwardItems (first ++ second) = backwardItems first ++ backwardItems second := by
  rw [backwardItems, List.filter_append, List.map_append]
  rfl

theorem backwardItems_backward {log : List (Relocation ι κ)}
    (backward : ∀ call ∈ log, call.isForward = false) :
    backwardItems log = log.map Relocation.item := by
  rw [backwardItems, List.filter_eq_self.mpr]
  intro call member
  rw [backward call member]
  rfl

theorem failedUndos_append (first second : List (Relocation ι κ)) :
    failedUndos (first ++ second) = failedUndos first + failedUndos second :=
  List.countP_append

theorem mem_backwardItems {log : List (Relocation ι κ)} {item : ι}
    (member : item ∈ backwardItems log) : ∃ call ∈ log, call.item = item := by
  obtain ⟨call, undoes, same⟩ := List.mem_map.mp member
  exact ⟨call, (List.mem_filter.mp undoes).1, same⟩

/-! ### Failures and what undoes them -/

/-- A failed forward attempt of the log, with what comes before it and the attempts to undo. -/
structure FailureIn (log earlier : List (Relocation ι κ)) (failure : Relocation ι κ)
    (back : List (Relocation ι κ)) : Prop where
  split : ∃ later, log = earlier ++ failure :: (back ++ later) ∧
    ∀ call, later.head? = some call → call.isForward = true
  forward : failure.isForward = true
  failed : failure.succeeded = false
  backward : ∀ call ∈ back, call.isForward = false

theorem not_failureIn_nil {earlier back : List (Relocation ι κ)} {failure : Relocation ι κ} :
    ¬ FailureIn [] earlier failure back := by
  intro failureIn
  obtain ⟨later, split, -⟩ := failureIn.split
  cases earlier with
  | nil => cases split
  | cons head rest => cases split

/-- A log that goes on with a forward attempt and what undoes it has the earlier failures, and
that attempt if it fails. -/
theorem failureIn_append {log earlier undoing back : List (Relocation ι κ)}
    {next failure : Relocation ι κ} (isForward : next.isForward = true)
    (undoes : ∀ call ∈ undoing, call.isForward = false)
    (failureIn : FailureIn (log ++ next :: undoing) earlier failure back) :
    FailureIn log earlier failure back ∨
      (earlier = log ∧ failure = next ∧ back = undoing ∧ next.succeeded = false) := by
  obtain ⟨⟨later, split, resumes⟩, forward, failed, backward⟩ := failureIn
  have atNext : next = failure → undoing = back ++ later → back = undoing := by
    intro _ whole
    cases later with
    | nil => rw [whole, List.append_nil]
    | cons head rest =>
        have wrong := undoes head (whole ▸ List.mem_append_right back List.mem_cons_self)
        rw [resumes head rfl] at wrong
        cases wrong
  rcases List.append_eq_append_iff.mp split with ⟨middle, isEarlier, rest⟩ | ⟨middle, isLog, rest⟩
  · cases middle with
    | nil =>
        obtain ⟨same, whole⟩ := List.cons.inj rest
        right
        exact ⟨by rw [isEarlier, List.append_nil], same.symm, atNext same whole, same ▸ failed⟩
    | cons head others =>
        -- a failure among the attempts to undo would be a forward one
        obtain ⟨-, whole⟩ := List.cons.inj rest
        have wrong := undoes failure (whole ▸ List.mem_append_right others List.mem_cons_self)
        rw [forward] at wrong
        cases wrong
  · cases middle with
    | nil =>
        obtain ⟨same, whole⟩ := List.cons.inj rest
        right
        exact ⟨by rw [isLog, List.append_nil], same, atNext same.symm whole.symm, same ▸ failed⟩
    | cons head others =>
        left
        obtain ⟨rfl, following⟩ := List.cons.inj rest
        refine ⟨?_, forward, failed, backward⟩
        rcases List.append_eq_append_iff.mp following with ⟨between, rfl, tail⟩ | ⟨between, rfl, tail⟩
        · refine ⟨between, isLog, ?_⟩
          intro call first
          exact resumes call (by rw [tail, List.head?_append, first]; rfl)
        · cases between with
          | nil =>
              refine ⟨[], ?_, nofun⟩
              rw [isLog, List.append_nil, List.append_nil]
          | cons first more =>
              obtain ⟨rfl, -⟩ := List.cons.inj tail
              have wrong := backward next (List.mem_append_right others List.mem_cons_self)
              rw [isForward] at wrong
              cases wrong

end Relocations

end VpnSuite.Foundations
