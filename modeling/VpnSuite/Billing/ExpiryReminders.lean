/-
Expiry reminders: the periodic check, the retention rules that use its markers, and payments
that move the end of a subscription (`backend/app/core/subscription_expiry_reminder_task.py`,
`backend/app/services/retention_automation_engine.py`).

Instants are microseconds.  Each row carries the Telegram id its user has.  The messages sent
are kept beside the rows, with the end of the period they were sent for; no modelled function
reads them.
-/

import VpnSuite.Billing.TrialStart
import VpnSuite.Foundations.Latches
import VpnSuite.Foundations.PythonNumbers

set_option autoImplicit false

namespace VpnSuite.Billing

open Foundations
open Foundations.PythonText

/-! ### The check -/

/-- `INTERVAL_SECONDS`. -/
def reminderInterval : Int := 6 * hour

structure RemindedSubscription extends Subscription where
  tgId : Int
  createdAt : Int
  pausedAt : Option Int
  reminder3dSentAt : Option Int
  reminder1dSentAt : Option Int
  deriving DecidableEq, Repr

inductive Reminder where
  | threeDays
  | oneDay
  deriving DecidableEq, Repr

namespace Reminder

def text : Reminder → String
  | threeDays => "Your secure tunnel expires soon."
  | oneDay => "Don't lose your secure route."

/-- The bounds of the window, from the check to the end of the subscription. -/
def windowStart : Reminder → Int
  | threeDays => 71 * hour
  | oneDay => 23 * hour

def windowEnd : Reminder → Int
  | threeDays => 73 * hour
  | oneDay => 25 * hour

/-- The days a retention rule allows. -/
def days : Reminder → Int
  | threeDays => 3
  | oneDay => 1

end Reminder

namespace RemindedSubscription

def marker (sub : RemindedSubscription) : Reminder → Option Int
  | .threeDays => sub.reminder3dSentAt
  | .oneDay => sub.reminder1dSentAt

def mark (sub : RemindedSubscription) (now : Int) : Reminder → RemindedSubscription
  | .threeDays => { sub with reminder3dSentAt := some now }
  | .oneDay => { sub with reminder1dSentAt := some now }

@[simp] theorem marker_mark (sub : RemindedSubscription) (now : Int)
    (reminder other : Reminder) :
    (sub.mark now reminder).marker other =
      if other = reminder then some now else sub.marker other := by
  cases reminder <;> cases other <;> rfl

@[simp] theorem mark_toSubscription (sub : RemindedSubscription) (now : Int)
    (reminder : Reminder) : (sub.mark now reminder).toSubscription = sub.toSubscription := by
  cases reminder <;> rfl

@[simp] theorem mark_tgId (sub : RemindedSubscription) (now : Int) (reminder : Reminder) :
    (sub.mark now reminder).tgId = sub.tgId := by
  cases reminder <;> rfl

@[simp] theorem mark_createdAt (sub : RemindedSubscription) (now : Int) (reminder : Reminder) :
    (sub.mark now reminder).createdAt = sub.createdAt := by
  cases reminder <;> rfl

@[simp] theorem mark_pausedAt (sub : RemindedSubscription) (now : Int) (reminder : Reminder) :
    (sub.mark now reminder).pausedAt = sub.pausedAt := by
  cases reminder <;> rfl

end RemindedSubscription

/-- The selection of the check. -/
def isDue (reminder : Reminder) (now : Int) (sub : RemindedSubscription) : Bool :=
  sub.status = "active" && now + reminder.windowStart ≤ sub.validUntil &&
    sub.validUntil ≤ now + reminder.windowEnd && sub.marker reminder = none

structure SentReminder where
  subscriptionId : String
  tgId : Int
  text : String
  reminder : Reminder
  sentAt : Int
  periodEnd : Int
  deriving DecidableEq, Repr

/-- A due row whose message is delivered is marked. -/
def remindRow (reminder : Reminder) (now : Int) (delivered : Int → Bool)
    (sub : RemindedSubscription) : RemindedSubscription :=
  if isDue reminder now sub && delivered sub.tgId then sub.mark now reminder else sub

/-- One of the two loops of the check, with the messages it sends. -/
def remindPass (reminder : Reminder) (now : Int) (delivered : Int → Bool)
    (subs : Dict String RemindedSubscription) :
    Dict String RemindedSubscription × List SentReminder :=
  (subs.mapValues (remindRow reminder now delivered),
    (subs.entries.filter (fun entry => isDue reminder now entry.2 && delivered entry.2.tgId)).map
      (fun entry => ⟨entry.1, entry.2.tgId, reminder.text, reminder, now, entry.2.validUntil⟩))

/-- `run_subscription_reminder_check`; its two counts are the lengths of the two lists. -/
def runSubscriptionReminderCheck (now : Int) (delivered : Int → Bool)
    (subs : Dict String RemindedSubscription) :
    Dict String RemindedSubscription × List SentReminder × List SentReminder :=
  let three := remindPass .threeDays now delivered subs
  let one := remindPass .oneDay now delivered three.1
  (one.1, three.2, one.2)

/-! ### Retention rules -/

inductive RetentionError where
  | int (error : IntError)
  | overflow
  deriving DecidableEq, Repr

structure RetentionRule where
  conditionJson : Dict String Json
  actionType : String
  actionParams : Option (Dict String Json)
  priority : Int
  enabled : Bool

/-- `instant + timedelta(days=days)`. -/
def shiftDays (instant days : Int) : Except RetentionError Int :=
  if days < -999999999 ∨ 999999999 < days then .error .overflow
  else if instant + days * day < minInstant ∨ maxInstant < instant + days * day then
    .error .overflow
  else .ok (instant + days * day)

/-- The bounds a condition sets, from its two known keys. -/
structure MatchBounds where
  endsBy : Option Int
  createdBy : Option Int

def readBound (condition : Dict String Json) (key : String) (bound : Int → Except RetentionError Int) :
    Except RetentionError (Option Int) :=
  match condition.get? key with
  | none => .ok none
  | some value => do
      let number ← value.toInt.mapError RetentionError.int
      let instant ← bound number
      .ok (some instant)

def readBounds (now : Int) (condition : Dict String Json) : Except RetentionError MatchBounds := do
  let endsBy ← readBound condition "expiry_days_lte" (fun days => shiftDays now days)
  let createdBy ← readBound condition "lifetime_months_gte" (fun months =>
    shiftDays now (-(months * 30)))
  .ok ⟨endsBy, createdBy⟩

/-- `get_matching_subscriptions`, for one row. -/
def isMatching (now : Int) (bounds : MatchBounds) (sub : RemindedSubscription) : Bool :=
  sub.status = "active" && now < sub.validUntil && sub.pausedAt = none &&
    bounds.endsBy.all (fun end_ => sub.validUntil ≤ end_) &&
    bounds.createdBy.all (fun since => sub.createdAt ≤ since)

/-- `params.get("which", "3d")`. -/
def whichReminder (rule : RetentionRule) : Option Reminder :=
  match (rule.actionParams.getD Dict.empty).get? "which" with
  | none => some .threeDays
  | some (.str text) =>
      if text = "3d" then some .threeDays else if text = "1d" then some .oneDay else none
  | some _ => none

/-- `(sub.valid_until - now).days`. -/
def daysLeft (now : Int) (sub : RemindedSubscription) : Int := (sub.validUntil - now) / day

/-- The marker a rule sets on a row, at the instant of its query. -/
def ruleMarks (now queried : Int) (rule : RetentionRule) (bounds : MatchBounds)
    (sub : RemindedSubscription) : Option Reminder :=
  if rule.actionType = "reminder" ∧ isMatching queried bounds sub then
    (whichReminder rule).filter (fun reminder =>
      sub.marker reminder = none && 0 < daysLeft now sub && daysLeft now sub ≤ reminder.days)
  else none

def applyRule (now queried : Int) (rule : RetentionRule) (bounds : MatchBounds)
    (sub : RemindedSubscription) : RemindedSubscription :=
  match ruleMarks now queried rule bounds sub with
  | none => sub
  | some reminder => sub.mark now reminder

/-- The loop over the rules, with the number of actions taken.  Each rule's query reads the
clock again. -/
def runRules (now : Int) (clock : Nat → Int) : Nat → List RetentionRule →
    Dict String RemindedSubscription → Nat →
    Except RetentionError (Dict String RemindedSubscription × Nat)
  | _, [], subs, actions => .ok (subs, actions)
  | index, rule :: rest, subs, actions => do
      let bounds ← readBounds (clock index) rule.conditionJson
      runRules now clock (index + 1) rest
        (subs.mapValues (applyRule now (clock index) rule bounds))
        (actions + subs.entries.countP (fun entry =>
          (ruleMarks now (clock index) rule bounds entry.2).isSome))

/-- The enabled rules, the higher priority first. -/
def orderedRules (rules : List RetentionRule) : List RetentionRule :=
  (rules.filter (fun rule => rule.enabled)).mergeSort (fun left right =>
    right.priority ≤ left.priority)

/-- `run_retention_rules`; an exception rolls the session back. -/
def runRetentionRules (now : Int) (clock : Nat → Int) (rules : List RetentionRule)
    (subs : Dict String RemindedSubscription) :
    Except RetentionError (Dict String RemindedSubscription × Nat) :=
  runRules now clock 0 (orderedRules rules) subs 0

/-! ### Steps -/

inductive ReminderEvent where
  | check (delivered : Int → Bool)
  | retention (clock : Nat → Int) (rules : List RetentionRule)
  | payment (subscriptionId : String) (plan : Plan)
  | bonus (subscriptionId : String) (days : Int)

structure ReminderStep where
  instant : Int
  event : ReminderEvent

structure ReminderState where
  subs : Dict String RemindedSubscription
  messages : List SentReminder

/-- The part of a payment that moves the end of the paid subscription. -/
def payRow (now : Int) (plan : Plan) (sub : RemindedSubscription) : RemindedSubscription :=
  { sub with toSubscription := extendSubscription now plan sub.toSubscription }

/-- A referral reward or a promo's days, added by a payment to an active subscription. -/
def bonusRow (now days : Int) (sub : RemindedSubscription) : RemindedSubscription :=
  if sub.status = "active" then
    { sub with toSubscription := addBonusDays now now days sub.toSubscription }
  else sub

def updateRow (id : String) (update : RemindedSubscription → RemindedSubscription)
    (subs : Dict String RemindedSubscription) : Dict String RemindedSubscription :=
  match subs.get? id with
  | none => subs
  | some sub => subs.set id (update sub)

def ReminderState.step (state : ReminderState) (next : ReminderStep) : ReminderState :=
  match next.event with
  | .check delivered =>
      let checked := runSubscriptionReminderCheck next.instant delivered state.subs
      ⟨checked.1, state.messages ++ (checked.2.1 ++ checked.2.2)⟩
  | .retention clock rules =>
      match runRetentionRules next.instant clock rules state.subs with
      | .error _ => state
      | .ok (subs, _) => { state with subs := subs }
  | .payment id plan => { state with subs := updateRow id (payRow next.instant plan) state.subs }
  | .bonus id days => { state with subs := updateRow id (bonusRow next.instant days) state.subs }

/-! ### Row by row -/

/-- A rule with the instant of its query and the bounds it read. -/
structure PlannedRule where
  queried : Int
  rule : RetentionRule
  bounds : MatchBounds

/-- What the rules read before they look at a row. -/
def rulePlan (clock : Nat → Int) : Nat → List RetentionRule → Except RetentionError (List PlannedRule)
  | _, [] => .ok []
  | index, rule :: rest => do
      let bounds ← readBounds (clock index) rule.conditionJson
      let later ← rulePlan clock (index + 1) rest
      .ok (⟨clock index, rule, bounds⟩ :: later)

def PlannedRule.marks (now : Int) (planned : PlannedRule) (sub : RemindedSubscription) :
    Option Reminder :=
  ruleMarks now planned.queried planned.rule planned.bounds sub

def applyPlan (now : Int) (plan : List PlannedRule) (sub : RemindedSubscription) :
    RemindedSubscription :=
  plan.foldl (fun row planned => applyRule now planned.queried planned.rule planned.bounds row) sub

/-- Whether a run of the rules sets the marker of a row. -/
def retentionMarks (now : Int) (clock : Nat → Int) (rules : List RetentionRule)
    (reminder : Reminder) (sub : RemindedSubscription) : Bool :=
  match rulePlan clock 0 (orderedRules rules) with
  | .error _ => false
  | .ok plan => plan.any (fun planned => planned.marks now sub = some reminder)

/-- What a step makes of one row. -/
def ReminderStep.row (id : String) (next : ReminderStep) (sub : RemindedSubscription) :
    RemindedSubscription :=
  match next.event with
  | .check delivered =>
      remindRow .oneDay next.instant delivered (remindRow .threeDays next.instant delivered sub)
  | .retention clock rules =>
      match rulePlan clock 0 (orderedRules rules) with
      | .error _ => sub
      | .ok plan => applyPlan next.instant plan sub
  | .payment other plan => if id = other then payRow next.instant plan sub else sub
  | .bonus other days => if id = other then bonusRow next.instant days sub else sub

theorem runRules_rows {now : Int} {clock : Nat → Int} {index : Nat} {rules : List RetentionRule}
    {subs : Dict String RemindedSubscription} {actions : Nat} :
    (∀ error, rulePlan clock index rules = .error error →
      runRules now clock index rules subs actions = .error error) ∧
    ∀ plan, rulePlan clock index rules = .ok plan →
      ∃ after taken, runRules now clock index rules subs actions = .ok (after, taken) ∧
        ∀ id, after.get? id = (subs.get? id).map (applyPlan now plan) := by
  induction rules generalizing index subs actions with
  | nil =>
      refine ⟨fun error failed => (by cases failed), ?_⟩
      intro plan planned
      obtain rfl := Except.ok.inj planned
      refine ⟨subs, actions, rfl, ?_⟩
      intro id
      cases subs.get? id <;> rfl
  | cons rule rest ih =>
      rw [rulePlan, runRules]
      cases read : readBounds (clock index) rule.conditionJson with
      | error failure =>
          constructor
          · intro error failed
            cases failed
            rfl
          · intro plan planned
            cases planned
      | ok bounds =>
          obtain ⟨failing, succeeding⟩ := @ih (index + 1)
            (subs.mapValues (applyRule now (clock index) rule bounds))
            (actions + subs.entries.countP (fun entry =>
              (ruleMarks now (clock index) rule bounds entry.2).isSome))
          cases later : rulePlan clock (index + 1) rest with
          | error failure =>
              refine ⟨?_, fun plan planned => (by cases planned)⟩
              intro error failed
              cases failed
              exact failing failure later
          | ok laterPlan =>
              refine ⟨fun error failed => (by cases failed), ?_⟩
              intro plan planned
              obtain rfl := Except.ok.inj planned
              obtain ⟨after, taken, ran, rows⟩ := succeeding laterPlan later
              refine ⟨after, taken, ran, ?_⟩
              intro id
              rw [rows, Dict.get?_mapValues, Option.map_map]
              rfl

theorem get?_updateRow (id other : String) (update : RemindedSubscription → RemindedSubscription)
    (subs : Dict String RemindedSubscription) :
    (updateRow other update subs).get? id =
      (subs.get? id).map (fun sub => if id = other then update sub else sub) := by
  unfold updateRow
  by_cases same : id = other
  · subst same
    cases stored : subs.get? id with
    | none => simp [stored]
    | some sub => simp
  · cases found : subs.get? other with
    | none => simp [same]
    | some sub => simp [same]

/-- A step treats every row alone. -/
theorem get?_step (state : ReminderState) (next : ReminderStep) (id : String) :
    (state.step next).subs.get? id = (state.subs.get? id).map (next.row id) := by
  unfold ReminderState.step ReminderStep.row
  cases next.event with
  | check delivered =>
      dsimp only [runSubscriptionReminderCheck, remindPass]
      rw [Dict.get?_mapValues, Dict.get?_mapValues, Option.map_map]
      rfl
  | retention clock rules =>
      obtain ⟨failing, succeeding⟩ := @runRules_rows next.instant clock 0 (orderedRules rules)
        state.subs 0
      dsimp only [runRetentionRules]
      cases planned : rulePlan clock 0 (orderedRules rules) with
      | error failure =>
          rw [failing failure planned]
          exact Option.map_id'.symm
      | ok plan =>
          obtain ⟨after, taken, ran, rows⟩ := succeeding plan planned
          rw [ran]
          exact rows id
  | payment other plan => exact get?_updateRow id other _ _
  | bonus other days => exact get?_updateRow id other _ _

/-! ### What a step keeps and what it sets -/

/-- All of a row but its markers. -/
structure SameTerms (before after : RemindedSubscription) : Prop where
  toSubscription : after.toSubscription = before.toSubscription
  tgId : after.tgId = before.tgId
  createdAt : after.createdAt = before.createdAt
  pausedAt : after.pausedAt = before.pausedAt

theorem SameTerms.refl (sub : RemindedSubscription) : SameTerms sub sub := ⟨rfl, rfl, rfl, rfl⟩

theorem SameTerms.trans {first second third : RemindedSubscription}
    (before : SameTerms first second) (after : SameTerms second third) : SameTerms first third :=
  ⟨after.toSubscription.trans before.toSubscription, after.tgId.trans before.tgId,
    after.createdAt.trans before.createdAt, after.pausedAt.trans before.pausedAt⟩

theorem sameTerms_mark (sub : RemindedSubscription) (now : Int) (reminder : Reminder) :
    SameTerms sub (sub.mark now reminder) :=
  ⟨sub.mark_toSubscription now reminder, sub.mark_tgId now reminder,
    sub.mark_createdAt now reminder, sub.mark_pausedAt now reminder⟩

theorem isDue_congr {before after : RemindedSubscription} (same : SameTerms before after)
    {reminder : Reminder} (marker : after.marker reminder = before.marker reminder) (now : Int) :
    isDue reminder now after = isDue reminder now before := by
  unfold isDue
  rw [same.toSubscription, marker]

theorem ruleMarks_eq_some {now queried : Int} {rule : RetentionRule} {bounds : MatchBounds}
    {sub : RemindedSubscription} {reminder : Reminder} :
    ruleMarks now queried rule bounds sub = some reminder ↔
      (rule.actionType = "reminder" ∧ isMatching queried bounds sub = true) ∧
        whichReminder rule = some reminder ∧ sub.marker reminder = none ∧
        0 < daysLeft now sub ∧ daysLeft now sub ≤ reminder.days := by
  unfold ruleMarks
  split
  · rename_i selected
    rw [Option.filter_eq_some_iff]
    simp only [Bool.and_eq_true, decide_eq_true_eq, selected, and_self, true_and, and_assoc]
  · rename_i skipped
    simp only [skipped, false_and, reduceCtorEq]

theorem ruleMarks_congr {before after : RemindedSubscription} (same : SameTerms before after)
    {reminder : Reminder} (marker : after.marker reminder = before.marker reminder)
    (now queried : Int) (rule : RetentionRule) (bounds : MatchBounds) :
    ruleMarks now queried rule bounds after = some reminder ↔
      ruleMarks now queried rule bounds before = some reminder := by
  rw [ruleMarks_eq_some, ruleMarks_eq_some, marker]
  unfold isMatching daysLeft
  rw [same.toSubscription, same.pausedAt, same.createdAt]

/-- A step that leaves the terms of a row alone closes a marker exactly when it `sets` it. -/
structure Marking (before after : RemindedSubscription) (sets : Reminder → Prop) : Prop where
  terms : SameTerms before after
  marker : ∀ reminder, ¬ sets reminder → after.marker reminder = before.marker reminder
  marked : ∀ reminder, sets reminder → (after.marker reminder).isSome = true

theorem marking_mark (sub : RemindedSubscription) (now : Int) (reminder : Reminder) :
    Marking sub (sub.mark now reminder) (fun other => other = reminder) := by
  refine ⟨sameTerms_mark sub now reminder, ?_, ?_⟩
  · intro other different
    rw [RemindedSubscription.marker_mark, if_neg different]
  · rintro other rfl
    rw [RemindedSubscription.marker_mark, if_pos rfl]
    rfl

theorem marking_applyRule (now queried : Int) (rule : RetentionRule) (bounds : MatchBounds)
    (sub : RemindedSubscription) :
    Marking sub (applyRule now queried rule bounds sub)
      (fun reminder => ruleMarks now queried rule bounds sub = some reminder) := by
  unfold applyRule
  cases marks : ruleMarks now queried rule bounds sub with
  | none => exact ⟨SameTerms.refl sub, fun _ _ => rfl, fun _ absurd => (by cases absurd)⟩
  | some reminder =>
      obtain ⟨terms, kept, marked⟩ := marking_mark sub now reminder
      refine ⟨terms, fun other different => kept other ?_, fun other same => marked other ?_⟩
      · exact fun same => different (congrArg some same.symm)
      · exact (Option.some.inj same).symm

theorem isSome_applyPlan {now : Int} {plan : List PlannedRule} {reminder : Reminder}
    {sub : RemindedSubscription} (set : (sub.marker reminder).isSome = true) :
    ((applyPlan now plan sub).marker reminder).isSome = true := by
  induction plan generalizing sub with
  | nil => exact set
  | cons planned rest ih =>
      apply @ih (applyRule now planned.queried planned.rule planned.bounds sub)
      obtain ⟨_, kept, _⟩ := marking_applyRule now planned.queried planned.rule planned.bounds sub
      rw [kept reminder]
      · exact set
      · intro marks
        rw [(ruleMarks_eq_some.mp marks).2.2.1] at set
        cases set

theorem marking_applyPlan (now : Int) (plan : List PlannedRule) (sub : RemindedSubscription) :
    Marking sub (applyPlan now plan sub) (fun reminder =>
      plan.any (fun planned => planned.marks now sub = some reminder) = true) := by
  induction plan generalizing sub with
  | nil => exact ⟨SameTerms.refl sub, fun _ _ => rfl, fun _ absurd => (by cases absurd)⟩
  | cons planned rest ih =>
      obtain ⟨terms, kept, marked⟩ :=
        marking_applyRule now planned.queried planned.rule planned.bounds sub
      obtain ⟨laterTerms, laterKept, laterMarked⟩ :=
        ih (applyRule now planned.queried planned.rule planned.bounds sub)
      refine ⟨terms.trans laterTerms, ?_, ?_⟩
      · intro reminder quiet
        rw [List.any_cons, Bool.or_eq_true, not_or, decide_eq_true_eq] at quiet
        have same := kept reminder quiet.1
        rw [← same]
        apply laterKept reminder
        intro later
        apply quiet.2
        rw [List.any_eq_true] at later ⊢
        obtain ⟨other, member, marks⟩ := later
        rw [decide_eq_true_eq] at marks
        exact ⟨other, member, decide_eq_true ((ruleMarks_congr terms same ..).mp marks)⟩
      · intro reminder marks
        rw [List.any_cons, Bool.or_eq_true, decide_eq_true_eq] at marks
        by_cases first : planned.marks now sub = some reminder
        · exact @isSome_applyPlan now rest reminder _ (marked reminder first)
        · have later := marks.resolve_left first
          apply laterMarked reminder
          rw [List.any_eq_true] at later ⊢
          obtain ⟨other, member, marks⟩ := later
          rw [decide_eq_true_eq] at marks
          exact ⟨other, member, decide_eq_true
            ((ruleMarks_congr terms (kept reminder first) ..).mpr marks)⟩

/-- Whether a step sets a marker of a row: a delivered reminder does, and a retention rule. -/
def ReminderStep.sets (next : ReminderStep) (reminder : Reminder) (sub : RemindedSubscription) :
    Bool :=
  match next.event with
  | .check delivered => isDue reminder next.instant sub && delivered sub.tgId
  | .retention clock rules => retentionMarks next.instant clock rules reminder sub
  | .payment _ _ => false
  | .bonus _ _ => false

def ReminderStep.isCheck (next : ReminderStep) : Bool :=
  match next.event with
  | .check _ => true
  | _ => false

theorem marking_remindRow (reminder : Reminder) (now : Int) (delivered : Int → Bool)
    (sub : RemindedSubscription) :
    Marking sub (remindRow reminder now delivered sub) (fun other =>
      other = reminder ∧ (isDue reminder now sub && delivered sub.tgId) = true) := by
  unfold remindRow
  split
  · rename_i sent
    obtain ⟨terms, kept, marked⟩ := marking_mark sub now reminder
    exact ⟨terms, fun other quiet => kept other (fun same => quiet ⟨same, sent⟩),
      fun other set => marked other set.1⟩
  · rename_i quiet
    exact ⟨SameTerms.refl sub, fun _ _ => rfl, fun _ set => absurd set.2 quiet⟩

/-- The second loop of the check finds a row as the first one did, but for the other marker. -/
theorem marking_check (now : Int) (delivered : Int → Bool) (sub : RemindedSubscription) :
    Marking sub (remindRow .oneDay now delivered (remindRow .threeDays now delivered sub))
      (fun reminder => (isDue reminder now sub && delivered sub.tgId) = true) := by
  obtain ⟨terms, kept, marked⟩ := marking_remindRow .threeDays now delivered sub
  obtain ⟨laterTerms, laterKept, laterMarked⟩ :=
    marking_remindRow .oneDay now delivered (remindRow .threeDays now delivered sub)
  have otherMarker := kept .oneDay (fun set => by cases set.1)
  have again := isDue_congr terms otherMarker now
  rw [again, terms.tgId] at laterKept laterMarked
  refine ⟨terms.trans laterTerms, ?_, ?_⟩
  · intro reminder quiet
    cases reminder with
    | threeDays =>
        rw [laterKept .threeDays (fun set => by cases set.1)]
        exact kept .threeDays (fun set => quiet set.2)
    | oneDay =>
        rw [laterKept .oneDay (fun set => quiet set.2)]
        exact otherMarker
  · intro reminder set
    cases reminder with
    | threeDays =>
        rw [laterKept .threeDays (fun set => by cases set.1)]
        exact marked .threeDays ⟨rfl, set⟩
    | oneDay => exact laterMarked .oneDay ⟨rfl, set⟩

/-- A step changes a marker exactly when it sets it, whatever else it does. -/
theorem row_marker (id : String) (next : ReminderStep) (reminder : Reminder)
    (sub : RemindedSubscription) :
    (next.row id sub).marker reminder = none ↔
      sub.marker reminder = none ∧ next.sets reminder sub = false := by
  have ofMarking : ∀ {after : RemindedSubscription} {sets : Reminder → Prop},
      Marking sub after sets → (sets reminder → sub.marker reminder = none) →
      (after.marker reminder = none ↔ sub.marker reminder = none ∧ ¬ sets reminder) := by
    intro after sets marking free
    by_cases set : sets reminder
    · have marked := marking.marked reminder set
      exact iff_of_false (fun empty => by rw [empty] at marked; cases marked) (fun both => both.2 set)
    · rw [marking.marker reminder set]
      exact (and_iff_left set).symm
  unfold ReminderStep.row ReminderStep.sets
  cases next.event with
  | check delivered =>
      have marking := ofMarking (marking_check next.instant delivered sub) (by
        intro due
        simp only [isDue, Bool.and_eq_true, decide_eq_true_eq] at due
        exact due.1.2)
      rw [marking, Bool.not_eq_true]
  | retention clock rules =>
      unfold retentionMarks
      dsimp only
      cases rulePlan clock 0 (orderedRules rules) with
      | error failure => exact (and_iff_left rfl).symm
      | ok plan =>
          have marking := ofMarking (marking_applyPlan next.instant plan sub) (by
            intro marks
            obtain ⟨planned, _, here⟩ := List.any_eq_true.mp marks
            exact (ruleMarks_eq_some.mp (of_decide_eq_true here)).2.2.1)
          dsimp only
          rw [marking, Bool.not_eq_true]
  | payment other plan =>
      have kept : (if id = other then payRow next.instant plan sub else sub).marker reminder =
          sub.marker reminder := by
        split <;> cases reminder <;> rfl
      dsimp only
      rw [kept]
      exact (and_iff_left rfl).symm
  | bonus other days =>
      have kept : (if id = other then bonusRow next.instant days sub else sub).marker reminder =
          sub.marker reminder := by
        unfold bonusRow
        split
        · split <;> cases reminder <;> rfl
        · rfl
      dsimp only
      rw [kept]
      exact (and_iff_left rfl).symm

theorem row_tgId (id : String) (next : ReminderStep) (sub : RemindedSubscription) :
    (next.row id sub).tgId = sub.tgId := by
  unfold ReminderStep.row
  cases next.event with
  | check delivered => exact (marking_check next.instant delivered sub).terms.tgId
  | retention clock rules =>
      dsimp only
      split
      · rfl
      · exact (marking_applyPlan next.instant _ sub).terms.tgId
  | payment other plan =>
      dsimp only
      split <;> rfl
  | bonus other days =>
      dsimp only [bonusRow]
      split
      · split <;> rfl
      · rfl

/-! ### The messages for a period -/

/-- The messages of a kind sent for the period with the given end. -/
def sentFor (id : String) (reminder : Reminder) (periodEnd : Int) (state : ReminderState) : Nat :=
  state.messages.countP (fun message =>
    decide (message.subscriptionId = id) &&
      (decide (message.reminder = reminder) && decide (message.periodEnd = periodEnd)))

def Unmarked (id : String) (reminder : Reminder) (state : ReminderState) : Prop :=
  ∃ sub, state.subs.get? id = some sub ∧ sub.marker reminder = none

def SetsMarker (id : String) (reminder : Reminder) (state : ReminderState) (next : ReminderStep) :
    Prop :=
  ∃ sub, state.subs.get? id = some sub ∧ next.sets reminder sub = true

def SendsFor (id : String) (reminder : Reminder) (periodEnd : Int) (state : ReminderState)
    (next : ReminderStep) : Prop :=
  ∃ sub, state.subs.get? id = some sub ∧ next.isCheck = true ∧ next.sets reminder sub = true ∧
    sub.validUntil = periodEnd

theorem marker_latch (id : String) (reminder : Reminder) :
    Latch ReminderState.step (Unmarked id reminder) (SetsMarker id reminder) := by
  constructor
  intro state next
  unfold Unmarked SetsMarker
  rw [get?_step]
  cases state.subs.get? id with
  | none => simp
  | some sub =>
      have marker := row_marker id next reminder sub
      simpa using marker

theorem countP_remindPass (id : String) (pass reminder : Reminder) (now periodEnd : Int)
    (delivered : Int → Bool) (subs : Dict String RemindedSubscription) :
    (remindPass pass now delivered subs).2.countP (fun message =>
        decide (message.subscriptionId = id) &&
          (decide (message.reminder = reminder) && decide (message.periodEnd = periodEnd))) =
      if (subs.get? id).any (fun sub => decide (pass = reminder) &&
        (decide (sub.validUntil = periodEnd) && (isDue pass now sub && delivered sub.tgId))) then 1
      else 0 := by
  rw [← Dict.countP_entries, remindPass, List.countP_map, List.countP_filter]
  apply List.countP_congr
  intro entry _
  simp [and_assoc]

theorem sentFor_check (id : String) (reminder : Reminder) (now periodEnd : Int)
    (delivered : Int → Bool) (state : ReminderState) :
    sentFor id reminder periodEnd (state.step ⟨now, .check delivered⟩) =
      sentFor id reminder periodEnd state +
        if (state.subs.get? id).any (fun sub => decide (sub.validUntil = periodEnd) &&
          (isDue reminder now sub && delivered sub.tgId)) then 1 else 0 := by
  have second : ∀ sub, isDue .oneDay now (remindRow .threeDays now delivered sub) =
      isDue .oneDay now sub := by
    intro sub
    obtain ⟨terms, kept, _⟩ := marking_remindRow .threeDays now delivered sub
    exact isDue_congr terms (kept .oneDay (fun set => by cases set.1)) now
  have terms := fun sub => (marking_remindRow .threeDays now delivered sub).terms
  rw [sentFor, sentFor, ReminderState.step]
  dsimp only [runSubscriptionReminderCheck]
  rw [List.countP_append, List.countP_append, countP_remindPass, countP_remindPass]
  cases reminder with
  | threeDays => simp
  | oneDay =>
      have passed : (remindPass .threeDays now delivered state.subs).1.get? id =
          (state.subs.get? id).map (remindRow .threeDays now delivered) :=
        Dict.get?_mapValues _ _ _
      rw [passed]
      cases state.subs.get? id with
      | none => simp
      | some sub => simp [second, (terms sub).toSubscription, (terms sub).tgId]

theorem sentFor_other {id : String} {reminder : Reminder} {periodEnd : Int}
    {state : ReminderState} {next : ReminderStep} (other : next.isCheck = false) :
    sentFor id reminder periodEnd (state.step next) = sentFor id reminder periodEnd state := by
  obtain ⟨instant, event⟩ := next
  cases event with
  | check delivered => cases other
  | retention clock rules =>
      rw [ReminderState.step]
      dsimp only
      split <;> rfl
  | payment id plan => rfl
  | bonus id days => rfl

/-- A reminder is sent once at most: the marker it needs is set with it and never cleared. -/
theorem reminder_firing (id : String) (reminder : Reminder) (periodEnd : Int) :
    Firing ReminderState.step (Unmarked id reminder) (SetsMarker id reminder)
      (SendsFor id reminder periodEnd) (sentFor id reminder periodEnd) := by
  have counted : ∀ (state : ReminderState) (next : ReminderStep), next.isCheck = true →
      sentFor id reminder periodEnd (state.step next) = sentFor id reminder periodEnd state +
        if (state.subs.get? id).any (fun sub => decide (sub.validUntil = periodEnd) &&
          next.sets reminder sub) then 1 else 0 := by
    rintro state ⟨instant, event⟩ isCheck
    cases event with
    | check delivered => exact sentFor_check id reminder instant periodEnd delivered state
    | retention _ _ => cases isCheck
    | payment _ _ => cases isCheck
    | bonus _ _ => cases isCheck
  constructor
  · rintro state ⟨instant, event⟩ ⟨sub, stored, isCheck, sets, _⟩
    refine ⟨sub, stored, ?_⟩
    cases event with
    | check delivered =>
        simp only [ReminderStep.sets, isDue, Bool.and_eq_true, decide_eq_true_eq] at sets
        exact sets.1.2
    | retention _ _ => cases isCheck
    | payment _ _ => cases isCheck
    | bonus _ _ => cases isCheck
  · rintro state next ⟨sub, stored, _, sets, _⟩
    exact ⟨sub, stored, sets⟩
  · rintro state next ⟨sub, stored, isCheck, sets, ends⟩
    rw [counted state next isCheck, stored, if_pos]
    simp [sets, ends]
  · intro state next quiet
    by_cases isCheck : next.isCheck = true
    · rw [counted state next isCheck, if_neg, Nat.add_zero]
      intro sends
      obtain ⟨sub, stored, both⟩ := (Option.any_eq_true ..).mp sends
      rw [Bool.and_eq_true, decide_eq_true_eq] at both
      exact quiet ⟨sub, stored, isCheck, both.2, both.1⟩
    · exact sentFor_other (Bool.not_eq_true _ ▸ isCheck)

/-! ### Schedules and periods -/

def ReminderState.start (subs : Dict String RemindedSubscription) : ReminderState := ⟨subs, []⟩

/-- Steps in the order of time, with checks an interval apart in the last four days. -/
structure Scheduled (origin periodEnd : Int) (steps : List ReminderStep) : Prop where
  ordered : steps.Pairwise (fun earlier later => earlier.instant ≤ later.instant)
  onTime : ∀ next ∈ steps, next.isCheck = true → periodEnd - 4 * day ≤ next.instant →
    next.instant < periodEnd → (next.instant - origin) % reminderInterval = 0
  complete : ∀ instant, periodEnd - 4 * day ≤ instant → instant < periodEnd →
    (instant - origin) % reminderInterval = 0 →
    ∃ next ∈ steps, next.isCheck = true ∧ next.instant = instant
  once : steps.Pairwise (fun earlier later => earlier.isCheck = true → later.isCheck = true →
    periodEnd - 4 * day ≤ earlier.instant → later.instant < periodEnd →
    earlier.instant ≠ later.instant)

/-- The messages of the checks reach the subscriber. -/
def Delivers (id : String) (subs : Dict String RemindedSubscription) (steps : List ReminderStep) :
    Prop :=
  ∀ next ∈ steps, ∀ delivered, next.event = .check delivered →
    ∀ sub, subs.get? id = some sub → delivered sub.tgId = true

def EndsAt (id : String) (periodEnd : Int) (state : ReminderState) : Prop :=
  ∃ sub, state.subs.get? id = some sub ∧ sub.status = "active" ∧ sub.validUntil = periodEnd

/-- The subscription is active and ends then in every state of the last three days. -/
def ReachedUnrenewed (id : String) (periodEnd : Int) (subs : Dict String RemindedSubscription)
    (steps : List ReminderStep) : Prop :=
  ∀ earlier later, steps = earlier ++ later →
    (∀ next ∈ earlier, next.instant < periodEnd) →
    (∀ next ∈ later, periodEnd - 3 * day ≤ next.instant) →
    EndsAt id periodEnd (earlier.foldl ReminderState.step (ReminderState.start subs))

def InWindow (reminder : Reminder) (periodEnd now : Int) : Prop :=
  now + reminder.windowStart ≤ periodEnd ∧ periodEnd ≤ now + reminder.windowEnd

/-! ### When a period gets its reminders -/

/-- The checks come within an hour of a whole number of intervals before the end: the windows
are two hours wide and the interval is six. -/
def Aligned (origin periodEnd : Int) : Prop :=
  (periodEnd - origin + hour) % reminderInterval ≤ 2 * hour

/-- The end is set by the time of the check in the window of three days. -/
def SetInTime (id : String) (periodEnd : Int) (subs : Dict String RemindedSubscription)
    (steps : List ReminderStep) : Prop :=
  ∀ earlier next later, steps = earlier ++ next :: later → next.isCheck = true →
    InWindow .threeDays periodEnd next.instant →
    EndsAt id periodEnd (earlier.foldl ReminderState.step (ReminderState.start subs))

/-- Neither a reminder for an earlier period nor a retention rule has set the marker before
the check in its window. -/
def Untouched (id : String) (periodEnd : Int) (reminder : Reminder)
    (subs : Dict String RemindedSubscription) (steps : List ReminderStep) : Prop :=
  Unmarked id reminder (ReminderState.start subs) ∧
  ∀ earlier next later, steps = earlier ++ next :: later → next.isCheck = true →
    InWindow reminder periodEnd next.instant →
    EveryStep ReminderState.step (ReminderState.start subs) earlier
      (fun state step => ¬ SetsMarker id reminder state step)

theorem inWindow_bounds {reminder : Reminder} {periodEnd now : Int}
    (inside : InWindow reminder periodEnd now) :
    periodEnd - 4 * day ≤ now ∧ now < periodEnd := by
  unfold InWindow at inside
  cases reminder <;>
    (simp only [Reminder.windowStart, Reminder.windowEnd, hour] at inside
     simp only [day]
     omega)

/-- Two checks in one window are the same: the interval is wider than the window. -/
theorem instant_unique {reminder : Reminder} {origin periodEnd first second : Int}
    (firstInside : InWindow reminder periodEnd first)
    (secondInside : InWindow reminder periodEnd second)
    (firstOnTime : (first - origin) % reminderInterval = 0)
    (secondOnTime : (second - origin) % reminderInterval = 0) : first = second := by
  unfold InWindow at firstInside secondInside
  cases reminder <;>
    (simp only [Reminder.windowStart, Reminder.windowEnd, reminderInterval, hour] at *
     omega)

theorem aligned_of_check {reminder : Reminder} {origin periodEnd now : Int}
    (inside : InWindow reminder periodEnd now) (onTime : (now - origin) % reminderInterval = 0) :
    Aligned origin periodEnd := by
  unfold InWindow at inside
  unfold Aligned
  cases reminder <;>
    (simp only [Reminder.windowStart, Reminder.windowEnd, reminderInterval, hour] at *
     omega)

/-- A schedule that is aligned has a check in each window. -/
theorem exists_check_instant {origin periodEnd : Int} (aligned : Aligned origin periodEnd)
    (reminder : Reminder) :
    ∃ now, InWindow reminder periodEnd now ∧ (now - origin) % reminderInterval = 0 := by
  unfold Aligned at aligned
  refine ⟨periodEnd - reminder.windowStart - (periodEnd - origin + hour) % reminderInterval, ?_, ?_⟩
  · unfold InWindow
    cases reminder <;>
      (simp only [Reminder.windowStart, Reminder.windowEnd, reminderInterval, hour] at *
       omega)
  · cases reminder <;>
      (simp only [Reminder.windowStart, reminderInterval, hour] at *
       omega)

theorem split_unique {α : Type} {items : List α} {related : α → α → Prop}
    (pairwise : items.Pairwise related) {before after before' after' : List α} {item item' : α}
    (split : items = before ++ item :: after) (split' : items = before' ++ item' :: after')
    (apart : ¬ related item item') (apart' : ¬ related item' item) :
    before = before' ∧ item = item' := by
  subst split
  have later : ∀ {front back rest : List α} {first second : α},
      (front ++ first :: back).Pairwise related → second ∈ back → rest = back →
      related first second := by
    intro front back rest first second pairs member _
    exact List.rel_of_pairwise_cons (List.pairwise_append.mp pairs).2.1 member
  rcases List.append_eq_append_iff.mp split' with ⟨middle, rfl, tails⟩ | ⟨middle, rfl, tails⟩
  · cases middle with
    | nil => exact ⟨(List.append_nil _).symm, (List.cons.inj tails).1⟩
    | cons first others =>
        obtain ⟨rfl, rfl⟩ := List.cons.inj tails
        exact absurd (later pairwise (by simp) rfl) apart
  · cases middle with
    | nil => exact ⟨List.append_nil _, (List.cons.inj tails).1.symm⟩
    | cons first others =>
        obtain ⟨rfl, rfl⟩ := List.cons.inj tails
        rw [split'] at pairwise
        exact absurd (later pairwise (by simp) rfl) apart'

section Periods

variable {id : String} {origin periodEnd : Int} {subs : Dict String RemindedSubscription}
  {steps : List ReminderStep} (scheduled : Scheduled origin periodEnd steps)
  (delivers : Delivers id subs steps)

theorem run_tgId {earlier : List ReminderStep} {sub : RemindedSubscription}
    (stored : (earlier.foldl ReminderState.step (ReminderState.start subs)).subs.get? id = some sub) :
    ∃ first, subs.get? id = some first ∧ sub.tgId = first.tgId := by
  have kept : EveryState ReminderState.step (ReminderState.start subs) earlier (fun state =>
      ∀ sub, state.subs.get? id = some sub →
        ∃ first, subs.get? id = some first ∧ sub.tgId = first.tgId) := by
    apply everyState_of_step
    · intro state next held sub stored
      rw [get?_step] at stored
      obtain ⟨before, found, rfl⟩ := Option.map_eq_some_iff.mp stored
      obtain ⟨first, isFirst, same⟩ := held before found
      exact ⟨first, isFirst, (row_tgId id next before).trans same⟩
    · exact fun sub stored => ⟨sub, stored, rfl⟩
  exact kept earlier [] (List.append_nil earlier).symm sub stored

include delivers in
/-- A check in the window of a period sends when the row ends then and is not marked. -/
theorem sends_of_check {earlier later : List ReminderStep} {next : ReminderStep}
    {reminder : Reminder} (split : steps = earlier ++ next :: later) (isCheck : next.isCheck = true)
    (inside : InWindow reminder periodEnd next.instant)
    (ends : EndsAt id periodEnd (earlier.foldl ReminderState.step (ReminderState.start subs)))
    (unmarked : Unmarked id reminder
      (earlier.foldl ReminderState.step (ReminderState.start subs))) :
    SendsFor id reminder periodEnd (earlier.foldl ReminderState.step (ReminderState.start subs))
      next := by
  obtain ⟨sub, stored, active, isEnd⟩ := ends
  obtain ⟨other, found, unset⟩ := unmarked
  obtain rfl := Option.some.inj (stored.symm.trans found)
  obtain ⟨first, isFirst, same⟩ := run_tgId stored
  refine ⟨sub, stored, isCheck, ?_, isEnd⟩
  have member : next ∈ steps := by rw [split]; simp
  obtain ⟨instant, event⟩ := next
  cases event with
  | check delivered =>
      have sent := delivers _ member delivered rfl first isFirst
      obtain ⟨starts, stops⟩ := inside
      simp only [ReminderStep.sets, isDue, same, sent, Bool.and_eq_true, decide_eq_true_eq, active,
        unset, isEnd, starts, stops, and_self]
  | retention _ _ => cases isCheck
  | payment _ _ => cases isCheck
  | bonus _ _ => cases isCheck

/-- What is sent for a period is sent by a check in its window. -/
theorem inWindow_of_sends {state : ReminderState} {next : ReminderStep} {reminder : Reminder}
    (sends : SendsFor id reminder periodEnd state next) :
    next.isCheck = true ∧ InWindow reminder periodEnd next.instant ∧ EndsAt id periodEnd state := by
  obtain ⟨sub, stored, isCheck, sets, isEnd⟩ := sends
  obtain ⟨instant, event⟩ := next
  cases event with
  | check delivered =>
      simp only [ReminderStep.sets, isDue, Bool.and_eq_true, decide_eq_true_eq, isEnd] at sets
      exact ⟨rfl, ⟨sets.1.1.1.2, sets.1.1.2⟩, sub, stored, sets.1.1.1.1, isEnd⟩
  | retention _ _ => cases isCheck
  | payment _ _ => cases isCheck
  | bonus _ _ => cases isCheck

include scheduled in
theorem check_unique {reminder : Reminder} {before after before' after' : List ReminderStep}
    {next next' : ReminderStep} (split : steps = before ++ next :: after)
    (split' : steps = before' ++ next' :: after') (isCheck : next.isCheck = true)
    (isCheck' : next'.isCheck = true) (inside : InWindow reminder periodEnd next.instant)
    (inside' : InWindow reminder periodEnd next'.instant) : before = before' ∧ next = next' := by
  have bounds := inWindow_bounds inside
  have bounds' := inWindow_bounds inside'
  have onTime := scheduled.onTime next (by rw [split]; simp) isCheck bounds.1 bounds.2
  have onTime' := scheduled.onTime next' (by rw [split']; simp) isCheck' bounds'.1 bounds'.2
  have same := instant_unique inside inside' onTime onTime'
  exact split_unique scheduled.once split split'
    (fun apart => apart isCheck isCheck' bounds.1 bounds'.2 same)
    (fun apart => apart isCheck' isCheck bounds'.1 bounds.2 same.symm)

include scheduled in
/-- In the last three days the row ends where the period does. -/
theorem endsAt_of_lastDay (reached : ReachedUnrenewed id periodEnd subs steps)
    {earlier later : List ReminderStep} {next : ReminderStep}
    (split : steps = earlier ++ next :: later)
    (inside : InWindow .oneDay periodEnd next.instant) :
    EndsAt id periodEnd (earlier.foldl ReminderState.step (ReminderState.start subs)) := by
  have ordered := scheduled.ordered
  rw [split, List.pairwise_append, List.pairwise_cons] at ordered
  obtain ⟨_, ⟨afterNext, _⟩, beforeNext⟩ := ordered
  obtain ⟨starts, stops⟩ := inside
  simp only [Reminder.windowStart, Reminder.windowEnd, hour] at starts stops
  apply reached earlier (next :: later) split
  · intro step member
    have before := beforeNext step member next List.mem_cons_self
    omega
  · intro step member
    simp only [day]
    rcases List.mem_cons.mp member with rfl | inLater
    · omega
    · have after := afterNext step inLater
      omega

include scheduled delivers in
/-- A period that is reached gets both reminders exactly when the schedule is aligned with its
end, the end is set before the check in the window of three days, and neither marker is set
before the check in its window. -/
theorem period_reminded_iff (reached : ReachedUnrenewed id periodEnd subs steps) :
    (∀ reminder, sentFor id reminder periodEnd
        (steps.foldl ReminderState.step (ReminderState.start subs)) = 1) ↔
      Aligned origin periodEnd ∧ SetInTime id periodEnd subs steps ∧
        ∀ reminder, Untouched id periodEnd reminder subs steps := by
  have none : ∀ reminder, sentFor id reminder periodEnd (ReminderState.start subs) = 0 :=
    fun _ => rfl
  have sent_iff : ∀ reminder, sentFor id reminder periodEnd
      (steps.foldl ReminderState.step (ReminderState.start subs)) = 1 ↔
      ∃ earlier next later, steps = earlier ++ next :: later ∧ SendsFor id reminder periodEnd
        (earlier.foldl ReminderState.step (ReminderState.start subs)) next := by
    intro reminder
    have run := @Firing.count_run _ _ _ _ _ _ _ (ReminderState.start subs) steps
      (reminder_firing id reminder periodEnd) (marker_latch id reminder)
    rwa [none reminder] at run
  constructor
  · intro sent
    have atCheck : ∀ reminder earlier next later, steps = earlier ++ next :: later →
        next.isCheck = true → InWindow reminder periodEnd next.instant →
        SendsFor id reminder periodEnd
          (earlier.foldl ReminderState.step (ReminderState.start subs)) next := by
      intro reminder earlier next later split isCheck inside
      obtain ⟨before, sender, after, found, sends⟩ := (sent_iff reminder).mp (sent reminder)
      obtain ⟨checks, within, _⟩ := inWindow_of_sends sends
      obtain ⟨rfl, rfl⟩ := check_unique scheduled split found isCheck checks inside within
      exact sends
    refine ⟨?_, ?_, ?_⟩
    · obtain ⟨earlier, next, later, split, sends⟩ := (sent_iff .threeDays).mp (sent .threeDays)
      obtain ⟨isCheck, inside, _⟩ := inWindow_of_sends sends
      obtain ⟨starts, stops⟩ := inWindow_bounds inside
      exact aligned_of_check inside
        (scheduled.onTime next (by rw [split]; simp) isCheck starts stops)
    · intro earlier next later split isCheck inside
      exact (inWindow_of_sends (atCheck .threeDays earlier next later split isCheck inside)).2.2
    · intro reminder
      constructor
      · obtain ⟨earlier, next, later, split, sends⟩ := (sent_iff reminder).mp (sent reminder)
        exact ((marker_latch id reminder).open_run.mp
          ((reminder_firing id reminder periodEnd).needs _ _ sends)).1
      · intro earlier next later split isCheck inside
        have sends := atCheck reminder earlier next later split isCheck inside
        exact ((marker_latch id reminder).open_run.mp
          ((reminder_firing id reminder periodEnd).needs _ _ sends)).2
  · rintro ⟨aligned, inTime, untouched⟩ reminder
    obtain ⟨now, inside, onTime⟩ := exists_check_instant aligned reminder
    obtain ⟨starts, stops⟩ := inWindow_bounds inside
    obtain ⟨next, member, isCheck, rfl⟩ := scheduled.complete now starts stops onTime
    obtain ⟨earlier, later, split⟩ := List.append_of_mem member
    have ends : EndsAt id periodEnd
        (earlier.foldl ReminderState.step (ReminderState.start subs)) := by
      cases reminder with
      | threeDays => exact inTime earlier next later split isCheck inside
      | oneDay => exact endsAt_of_lastDay scheduled reached split inside
    obtain ⟨unmarked, quiet⟩ := untouched reminder
    have free := (marker_latch id reminder).open_run.mpr
      ⟨unmarked, quiet earlier next later split isCheck inside⟩
    exact (sent_iff reminder).mpr
      ⟨earlier, next, later, split, sends_of_check delivers split isCheck inside ends free⟩

end Periods

/-- Once a marker is set, whoever set it and for whichever period, no reminder of its kind is
sent any more. -/
theorem no_reminder_once_marked {id : String} {reminder : Reminder} (periodEnd : Int)
    {state : ReminderState} {steps : List ReminderStep} {sub : RemindedSubscription}
    (stored : state.subs.get? id = some sub) (marked : sub.marker reminder ≠ none) :
    sentFor id reminder periodEnd (steps.foldl ReminderState.step state) =
      sentFor id reminder periodEnd state := by
  have closed : ¬ Unmarked id reminder state := by
    rintro ⟨other, found, unset⟩
    obtain rfl := Option.some.inj (stored.symm.trans found)
    exact marked unset
  exact (Firing.count_of_closed (reminder_firing id reminder periodEnd)
    (marker_latch id reminder) closed).1

/-! ### Regular schedules -/

def ReminderStep.isPayment (next : ReminderStep) : Bool :=
  match next.event with
  | .check _ => false
  | .retention _ _ => false
  | .payment _ _ => true
  | .bonus _ _ => true

theorem row_terms (id : String) {next : ReminderStep} (quiet : next.isPayment = false)
    (sub : RemindedSubscription) : SameTerms sub (next.row id sub) := by
  obtain ⟨instant, event⟩ := next
  cases event with
  | check delivered => exact (marking_check instant delivered sub).terms
  | retention clock rules =>
      unfold ReminderStep.row
      dsimp only
      split
      · exact SameTerms.refl sub
      · exact (marking_applyPlan instant _ sub).terms
  | payment _ _ => cases quiet
  | bonus _ _ => cases quiet

/-- Without payments the end stays where it is. -/
theorem reachedUnrenewed_of_quiet {id : String} {periodEnd : Int}
    {subs : Dict String RemindedSubscription} {steps : List ReminderStep}
    (ends : EndsAt id periodEnd (ReminderState.start subs))
    (quiet : ∀ next ∈ steps, next.isPayment = false) :
    ReachedUnrenewed id periodEnd subs steps := by
  have every : EveryStep ReminderState.step (ReminderState.start subs) steps
      (fun _ next => next.isPayment = false) := by
    intro earlier next later split
    exact quiet next (by rw [split]; simp)
  have kept : EveryState ReminderState.step (ReminderState.start subs) steps
      (EndsAt id periodEnd) := by
    apply every.keeps _ ends
    rintro state next ⟨sub, stored, active, isEnd⟩ isQuiet
    have terms := (row_terms id isQuiet sub).toSubscription
    refine ⟨next.row id sub, ?_, ?_, ?_⟩
    · rw [get?_step, stored, Option.map_some]
    · rw [terms, active]
    · rw [terms, isEnd]
  exact fun earlier later split _ _ => kept earlier later split

def regularChecks (first : Int) (count : Nat) : List ReminderStep :=
  (List.range count).map (fun (index : Nat) =>
    ⟨first + (index : Int) * reminderInterval, .check (fun _ => true)⟩)

theorem scheduled_regularChecks {first periodEnd : Int} {count : Nat}
    (early : first - reminderInterval < periodEnd - 4 * day)
    (late : periodEnd ≤ first + count * reminderInterval) :
    Scheduled first periodEnd (regularChecks first count) := by
  simp only [reminderInterval, hour] at early late
  constructor
  · refine List.Pairwise.map _ ?_ List.pairwise_lt_range
    intro index later before
    simp only [reminderInterval, hour]
    omega
  · intro next member _ _ _
    obtain ⟨index, _, rfl⟩ := List.mem_map.mp member
    simp only [reminderInterval, hour]
    omega
  · intro instant starts stops onTime
    simp only [reminderInterval, hour] at onTime
    refine ⟨⟨first + ((instant - first) / (6 * hour)).toNat * reminderInterval,
      .check (fun _ => true)⟩, List.mem_map.mpr ⟨_, List.mem_range.mpr ?_, rfl⟩, rfl, ?_⟩
    · simp only [hour]
      omega
    · simp only [hour, reminderInterval]
      omega
  · refine List.Pairwise.map _ ?_ List.pairwise_lt_range
    intro index later before _ _ _ _
    simp only [reminderInterval, hour]
    omega

theorem delivers_regularChecks (id : String) (subs : Dict String RemindedSubscription)
    (first : Int) (count : Nat) : Delivers id subs (regularChecks first count) := by
  intro next member delivered isCheck sub _
  obtain ⟨index, _, rfl⟩ := List.mem_map.mp member
  obtain rfl := ReminderEvent.check.inj isCheck
  rfl

theorem quiet_regularChecks (first : Int) (count : Nat) :
    ∀ next ∈ regularChecks first count, next.isPayment = false := by
  intro next member
  obtain ⟨index, _, rfl⟩ := List.mem_map.mp member
  rfl

def fourDays : Dict String RemindedSubscription :=
  Dict.ofList [("sub", ⟨⟨1, "plan", 0, 4 * day, "active"⟩, 42, 0, none, none, none⟩)]

theorem fourDays_ends : EndsAt "sub" (4 * day) (ReminderState.start fourDays) :=
  ⟨_, rfl, rfl, rfl⟩

/-- Checks at every sixth hour from the start on: both reminders are sent. -/
theorem sample_period_reminded :
    (∀ reminder, sentFor "sub" reminder (4 * day)
      ((regularChecks 0 16).foldl ReminderState.step (ReminderState.start fourDays)) = 1) ∧
    Aligned 0 (4 * day) ∧ SetInTime "sub" (4 * day) fourDays (regularChecks 0 16) ∧
      ∀ reminder, Untouched "sub" (4 * day) reminder fourDays (regularChecks 0 16) := by
  have sent : ∀ reminder, sentFor "sub" reminder (4 * day)
      ((regularChecks 0 16).foldl ReminderState.step (ReminderState.start fourDays)) = 1 := by
    intro reminder
    cases reminder <;> decide +kernel
  exact ⟨sent, (period_reminded_iff (scheduled_regularChecks (by decide) (by decide))
    (delivers_regularChecks "sub" fourDays 0 16)
    (reachedUnrenewed_of_quiet fourDays_ends (quiet_regularChecks 0 16))).mp sent⟩

/-- Checks three hours later: no reminder is sent. -/
theorem misaligned_period_unreminded :
    Scheduled (3 * hour) (4 * day) (regularChecks (3 * hour) 16) ∧
    Delivers "sub" fourDays (regularChecks (3 * hour) 16) ∧
    ReachedUnrenewed "sub" (4 * day) fourDays (regularChecks (3 * hour) 16) ∧
    ∀ reminder, sentFor "sub" reminder (4 * day)
      ((regularChecks (3 * hour) 16).foldl ReminderState.step (ReminderState.start fourDays)) =
        0 := by
  refine ⟨scheduled_regularChecks (by decide) (by decide),
    delivers_regularChecks "sub" fourDays (3 * hour) 16,
    reachedUnrenewed_of_quiet fourDays_ends (quiet_regularChecks (3 * hour) 16), ?_⟩
  intro reminder
  cases reminder <;> decide +kernel

end VpnSuite.Billing
