/-
Versions for contents, kept under two keys that are read and written one at a time.

A call reads the stored content and the stored version.  It keeps the version when the content
is its own and takes the next one otherwise, stores the version, and stores its content.  The
calls of several processes interleave command by command.

A version should name one content.  This holds, with the stored version never lowered, exactly
when each call that stores a version finds the keys as it read them, or as a call with the same
content has left them.  Contents are arbitrary.
-/

import VpnSuite.Foundations.StepRuns
import Mathlib.Logic.Function.Basic

set_option autoImplicit false

namespace VpnSuite.Foundations.ContentVersions

variable {κ : Type}

inductive Phase (κ : Type) where
  | idle
  | compared (content : κ)
  | decided (content : κ) (version : Nat)
  | versioned (version : Nat)
  | returned (version : Nat)
  deriving DecidableEq, Repr

/-- The version a call has taken. -/
def Phase.taken : Phase κ → Option Nat
  | .versioned version => some version
  | .returned version => some version
  | _ => none

def Phase.answer : Phase κ → Option Nat
  | .returned version => some version
  | _ => none

/-- The two keys, the calls, and the call that stored the version last. -/
structure System (κ : Type) where
  content : Option κ
  version : Option Nat
  holder : Option Nat
  calls : Nat → Phase κ

def System.start : System κ := ⟨none, none, none, fun _ => .idle⟩

/-- A missing version counts as zero. -/
def System.stored (system : System κ) : Nat := system.version.getD 0

def System.setCall (system : System κ) (call : Nat) (phase : Phase κ) : System κ :=
  { system with calls := Function.update system.calls call phase }

inductive Command where
  | getContent (call : Nat)
  | getVersion (call : Nat)
  | setVersion (call : Nat)
  | setContent (call : Nat)
  deriving DecidableEq, Repr

def nextVersion [DecidableEq κ] (content own : κ) (version : Nat) : Nat :=
  if content = own ∧ 0 < version then version else version + 1

/-- One command of a call; a missing content reads as `blank`.  A command out of turn does
nothing. -/
def step [DecidableEq κ] (own : Nat → κ) (blank : κ) (system : System κ) : Command → System κ
  | .getContent call =>
      match system.calls call with
      | .idle => system.setCall call (.compared (system.content.getD blank))
      | _ => system
  | .getVersion call =>
      match system.calls call with
      | .compared content => system.setCall call (.decided content system.stored)
      | _ => system
  | .setVersion call =>
      match system.calls call with
      | .decided content version =>
          { system.setCall call (.versioned (nextVersion content (own call) version)) with
            version := some (nextVersion content (own call) version)
            holder := some call }
      | _ => system
  | .setContent call =>
      match system.calls call with
      | .versioned version =>
          { system.setCall call (.returned version) with content := some (own call) }
      | _ => system

/-! ### The promise and its condition -/

/-- Calls that have taken one version have one content. -/
def NamesOne (own : Nat → κ) (system : System κ) : Prop :=
  ∀ left right version, (system.calls left).taken = some version →
    (system.calls right).taken = some version → own left = own right

def NeverLowers [DecidableEq κ] (own : Nat → κ) (blank : κ) (system : System κ)
    (command : Command) : Prop :=
  system.stored ≤ (step own blank system command).stored

/-- The call that stored the version last has this content. -/
def System.HeldBy (own : Nat → κ) (system : System κ) (content : κ) : Prop :=
  system.holder.map own = some content

/-- What a call should find that has read a content and a version: the version as it read it,
stored for its own content if it has read that; or, if it has read another content, the next
version, stored for its own. -/
def Undisturbed (own : Nat → κ) (system : System κ) (call : Nat) (content : κ) (version : Nat) :
    Prop :=
  system.stored = version ∧
      (content = own call ∧ 0 < version → system.HeldBy own (own call)) ∨
    system.stored = version + 1 ∧ ¬ (content = own call ∧ 0 < version) ∧
      system.HeldBy own (own call)

/-- A call that stores a version has been undisturbed since it read the keys. -/
def KeepsNames (own : Nat → κ) (system : System κ) : Command → Prop
  | .setVersion call => ∀ content version, system.calls call = .decided content version →
      Undisturbed own system call content version
  | _ => True

/-- What calls know of the stored version, and that its last writer has taken it. -/
structure Ordered (system : System κ) : Prop where
  taken : ∀ call version, (system.calls call).taken = some version →
    0 < version ∧ version ≤ system.stored
  read : ∀ call content version, system.calls call = .decided content version →
    version ≤ system.stored
  holder : ∀ call, system.holder = some call →
    (system.calls call).taken = some system.stored
  held : 0 < system.stored → system.holder.isSome = true

/-! ### One command -/

section Steps

variable {own : Nat → κ} {blank : κ} {system : System κ}

theorem ordered_start : Ordered (System.start : System κ) where
  taken := by
    intro call version took
    cases took
  read := by
    intro call content version read
    cases read
  holder := by
    intro call last
    cases last
  held := fun positive => absurd positive (Nat.lt_irrefl 0)

theorem namesOne_start : NamesOne own (System.start : System κ) := by
  intro left right version took
  cases took

/-- The phase of a call after another phase is entered. -/
theorem setCall_calls (system : System κ) (call other : Nat) (phase : Phase κ) :
    (system.setCall call phase).calls other =
      if other = call then phase else system.calls other := by
  by_cases same : other = call
  · subst same
    rw [if_pos rfl]
    exact Function.update_self ..
  · rw [if_neg same]
    exact Function.update_of_ne same ..

/-- The calls that have taken the stored version have the content of its last writer. -/
theorem NamesOne.of_held (names : NamesOne own system) (ordered : Ordered system) {content : κ}
    (held : system.HeldBy own content) {call : Nat}
    (took : (system.calls call).taken = some system.stored) : own call = content := by
  obtain ⟨holder, last, rfl⟩ := Option.map_eq_some_iff.mp held
  exact names call holder system.stored took (ordered.holder holder last)

variable [DecidableEq κ]

theorem nextVersion_cases (content own : κ) (version : Nat) :
    (content = own ∧ 0 < version) ∧ nextVersion content own version = version ∨
      ¬ (content = own ∧ 0 < version) ∧ nextVersion content own version = version + 1 := by
  unfold nextVersion
  by_cases same : content = own ∧ 0 < version
  · exact Or.inl ⟨same, if_pos same⟩
  · exact Or.inr ⟨same, if_neg same⟩

theorem nextVersion_pos (content own : κ) (version : Nat) :
    0 < nextVersion content own version := by
  rcases nextVersion_cases content own version with ⟨same, next⟩ | ⟨_, next⟩
  · rw [next]
    exact same.2
  · rw [next]
    exact Nat.succ_pos version

variable (own blank system) in
/-- A command does nothing, reads for a call without a version, stores a version, or ends a
call. -/
theorem step_cases (command : Command) :
    step own blank system command = system ∨
    (∃ call phase, (system.calls call).taken = none ∧ phase.taken = none ∧
      (∀ content version, phase = .decided content version → version = system.stored) ∧
      step own blank system command = system.setCall call phase) ∨
    (∃ call content version, command = .setVersion call ∧
      system.calls call = .decided content version ∧
      step own blank system command =
        { system.setCall call (.versioned (nextVersion content (own call) version)) with
          version := some (nextVersion content (own call) version)
          holder := some call }) ∨
    (∃ call version, system.calls call = .versioned version ∧
      step own blank system command =
        { system.setCall call (.returned version) with content := some (own call) }) := by
  cases command with
  | getContent call =>
      cases found : system.calls call with
      | idle =>
          refine Or.inr (Or.inl ⟨call, .compared (system.content.getD blank), ?_, rfl, ?_, ?_⟩)
          · rw [found]; rfl
          · intro content version decided
            cases decided
          · simp only [step, found]
      | _ => exact Or.inl (by simp only [step, found])
  | getVersion call =>
      cases found : system.calls call with
      | compared content =>
          refine Or.inr (Or.inl ⟨call, .decided content system.stored, ?_, rfl, ?_, ?_⟩)
          · rw [found]; rfl
          · intro other version decided
            exact (Phase.decided.inj decided).2.symm
          · simp only [step, found]
      | _ => exact Or.inl (by simp only [step, found])
  | setVersion call =>
      cases found : system.calls call with
      | decided content version =>
          exact Or.inr (Or.inr (Or.inl ⟨call, content, version, rfl, found, by
            simp only [step, found]⟩))
      | _ => exact Or.inl (by simp only [step, found])
  | setContent call =>
      cases found : system.calls call with
      | versioned version =>
          exact Or.inr (Or.inr (Or.inr ⟨call, version, found, by simp only [step, found]⟩))
      | _ => exact Or.inl (by simp only [step, found])

/-- Unless the stored version is lowered, the order of the versions is kept. -/
theorem Ordered.step (ordered : Ordered system) {command : Command}
    (never : NeverLowers own blank system command) : Ordered (step own blank system command) := by
  unfold NeverLowers at never
  rcases step_cases own blank system command with
    same | ⟨call, phase, untaken, stays, read, same⟩ |
      ⟨call, content, version, _, decided, same⟩ | ⟨call, version, versioned, same⟩
  · rw [same]
    exact ordered
  · rw [same]
    constructor
    · intro other version took
      rw [setCall_calls] at took
      split at took
      · rw [stays] at took
        cases took
      · exact ordered.taken other version took
    · intro other content version decided
      rw [setCall_calls] at decided
      split at decided
      · exact Nat.le_of_eq (read content version decided)
      · exact ordered.read other content version decided
    · intro other last
      have took := ordered.holder other last
      rw [setCall_calls, if_neg]
      · exact took
      · rintro rfl
        rw [untaken] at took
        cases took
    · exact ordered.held
  · rw [same] at never ⊢
    have raised : system.stored ≤ nextVersion content (own call) version := never
    constructor
    · intro other taken took
      change (((system.setCall call _).calls other).taken = some taken) at took
      rw [setCall_calls] at took
      split at took
      · obtain rfl := Option.some.inj took
        exact ⟨nextVersion_pos content (own call) version, Nat.le_refl _⟩
      · obtain ⟨positive, below⟩ := ordered.taken other taken took
        exact ⟨positive, Nat.le_trans below raised⟩
    · intro other otherContent otherVersion otherDecided
      change (system.setCall call _).calls other = _ at otherDecided
      rw [setCall_calls] at otherDecided
      split at otherDecided
      · cases otherDecided
      · exact Nat.le_trans (ordered.read other otherContent otherVersion otherDecided) raised
    · intro other last
      obtain rfl := Option.some.inj last
      change ((system.setCall call _).calls call).taken = _
      rw [setCall_calls, if_pos rfl]
      rfl
    · intro _
      rfl
  · rw [same]
    have ownTaken : (system.calls call).taken = some version := by
      rw [versioned]
      rfl
    constructor
    · intro other taken took
      change (((system.setCall call _).calls other).taken = some taken) at took
      rw [setCall_calls] at took
      split at took
      · obtain rfl := Option.some.inj took
        exact ordered.taken call version ownTaken
      · exact ordered.taken other taken took
    · intro other otherContent otherVersion otherDecided
      change (system.setCall call _).calls other = _ at otherDecided
      rw [setCall_calls] at otherDecided
      split at otherDecided
      · cases otherDecided
      · exact ordered.read other otherContent otherVersion otherDecided
    · intro other last
      have took := ordered.holder other last
      change ((system.setCall call _).calls other).taken = _
      rw [setCall_calls]
      split
      · rename_i here
        rw [here, ownTaken] at took
        exact took
      · exact took
    · exact ordered.held

/-- Only storing a version gives a call a version. -/
theorem taken_step {command : Command} {other version : Nat}
    (took : ((step own blank system command).calls other).taken = some version) :
    (system.calls other).taken = some version ∨
      ∃ content read, command = .setVersion other ∧ system.calls other = .decided content read ∧
        version = nextVersion content (own other) read := by
  rcases step_cases own blank system command with
    same | ⟨call, phase, _, stays, _, same⟩ |
      ⟨call, content, read, issued, decided, same⟩ | ⟨call, _, versioned, same⟩
  · rw [same] at took
    exact Or.inl took
  · rw [same, setCall_calls] at took
    split at took
    · rw [stays] at took
      cases took
    · exact Or.inl took
  · rw [same] at took
    change ((system.setCall call _).calls other).taken = _ at took
    rw [setCall_calls] at took
    split at took
    · rename_i here
      subst here
      exact Or.inr ⟨content, read, issued, decided, (Option.some.inj took).symm⟩
    · exact Or.inl took
  · rw [same] at took
    change ((system.setCall call _).calls other).taken = _ at took
    rw [setCall_calls] at took
    split at took
    · rename_i here
      subst here
      rw [versioned]
      exact Or.inl took
    · exact Or.inl took

/-- A version once taken is kept. -/
theorem taken_kept {command : Command} {other version : Nat}
    (took : (system.calls other).taken = some version) :
    ((step own blank system command).calls other).taken = some version := by
  rcases step_cases own blank system command with
    same | ⟨call, phase, untaken, _, _, same⟩ |
      ⟨call, content, read, _, decided, same⟩ | ⟨call, _, versioned, same⟩
  · rw [same]
    exact took
  · rw [same, setCall_calls, if_neg]
    · exact took
    · rintro rfl
      rw [untaken] at took
      cases took
  · rw [same]
    change ((system.setCall call _).calls other).taken = _
    rw [setCall_calls, if_neg]
    · exact took
    · rintro rfl
      rw [decided] at took
      cases took
  · rw [same]
    change ((system.setCall call _).calls other).taken = _
    rw [setCall_calls]
    split
    · rename_i here
      subst here
      rw [versioned] at took
      exact took
    · exact took

theorem stored_setVersion {call : Nat} {content : κ} {version : Nat}
    (decided : system.calls call = .decided content version) :
    (step own blank system (.setVersion call)).stored = nextVersion content (own call) version := by
  simp only [ContentVersions.step, decided]
  rfl

theorem stored_other {command : Command}
    (other : ∀ call content version, command = .setVersion call →
      system.calls call ≠ .decided content version) :
    (step own blank system command).stored = system.stored := by
  rcases step_cases own blank system command with
    same | ⟨call, phase, _, _, _, same⟩ |
      ⟨call, content, read, issued, decided, same⟩ | ⟨call, _, _, same⟩
  · rw [same]
  · rw [same]
    rfl
  · exact absurd decided (other call content read issued)
  · rw [same]
    rfl

/-- An undisturbed call does not lower the version, and one that keeps it has the content of its
last writer. -/
theorem Undisturbed.next {call : Nat} {content : κ} {version : Nat}
    (undisturbed : Undisturbed own system call content version) :
    system.stored ≤ nextVersion content (own call) version ∧
      (nextVersion content (own call) version = system.stored →
        system.HeldBy own (own call)) := by
  rcases nextVersion_cases content (own call) version with ⟨kept, next⟩ | ⟨raised, next⟩
  · rcases undisturbed with ⟨asRead, held⟩ | ⟨_, other, _⟩
    · rw [next, asRead]
      exact ⟨Nat.le_refl _, fun _ => held kept⟩
    · exact absurd kept other
  · rcases undisturbed with ⟨asRead, _⟩ | ⟨ahead, _, held⟩
    · rw [next, asRead]
      exact ⟨Nat.le_succ _, fun same => absurd same (Nat.succ_ne_self _)⟩
    · rw [next, ahead]
      exact ⟨Nat.le_refl _, fun _ => held⟩

theorem KeepsNames.neverLowers {command : Command} (keeps : KeepsNames own system command) :
    NeverLowers own blank system command := by
  unfold NeverLowers
  by_cases stores : ∃ call content version, command = .setVersion call ∧
      system.calls call = .decided content version
  · obtain ⟨call, content, version, rfl, decided⟩ := stores
    rw [stored_setVersion decided]
    exact (keeps content version decided).next.1
  · have unchanged : (step own blank system command).stored = system.stored := by
      apply stored_other
      intro call content version issued decided
      exact stores ⟨call, content, version, issued, decided⟩
    exact Nat.le_of_eq unchanged.symm

theorem KeepsNames.namesOne {command : Command} (keeps : KeepsNames own system command)
    (ordered : Ordered system) (names : NamesOne own system) :
    NamesOne own (step own blank system command) := by
  -- a call that took the version before and one that takes it now
  have agree : ∀ old new version content read, (system.calls old).taken = some version →
      command = .setVersion new → system.calls new = .decided content read →
      version = nextVersion content (own new) read → own old = own new := by
    rintro old new version content read took rfl decided rfl
    have undisturbed := (keeps content read decided).next
    have below := (ordered.taken old _ took).2
    have same := Nat.le_antisymm below undisturbed.1
    rw [same] at took
    exact names.of_held ordered (undisturbed.2 same) took
  intro left right version tookLeft tookRight
  rcases taken_step tookLeft with oldLeft | ⟨contentLeft, readLeft, issuedLeft, decidedLeft, newLeft⟩
  · rcases taken_step tookRight with
      oldRight | ⟨contentRight, readRight, issuedRight, decidedRight, newRight⟩
    · exact names left right version oldLeft oldRight
    · exact agree left right version contentRight readRight oldLeft issuedRight decidedRight
        newRight
  · rcases taken_step tookRight with oldRight | ⟨_, _, issuedRight, _, _⟩
    · exact (agree right left version contentLeft readLeft oldRight issuedLeft decidedLeft
        newLeft).symm
    · rw [issuedLeft] at issuedRight
      rw [Command.setVersion.inj issuedRight]

/-- What the promise asks of a call that stores a version. -/
theorem keepsNames_of_step {command : Command} (ordered : Ordered system)
    (never : NeverLowers own blank system command)
    (names : NamesOne own (step own blank system command)) : KeepsNames own system command := by
  cases command with
  | setVersion call =>
      intro content version decided
      unfold NeverLowers at never
      rw [stored_setVersion decided] at never
      have below := ordered.read call content version decided
      have held : 0 < system.stored → nextVersion content (own call) version = system.stored →
          system.HeldBy own (own call) := by
        intro positive same
        obtain ⟨holder, last⟩ := Option.isSome_iff_exists.mp (ordered.held positive)
        have holderTook : ((ContentVersions.step own blank system (.setVersion call)).calls
            holder).taken = some system.stored := taken_kept (ordered.holder holder last)
        have callTook : ((ContentVersions.step own blank system (.setVersion call)).calls
            call).taken = some system.stored := by
          simp only [ContentVersions.step, decided]
          rw [setCall_calls, if_pos rfl, ← same]
          rfl
        rw [System.HeldBy, last, Option.map_some, names holder call _ holderTook callTook]
      rcases nextVersion_cases content (own call) version with ⟨kept, next⟩ | ⟨raised, next⟩
      · rw [next] at never held
        have asRead := Nat.le_antisymm never below
        exact Or.inl ⟨asRead, fun same => held (asRead ▸ same.2) asRead.symm⟩
      · rw [next] at never held
        rcases Nat.lt_or_ge version system.stored with ahead | asRead
        · have one := Nat.le_antisymm never ahead
          exact Or.inr ⟨one, raised, held (one ▸ Nat.succ_pos version) one.symm⟩
        · exact Or.inl ⟨Nat.le_antisymm asRead below, fun same => absurd same raised⟩
  | getContent call => trivial
  | getVersion call => trivial
  | setContent call => trivial

end Steps

/-! ### Runs -/

section Runs

variable [DecidableEq κ] {own : Nat → κ} {blank : κ}

/-- Over a run, no version is lowered and each names one content exactly when every call that
stores a version has been undisturbed. -/
theorem namesOne_run_iff (commands : List Command) :
    EveryStep (step own blank) System.start commands (NeverLowers own blank) ∧
        EveryState (step own blank) System.start commands (NamesOne own) ↔
      EveryStep (step own blank) System.start commands (KeepsNames own) := by
  constructor
  · rintro ⟨never, names⟩ earlier command later split
    have ordered : EveryState (step own blank) System.start commands Ordered :=
      never.keeps (fun _ _ held lawful => held.step lawful) ordered_start
    have after := names (earlier ++ [command]) later (by rw [split, List.append_assoc]; rfl)
    rw [List.foldl_append] at after
    exact keepsNames_of_step (ordered earlier (command :: later) split)
      (never earlier command later split) after
  · intro keeps
    have both : EveryState (step own blank) System.start commands
        (fun system => Ordered system ∧ NamesOne own system) :=
      keeps.keeps (fun _ _ held allowed =>
        ⟨held.1.step allowed.neverLowers, allowed.namesOne held.1 held.2⟩)
        ⟨ordered_start, namesOne_start⟩
    refine ⟨?_, both.imp And.right⟩
    intro earlier command later split
    exact (keeps earlier command later split).neverLowers

/-- The four commands of a call, with none of another in between. -/
def alone (call : Nat) : List Command :=
  [.getContent call, .getVersion call, .setVersion call, .setContent call]

variable (own blank) in
/-- What a call alone leaves under the keys and returns. -/
theorem alone_run {system : System κ} {call : Nat} (idle : system.calls call = .idle) :
    (alone call).foldl (step own blank) system =
      let next := nextVersion (system.content.getD blank) (own call) system.stored
      ⟨some (own call), some next, some call,
        Function.update system.calls call (.returned next)⟩ := by
  simp only [alone, List.foldl_cons, List.foldl_nil, step, idle, System.setCall, System.stored,
    Function.update_self, Function.update_idem]

/-- As it is when no call is between its commands: the last writer has stored its content too. -/
structure Settled (own : Nat → κ) (system : System κ) : Prop where
  content : 0 < system.stored → ∃ holder, system.holder = some holder ∧
    system.content = some (own holder)

variable (blank) in
theorem Settled.alone {system : System κ} (settled : Settled own system) {call : Nat}
    (idle : system.calls call = .idle) :
    EveryStep (step own blank) system (alone call) (KeepsNames own) ∧
      Settled own ((alone call).foldl (step own blank) system) := by
  constructor
  · refine everyStep_cons.mpr ⟨trivial, everyStep_cons.mpr ⟨trivial, everyStep_cons.mpr
      ⟨?_, everyStep_cons.mpr ⟨trivial, everyStep_nil⟩⟩⟩⟩
    simp only [step, idle, System.setCall, Function.update_self, Function.update_idem]
    intro content version decided
    simp only [Function.update_self] at decided
    obtain ⟨rfl, rfl⟩ := Phase.decided.inj decided
    refine Or.inl ⟨rfl, ?_⟩
    rintro ⟨same, positive⟩
    obtain ⟨holder, last, stored⟩ := settled.content positive
    rw [stored, Option.getD_some] at same
    change system.holder.map own = _
    rw [last, Option.map_some, same]
  · rw [alone_run own blank idle]
    exact ⟨fun _ => ⟨call, rfl, rfl⟩⟩

variable (own blank) in
/-- Calls that run one after the other keep the names. -/
theorem keepsNames_serial (calls : List Nat) (distinct : calls.Nodup) :
    EveryStep (step own blank) System.start (calls.flatMap alone) (KeepsNames own) := by
  have run : ∀ system : System κ, Settled own system →
      (∀ call ∈ calls, system.calls call = .idle) →
      EveryStep (step own blank) system (calls.flatMap alone) (KeepsNames own) := by
    induction calls with
    | nil => exact fun _ _ _ => everyStep_nil
    | cons call rest ih =>
        intro system settled idle
        rw [List.nodup_cons] at distinct
        obtain ⟨keeps, after⟩ := settled.alone blank (idle call (List.mem_cons_self ..))
        rw [List.flatMap_cons]
        refine everyStep_append.mpr ⟨keeps, ih distinct.2 _ after ?_⟩
        intro other member
        rw [alone_run own blank (idle call (List.mem_cons_self ..))]
        have different : other ≠ call := fun same => distinct.1 (same ▸ member)
        change Function.update _ call _ other = _
        rw [Function.update_of_ne different]
        exact idle other (List.mem_cons_of_mem call member)
  exact run System.start ⟨fun positive => absurd positive (Nat.lt_irrefl 0)⟩ (fun _ _ => rfl)

variable (own blank) in
/-- Of two calls one after the other, the second has the version of the first when it has its
content, and the next one otherwise. -/
theorem alone_twice {system : System κ} {first second : Nat} (different : first ≠ second)
    (idleFirst : system.calls first = .idle) (idleSecond : system.calls second = .idle) :
    ∃ version,
      (((alone first ++ alone second).foldl (step own blank) system).calls first).answer =
        some version ∧
      (((alone first ++ alone second).foldl (step own blank) system).calls second).answer =
        some (if own first = own second then version else version + 1) := by
  rw [List.foldl_append, alone_run own blank idleFirst]
  have stillIdle : Function.update system.calls first (.returned
      (nextVersion (system.content.getD blank) (own first) system.stored)) second = .idle := by
    rw [Function.update_of_ne different.symm]
    exact idleSecond
  rw [alone_run own blank stillIdle]
  generalize taken : nextVersion (system.content.getD blank) (own first) system.stored = version
  have positive : 0 < version := taken ▸ nextVersion_pos ..
  refine ⟨version, ?_, ?_⟩
  · simp only [Function.update_of_ne different, Function.update_self]
    rfl
  · simp only [Function.update_self, Phase.answer, Option.getD_some, System.stored, nextVersion,
      positive, and_true]

end Runs

end VpnSuite.Foundations.ContentVersions
