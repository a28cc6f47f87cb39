/-
Transactions that decide on a committed table and write to it later.

Each party may hold an intent, taken when the committed table had room for it.  Between
the decision and the write other parties commit.  The table stays safe as long as no two
intents that are open at the same time conflict: then every open intent still fits when
its turn comes.

Whether the exclusion comes from a lock or from luck is no matter here; it is a premise
of the step that takes the intent.  The first section is about parties that exclude each
other by what they are doing, one of which moves at a time.
-/

import Mathlib.Logic.Function.Basic

set_option autoImplicit false

namespace VpnSuite.Foundations

/-! ### Parties that keep apart -/

section Apart

variable {ι φ : Type} {clash : φ → φ → Prop} {phases : ι → φ}

/-- No two parties are in phases that clash. -/
def Apart (clash : φ → φ → Prop) (phases : ι → φ) : Prop :=
  ∀ ⦃left right⦄, left ≠ right → ¬ clash (phases left) (phases right)

variable [DecidableEq ι]

/-- One party moves to a phase that clashes with no other. -/
theorem Apart.update (apart : Apart clash phases)
    (symmetric : ∀ {left right}, clash left right → clash right left) {party : ι} {phase : φ}
    (free : ∀ other, other ≠ party → ¬ clash phase (phases other)) :
    Apart clash (Function.update phases party phase) := by
  intro left right different
  by_cases leftMoved : left = party
  · have rightStays : right ≠ party := fun same => different (leftMoved.trans same.symm)
    rw [leftMoved, Function.update_self, Function.update_of_ne rightStays]
    exact free right rightStays
  · rw [Function.update_of_ne leftMoved]
    by_cases rightMoved : right = party
    · rw [rightMoved, Function.update_self]
      exact fun clashes => free left leftMoved (symmetric clashes)
    · rw [Function.update_of_ne rightMoved]
      exact apart different

/-- A phase that clashes with no more than the one before. -/
theorem Apart.update_weaker (apart : Apart clash phases)
    (symmetric : ∀ {left right}, clash left right → clash right left) {party : ι} {phase : φ}
    (weaker : ∀ other, clash phase other → clash (phases party) other) :
    Apart clash (Function.update phases party phase) := by
  apply apart.update symmetric
  intro other different clashes
  exact apart (Ne.symm different) (weaker (phases other) clashes)

end Apart

/-! ### Intents against a committed table -/

variable {κ τ ω : Type}

/-- What an intent needs, what writing it does, and which intents exclude each other. -/
structure WriteRules (τ ω : Type) where
  fits : τ → ω → Prop
  writes : τ → ω → τ → Prop
  conflicts : ω → ω → Prop
  safe : τ → Prop

structure WriteRules.Sound (rules : WriteRules τ ω) : Prop where
  symmetric : ∀ {left right}, rules.conflicts left right → rules.conflicts right left
  safe_write : ∀ {before after intent}, rules.safe before → rules.fits before intent →
    rules.writes before intent after → rules.safe after
  fits_write : ∀ {before after intent other}, rules.fits before intent →
    rules.fits before other → ¬ rules.conflicts intent other →
    rules.writes before other after → rules.fits after intent

/-- A change of the table that takes no room away. -/
structure WriteRules.Harmless (rules : WriteRules τ ω) (before after : τ) : Prop where
  safe : rules.safe before → rules.safe after
  fits : ∀ intent, rules.fits before intent → rules.fits after intent

theorem WriteRules.Harmless.refl (rules : WriteRules τ ω) (table : τ) :
    rules.Harmless table table := ⟨id, fun _ => id⟩

/-- The committed table and the intents held against it. -/
structure Ledger (κ τ ω : Type) where
  table : τ
  intent : κ → Option ω

/-- Only the party `key` changes its intent. -/
def Ledger.Moves (key : κ) (before after : Ledger κ τ ω) : Prop :=
  ∀ other, other ≠ key → after.intent other = before.intent other

inductive LedgerStep (rules : WriteRules τ ω) (before after : Ledger κ τ ω) : Prop where
  | reserve (key : κ) (intent : ω) (moves : before.Moves key after)
      (same : after.table = before.table) (taken : after.intent key = some intent)
      (fits : rules.fits before.table intent)
      (free : ∀ other held, other ≠ key → before.intent other = some held →
        ¬ rules.conflicts intent held)
  | commit (key : κ) (intent : ω) (moves : before.Moves key after)
      (held : before.intent key = some intent) (finished : after.intent key = none)
      (writes : rules.writes before.table intent after.table)
  | drop (key : κ) (moves : before.Moves key after) (same : after.table = before.table)
      (finished : after.intent key = none)
  | ambient (same : after.intent = before.intent)
      (harmless : rules.Harmless before.table after.table)

/-- The table is safe, every open intent fits, and no two of them conflict. -/
structure Reserved (rules : WriteRules τ ω) (ledger : Ledger κ τ ω) : Prop where
  safe : rules.safe ledger.table
  fits : ∀ key intent, ledger.intent key = some intent → rules.fits ledger.table intent
  apart : ∀ left right first second, left ≠ right → ledger.intent left = some first →
    ledger.intent right = some second → ¬ rules.conflicts first second

variable {rules : WriteRules τ ω} {before after : Ledger κ τ ω}

theorem Ledger.ne_of_open {ledger : Ledger κ τ ω} {key other : κ} {intent : ω}
    (finished : ledger.intent key = none) (open_ : ledger.intent other = some intent) :
    other ≠ key := by
  rintro rfl
  rw [finished] at open_
  cases open_

/-- Giving up an intent leaves the others reserved. -/
theorem Reserved.apart_of_moves {key : κ} (reserved : Reserved rules before)
    (moves : before.Moves key after) (finished : after.intent key = none) :
    ∀ left right first second, left ≠ right → after.intent left = some first →
      after.intent right = some second → ¬ rules.conflicts first second := by
  intro left right first second different atLeft atRight
  rw [moves left (after.ne_of_open finished atLeft)] at atLeft
  rw [moves right (after.ne_of_open finished atRight)] at atRight
  exact reserved.apart left right first second different atLeft atRight

theorem Reserved.step (sound : rules.Sound) (reserved : Reserved rules before)
    (step : LedgerStep rules before after) : Reserved rules after := by
  cases step with
  | reserve key intent moves same taken fits free =>
      refine ⟨same ▸ reserved.safe, ?_, ?_⟩
      · intro other held open_
        rw [same]
        by_cases mine : other = key
        · rw [mine, taken] at open_
          obtain rfl := Option.some.inj open_
          exact fits
        · rw [moves other mine] at open_
          exact reserved.fits other held open_
      · intro left right first second different atLeft atRight
        by_cases leftMine : left = key
        · have rightOther : right ≠ key := fun same => different (leftMine.trans same.symm)
          rw [leftMine, taken] at atLeft
          rw [moves right rightOther] at atRight
          obtain rfl := Option.some.inj atLeft
          exact free right second rightOther atRight
        · rw [moves left leftMine] at atLeft
          by_cases rightMine : right = key
          · rw [rightMine, taken] at atRight
            obtain rfl := Option.some.inj atRight
            exact fun clash => free left first leftMine atLeft (sound.symmetric clash)
          · rw [moves right rightMine] at atRight
            exact reserved.apart left right first second different atLeft atRight
  | commit key intent moves held finished writes =>
      have room := reserved.fits key intent held
      refine ⟨sound.safe_write reserved.safe room writes, ?_,
        reserved.apart_of_moves moves finished⟩
      intro other wanted open_
      have different : other ≠ key := after.ne_of_open finished open_
      rw [moves other different] at open_
      exact sound.fits_write (reserved.fits other wanted open_) room
        (reserved.apart other key wanted intent different open_ held) writes
  | drop key moves same finished =>
      refine ⟨same ▸ reserved.safe, ?_, reserved.apart_of_moves moves finished⟩
      intro other wanted open_
      have different : other ≠ key := after.ne_of_open finished open_
      rw [moves other different] at open_
      rw [same]
      exact reserved.fits other wanted open_
  | ambient same harmless =>
      refine ⟨harmless.safe reserved.safe, ?_, ?_⟩
      · intro key intent open_
        rw [same] at open_
        exact harmless.fits intent (reserved.fits key intent open_)
      · rw [same]
        exact reserved.apart

end VpnSuite.Foundations
