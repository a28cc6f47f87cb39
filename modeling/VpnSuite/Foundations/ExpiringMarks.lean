/-
Marks that expire.

A mark is set under a key for a lifetime and is seen until it has passed.  Setting a mark
again replaces the instant at which it ends, so that a later mark may end earlier.

The rules say from which instant on a key is free, and that the keys a run never marks are
seen as at its start.  Keys are arbitrary and time is an integer.
-/

import VpnSuite.Foundations.OrderedDict

set_option autoImplicit false

namespace VpnSuite.Foundations.ExpiringMarks

variable {κ : Type} [DecidableEq κ]

/-- The instant at which each mark ends. -/
abbrev Marks (κ : Type) : Type := Dict κ Int

/-- The mark of a key is there and has not ended. -/
def marked (clock : Int) (key : κ) (marks : Marks κ) : Bool :=
  (marks.get? key).any (fun expiry => clock < expiry)

/-- `SETEX` -/
def mark (clock lifetime : Int) (key : κ) (marks : Marks κ) : Marks κ :=
  marks.set key (clock + lifetime)

/-- No mark of the key is seen from the instant on. -/
def FreeFrom (instant : Int) (key : κ) (marks : Marks κ) : Prop :=
  ∀ expiry, marks.get? key = some expiry → expiry ≤ instant

section Marks

variable {clock lifetime : Int} {key other : κ} {marks : Marks κ}

theorem marked_eq_false_iff : marked clock key marks = false ↔ FreeFrom clock key marks := by
  unfold marked FreeFrom
  cases marks.get? key with
  | none => simp
  | some expiry => simp

theorem marked_empty : marked clock key (Dict.empty : Marks κ) = false := rfl

theorem FreeFrom.later {later : Int} (free : FreeFrom clock key marks) (passed : clock ≤ later) :
    FreeFrom later key marks := by
  intro expiry found
  have ends := free expiry found
  omega

theorem marked_mark_self {now : Int} :
    marked now key (mark clock lifetime key marks) = decide (now < clock + lifetime) := by
  unfold marked mark
  rw [Dict.get?_set, if_pos rfl]
  rfl

theorem marked_mark_other {now : Int} (different : key ≠ other) :
    marked now key (mark clock lifetime other marks) = marked now key marks := by
  unfold marked mark
  rw [Dict.get?_set, if_neg different]

theorem get?_mark_self : (mark clock lifetime key marks).get? key = some (clock + lifetime) := by
  unfold mark
  rw [Dict.get?_set, if_pos rfl]

theorem get?_mark_other (different : key ≠ other) :
    (mark clock lifetime other marks).get? key = marks.get? key := by
  unfold mark
  rw [Dict.get?_set, if_neg different]

end Marks

end VpnSuite.Foundations.ExpiringMarks
