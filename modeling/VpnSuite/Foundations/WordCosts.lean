/-
What a text costs when the occurrences of one word are cheap.

An occurrence of the word costs one, however long the word is, and every other symbol its own
price.  Where no occurrence takes symbols of both texts, the cost of two texts is a sum.
-/

import Mathlib.Data.List.Infix

set_option autoImplicit false

namespace VpnSuite.Foundations.WordCosts

variable {α : Type} [DecidableEq α]

/-- The cost; the next `skip` symbols belong to the occurrence that was found last. -/
def costFrom (word : List α) (price : α → Nat) : Nat → List α → Nat
  | _, [] => 0
  | skip + 1, _ :: rest => costFrom word price skip rest
  | 0, symbol :: rest =>
      if word <+: symbol :: rest then 1 + costFrom word price (word.length - 1) rest
      else price symbol + costFrom word price 0 rest

def cost (word : List α) (price : α → Nat) (text : List α) : Nat := costFrom word price 0 text

/-- No occurrence of the word takes symbols of both texts. -/
def Unbroken (word left right : List α) : Prop :=
  ∀ begun rest, word = begun ++ rest → begun ≠ [] → rest ≠ [] → begun <:+ left → ¬ rest <+: right

variable {word left right text : List α} {price : α → Nat}

omit [DecidableEq α] in
theorem Unbroken.of_head (foreign : ∀ symbol ∈ right.head?, symbol ∉ word) :
    Unbroken word left right := by
  rintro begun rest rfl - some - ⟨more, reach⟩
  obtain ⟨symbol, rest, rfl⟩ := List.exists_cons_of_ne_nil some
  refine foreign symbol ?_ (List.mem_append_right _ List.mem_cons_self)
  rw [← reach]
  rfl

omit [DecidableEq α] in
theorem Unbroken.of_last (foreign : ∀ symbol ∈ left.getLast?, symbol ∉ word) :
    Unbroken word left right := by
  rintro begun rest rfl some - ⟨more, reach⟩ -
  rcases List.eq_nil_or_concat' begun with rfl | ⟨begun, symbol, rfl⟩
  · exact some rfl
  · refine foreign symbol ?_ (by simp)
    rw [← reach, ← List.append_assoc, List.getLast?_concat]
    rfl

omit [DecidableEq α] in
/-- A word that no proper beginning of it ends is unbroken at its end. -/
theorem Unbroken.behind_word
    (unbordered : ∀ begun rest, word = begun ++ rest → begun ≠ [] → rest ≠ [] → ¬ begun <:+ word) :
    Unbroken word (left ++ word) right := by
  intro begun rest split someBegun someRest ends _
  refine unbordered begun rest split someBegun someRest ?_
  refine List.suffix_of_suffix_length_le ends (List.suffix_append left word) ?_
  rw [split]
  simp

theorem costFrom_append (unbroken : Unbroken word left right) (some : word ≠ []) (skip : Nat)
    (inside : skip ≤ left.length) :
    costFrom word price skip (left ++ right) =
      costFrom word price skip left + costFrom word price 0 right := by
  induction left generalizing skip with
  | nil =>
      obtain rfl : skip = 0 := by simpa using inside
      simp [costFrom]
  | cons symbol rest ih =>
      have behind : Unbroken word rest right := by
        intro begun more split someBegun someMore ends
        exact unbroken begun more split someBegun someMore (ends.trans (List.suffix_cons _ _))
      cases skip with
      | succ skip => exact ih behind skip (by simpa using inside)
      | zero =>
          have positive := List.length_pos_iff.mpr some
          have same : word <+: symbol :: (rest ++ right) ↔ word <+: symbol :: rest := by
            constructor
            · intro begins
              rw [← List.cons_append] at begins
              by_contra outside
              obtain ⟨more, whole⟩ := begins
              rcases List.append_eq_append_iff.mp whole.symm with ⟨extra, spelled, reach⟩ | within
              · by_cases none : extra = []
                · rw [none, List.append_nil] at spelled
                  exact outside (spelled ▸ List.prefix_rfl)
                · exact unbroken _ extra spelled (List.cons_ne_nil _ _) none List.suffix_rfl
                    ⟨more, reach.symm⟩
              · obtain ⟨extra, spelled, -⟩ := within
                exact outside ⟨extra, spelled.symm⟩
            · exact fun begins => begins.trans (List.prefix_append (symbol :: rest) right)
          simp only [List.cons_append, costFrom, same]
          split
          case isTrue begins =>
            have length := begins.length_le
            rw [List.length_cons] at length
            rw [ih behind (word.length - 1) (by omega)]
            omega
          case isFalse =>
            rw [ih behind 0 (Nat.zero_le _)]
            omega

theorem cost_append (unbroken : Unbroken word left right) (some : word ≠ []) :
    cost word price (left ++ right) = cost word price left + cost word price right :=
  costFrom_append unbroken some 0 (Nat.zero_le _)

/-- A cheap text is short. -/
theorem length_le_costFrom (priced : ∀ symbol, 1 ≤ price symbol) (some : word ≠ []) (skip : Nat)
    (text : List α) :
    text.length ≤ skip + word.length * costFrom word price skip text := by
  have positive := List.length_pos_iff.mpr some
  induction text generalizing skip with
  | nil => simp
  | cons symbol rest ih =>
      cases skip with
      | succ skip =>
          have behind := ih skip
          simp only [List.length_cons, costFrom]
          omega
      | zero =>
          simp only [List.length_cons, costFrom]
          split
          · have behind := ih (word.length - 1)
            rw [Nat.mul_add]
            omega
          · have behind := ih 0
            have paid := Nat.mul_le_mul_left word.length (priced symbol)
            rw [Nat.mul_add]
            omega

theorem length_le_cost (priced : ∀ symbol, 1 ≤ price symbol) (some : word ≠ []) (text : List α) :
    text.length ≤ word.length * cost word price text := by
  simpa [cost] using length_le_costFrom priced some 0 text

/-- Only the word itself costs no more than one. -/
theorem two_le_cost (priced : ∀ symbol, 2 ≤ price symbol) (some : word ≠ []) (nonempty : text ≠ [])
    (differs : text ≠ word) : 2 ≤ cost word price text := by
  obtain ⟨symbol, rest, rfl⟩ := List.exists_cons_of_ne_nil nonempty
  rw [cost, costFrom]
  split
  case isFalse => exact Nat.le_add_right_of_le (priced symbol)
  case isTrue begins =>
    by_contra cheap
    have free : costFrom word price (word.length - 1) rest = 0 := by omega
    have short := length_le_costFrom (fun symbol => Nat.le_of_lt (priced symbol)) some
      (word.length - 1) rest
    rw [free] at short
    have positive := List.length_pos_iff.mpr some
    refine differs (begins.eq_of_length_le ?_).symm
    rw [List.length_cons]
    omega

/-- A text without the word pays for each of its symbols. -/
theorem mul_length_le_cost {least : Nat} (priced : ∀ symbol, least ≤ price symbol)
    (free : ¬ word <:+: text) : least * text.length ≤ cost word price text := by
  rw [cost]
  induction text with
  | nil => exact Nat.zero_le _
  | cons symbol rest ih =>
      have unread : ¬ word <+: symbol :: rest := fun begins => free begins.isInfix
      have behind := ih (fun occurs => free (occurs.trans (List.suffix_cons _ _).isInfix))
      have paid := priced symbol
      rw [costFrom, if_neg unread, List.length_cons, Nat.mul_add]
      omega

end VpnSuite.Foundations.WordCosts
