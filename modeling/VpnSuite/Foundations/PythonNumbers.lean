/-
Numbers in Python texts.

`int` reads the decimal digits of every script, with single underscores between them, a sign
and white space around it all; `str.isdigit` holds of more characters than that.  A digit is
found by the zero of its script.
-/

import VpnSuite.Foundations.JsonValue
import Mathlib.Algebra.Group.Nat.Defs

set_option autoImplicit false

namespace VpnSuite.Foundations

namespace PythonText

/-! ### Digits -/

/-- The zeros of the scripts: the nine code points after each are the other digits. -/
def decimalZeros : List Nat :=
  [0x30, 0x660, 0x6f0, 0x7c0, 0x966, 0x9e6, 0xa66, 0xae6, 0xb66, 0xbe6, 0xc66, 0xce6, 0xd66,
    0xde6, 0xe50, 0xed0, 0xf20, 0x1040, 0x1090, 0x17e0, 0x1810, 0x1946, 0x19d0, 0x1a80, 0x1a90,
    0x1b50, 0x1bb0, 0x1c40, 0x1c50, 0xa620, 0xa8d0, 0xa900, 0xa9d0, 0xa9f0, 0xaa50, 0xabf0,
    0xff10, 0x104a0, 0x10d30, 0x11066, 0x110f0, 0x11136, 0x111d0, 0x112f0, 0x11450, 0x114d0,
    0x11650, 0x116c0, 0x11730, 0x118e0, 0x11950, 0x11c50, 0x11d50, 0x11da0, 0x11f50, 0x16a60,
    0x16ac0, 0x16b50, 0x1d7ce, 0x1d7d8, 0x1d7e2, 0x1d7ec, 0x1d7f6, 0x1e140, 0x1e2f0, 0x1e4f0,
    0x1e950, 0x1fbf0]

/-- The value of a decimal digit of any script. -/
def digitValue? (char : Char) : Option Nat :=
  (decimalZeros.find? (fun first => first ≤ char.toNat && char.toNat ≤ first + 9)).map
    (fun first => char.toNat - first)

/-- Superscripts, subscripts and enclosed digits: digits, but not decimal ones. -/
def otherDigits : List (Nat × Nat) :=
  [(0xb2, 0xb3), (0xb9, 0xb9), (0x1369, 0x1371), (0x19da, 0x19da), (0x2070, 0x2070),
    (0x2074, 0x2079), (0x2080, 0x2089), (0x2460, 0x2468), (0x2474, 0x247c), (0x2488, 0x2490),
    (0x24ea, 0x24ea), (0x24f5, 0x24fd), (0x24ff, 0x24ff), (0x2776, 0x277e), (0x2780, 0x2788),
    (0x278a, 0x2792), (0x10a40, 0x10a43), (0x10e60, 0x10e68), (0x11052, 0x1105a),
    (0x1f100, 0x1f10a)]

/-- `str.isdigit` of one character. -/
def isDigit (char : Char) : Bool :=
  (digitValue? char).isSome ||
    otherDigits.any (fun range => range.1 ≤ char.toNat && char.toNat ≤ range.2)

/-- `text.isdigit()`. -/
def textIsDigit (chars : List Char) : Bool := !chars.isEmpty && chars.all isDigit

/-! ### `int(text)` -/

/-- The digits of a numeral; an underscore stands between two of them. -/
def numeralDigits : List Char → Option (List Nat)
  | [] => none
  | [char] => (digitValue? char).map (fun digit => [digit])
  | char :: '_' :: rest =>
      match digitValue? char, numeralDigits rest with
      | some digit, some digits => some (digit :: digits)
      | _, _ => none
  | char :: rest =>
      match digitValue? char, numeralDigits rest with
      | some digit, some digits => some (digit :: digits)
      | _, _ => none

/-- `sys.get_int_max_str_digits()`. -/
def maxStrDigits : Nat := 4300

def unsignedInt (chars : List Char) : Option Nat :=
  match numeralDigits chars with
  | none => none
  | some digits =>
      if digits.length ≤ maxStrDigits then
        some (digits.foldl (fun value digit => 10 * value + digit) 0)
      else none

/-- The separators U+001C to U+001F: white space to `str.strip`, but not to `int`. -/
def isSeparatorControl (char : Char) : Bool := 28 ≤ char.toNat && char.toNat ≤ 31

/-- A sign and the digits behind it. -/
def signedInt : List Char → Option Int
  | '-' :: rest => (unsignedInt rest).map (fun value => -(value : Int))
  | '+' :: rest => (unsignedInt rest).map Int.ofNat
  | rest => (unsignedInt rest).map Int.ofNat

/-- `int(text)`; `none` is its `ValueError`. -/
def intOfChars (chars : List Char) : Option Int :=
  if chars.any isSeparatorControl then none else signedInt (stripChars chars)

theorem intOfChars_eq_some {chars : List Char} {value : Int} :
    intOfChars chars = some value ↔
      (∀ char ∈ chars, isSeparatorControl char = false) ∧
        signedInt (stripChars chars) = some value := by
  rw [intOfChars, Option.ite_none_left_eq_some, Bool.not_eq_true, List.any_eq_false]
  simp only [Bool.not_eq_true]

theorem intOfChars_of_plain {chars : List Char}
    (plain : ∀ char ∈ chars, isSeparatorControl char = false) :
    intOfChars chars = signedInt (stripChars chars) := by
  rw [intOfChars, if_neg]
  rw [Bool.not_eq_true, List.any_eq_false]
  intro char member
  simp [plain char member]

/-! ### Numerals -/

theorem mem_numeralDigits {char : Char} {chars : List Char} {digits : List Nat}
    (read : numeralDigits chars = some digits) (member : char ∈ chars) :
    (digitValue? char).isSome = true ∨ char = '_' := by
  fun_induction numeralDigits chars generalizing digits with
  | case1 => exact absurd member List.not_mem_nil
  | case2 only =>
      obtain rfl := List.mem_singleton.mp member
      obtain ⟨digit, value, _⟩ := Option.map_eq_some_iff.mp read
      exact Or.inl (by rw [value]; rfl)
  | case3 first rest digit others tail head ih =>
      rcases List.mem_cons.mp member with rfl | inRest
      · exact Or.inl (by rw [head]; rfl)
      · rcases List.mem_cons.mp inRest with rfl | further
        · exact Or.inr rfl
        · exact ih tail further
  | case4 => cases read
  | case5 first rest _ _ digit others tail head ih =>
      rcases List.mem_cons.mp member with rfl | inRest
      · exact Or.inl (by rw [head]; rfl)
      · exact ih tail inRest
  | case6 => cases read

/-- The characters of a text that `int` reads. -/
theorem mem_intOfChars {char : Char} {chars : List Char} {value : Int}
    (read : intOfChars chars = some value) (member : char ∈ chars) :
    isSpace char = true ∨ char = '-' ∨ char = '+' ∨ char = '_' ∨
      (digitValue? char).isSome = true := by
  cases visible : isSpace char with
  | true => exact Or.inl rfl
  | false =>
      have inText := mem_stripChars member visible
      have inDigits : ∀ {rest : List Char}, unsignedInt rest ≠ none → char ∈ rest →
          char = '_' ∨ (digitValue? char).isSome = true := by
        intro rest known inRest
        rw [unsignedInt] at known
        cases digits : numeralDigits rest with
        | none =>
            rw [digits] at known
            exact absurd rfl known
        | some found => exact (mem_numeralDigits digits inRest).symm
      right
      replace read := (intOfChars_eq_some.mp read).2
      unfold signedInt at read
      split at read
      · rename_i rest signed
        rw [signed] at inText
        rcases List.mem_cons.mp inText with rfl | inRest
        · exact Or.inl rfl
        · exact Or.inr (Or.inr (inDigits (fun absent => by simp [absent] at read) inRest))
      · rename_i rest signed
        rw [signed] at inText
        rcases List.mem_cons.mp inText with rfl | inRest
        · exact Or.inr (Or.inl rfl)
        · exact Or.inr (Or.inr (inDigits (fun absent => by simp [absent] at read) inRest))
      · exact Or.inr (Or.inr (inDigits (fun absent => by simp [absent] at read) inText))

/-! ### Printed numbers are read back -/

theorem digitValue?_of_ascii {char : Char} (digit : char.isDigit = true) :
    digitValue? char = some (char.toNat - 48) := by
  have bounds : 48 ≤ char.toNat ∧ char.toNat ≤ 57 := by
    simp only [Char.isDigit, Bool.and_eq_true, decide_eq_true_eq] at digit
    exact digit
  unfold digitValue? decimalZeros
  rw [List.find?_cons_of_pos (by simp [bounds.1, bounds.2]), Option.map_some]

theorem numeralDigits_of_ascii {chars : List Char} (nonempty : chars ≠ [])
    (digits : ∀ char ∈ chars, char.isDigit = true) :
    numeralDigits chars = some (chars.map (fun char => char.toNat - 48)) := by
  induction chars with
  | nil => exact absurd rfl nonempty
  | cons char rest ih =>
      have first := digitValue?_of_ascii (digits char List.mem_cons_self)
      cases rest with
      | nil => rw [numeralDigits, first, Option.map_some, List.map_singleton]
      | cons second others =>
          have later := ih (List.cons_ne_nil second others)
            (fun other member => digits other (List.mem_cons_of_mem char member))
          have joined : second ≠ '_' := by
            rintro rfl
            exact absurd (digits '_' (List.mem_cons_of_mem char List.mem_cons_self)) (by decide)
          rw [numeralDigits.eq_4 char (second :: others)
            (fun empty => absurd empty (List.cons_ne_nil second others))
            (fun tail split => joined (List.cons.inj split).1), first, later]
          rfl

theorem isSpace_of_isDigit {char : Char} (digit : char.isDigit = true) : isSpace char = false := by
  have bounds : 48 ≤ char.toNat ∧ char.toNat ≤ 57 := by
    simp only [Char.isDigit, Bool.and_eq_true, decide_eq_true_eq] at digit
    exact digit
  simp only [isSpace, Bool.or_eq_false_iff, Bool.and_eq_false_iff, decide_eq_false_iff_not,
    beq_eq_false_iff_ne]
  omega

theorem isSeparatorControl_of_isDigit {char : Char} (digit : char.isDigit = true) :
    isSeparatorControl char = false := by
  have bounds : 48 ≤ char.toNat ∧ char.toNat ≤ 57 := by
    simp only [Char.isDigit, Bool.and_eq_true, decide_eq_true_eq] at digit
    exact digit
  simp only [isSeparatorControl, Bool.and_eq_false_iff, decide_eq_false_iff_not]
  omega

theorem isDigit_of_mem_toDigits {char : Char} {value : Nat}
    (member : char ∈ Nat.toDigits 10 value) : char.isDigit = true :=
  Nat.isDigit_of_mem_toDigits (by decide) (by decide) member

theorem unsignedInt_toDigits {value : Nat} (short : value < 10 ^ maxStrDigits) :
    unsignedInt (Nat.toDigits 10 value) = some value := by
  have length : (Nat.toDigits 10 value).length ≤ maxStrDigits :=
    (Nat.length_toDigits_le_iff (by decide) (by decide)).mpr short
  rw [unsignedInt, numeralDigits_of_ascii Nat.toDigits_ne_nil
    (fun char member => isDigit_of_mem_toDigits member)]
  dsimp only
  rw [List.length_map, if_pos length, List.foldl_map]
  exact congrArg some Nat.ofDigitChars_ten_toDigits

theorem stripChars_toDigits (value : Nat) :
    stripChars (Nat.toDigits 10 value) = Nat.toDigits 10 value :=
  (stripChars_of_ends
    (fun _ first => isSpace_of_isDigit (isDigit_of_mem_toDigits (List.mem_of_mem_head? first)))
    (fun _ last => isSpace_of_isDigit
      (isDigit_of_mem_toDigits (List.mem_of_mem_getLast? last)))).2.2

/-- `int(str(value)) == value` for a natural number. -/
theorem intOfChars_toDigits {value : Nat} (short : value < 10 ^ maxStrDigits) :
    intOfChars (Nat.toDigits 10 value) = some (value : Int) := by
  rw [intOfChars_of_plain
    (fun _ member => isSeparatorControl_of_isDigit (isDigit_of_mem_toDigits member)),
    stripChars_toDigits]
  unfold signedInt
  split
  · rename_i rest signed
    have first : ('-' : Char) ∈ Nat.toDigits 10 value := signed ▸ List.mem_cons_self
    exact absurd (isDigit_of_mem_toDigits first) (by decide)
  · rename_i rest signed
    have first : ('+' : Char) ∈ Nat.toDigits 10 value := signed ▸ List.mem_cons_self
    exact absurd (isDigit_of_mem_toDigits first) (by decide)
  · rw [unsignedInt_toDigits short]
    rfl

/-- The characters of a printed integer. -/
def isIntegerChar (char : Char) : Bool := char.isDigit || char == '-'

theorem isIntegerChar_of_mem {char : Char} {value : Int}
    (member : char ∈ (toString value).toList) : isIntegerChar char = true := by
  rw [Int.toString_eq_repr, Int.repr_eq_if] at member
  have digits : ∀ number : Nat, char ∈ number.repr.toList → isIntegerChar char = true := by
    intro number found
    rw [Nat.toList_repr] at found
    simp [isIntegerChar, isDigit_of_mem_toDigits found]
  split at member
  · exact digits _ member
  · rw [String.toList_append, List.mem_append] at member
    rcases member with sign | digit
    · obtain rfl := List.mem_singleton.mp sign
      rfl
    · exact digits _ digit

theorem isSpace_of_isIntegerChar {char : Char} (found : isIntegerChar char = true) :
    isSpace char = false := by
  simp only [isIntegerChar, Bool.or_eq_true, beq_iff_eq] at found
  rcases found with digit | rfl
  · exact isSpace_of_isDigit digit
  · decide

/-- `int(str(value)) == value`. -/
theorem intOfChars_toString {value : Int} (short : value.natAbs < 10 ^ maxStrDigits) :
    intOfChars (toString value).toList = some value := by
  rw [Int.toString_eq_repr, Int.repr_eq_if]
  split
  · rename_i natural
    rw [Nat.toList_repr, intOfChars_toDigits (by omega)]
    exact congrArg some (Int.toNat_of_nonneg natural)
  · rename_i negative
    rw [String.toList_append, Nat.toList_repr]
    change intOfChars ('-' :: Nat.toDigits 10 (-value).toNat) = some value
    have stripped : stripChars ('-' :: Nat.toDigits 10 (-value).toNat) =
        '-' :: Nat.toDigits 10 (-value).toNat := by
      refine (stripChars_of_ends ?_ ?_).2.2
      · intro char first
        obtain rfl := Option.some.inj first
        decide
      · intro char last
        rw [List.getLast?_cons_of_ne_nil Nat.toDigits_ne_nil] at last
        exact isSpace_of_isDigit (isDigit_of_mem_toDigits (List.mem_of_mem_getLast? last))
    have plain : ∀ char ∈ '-' :: Nat.toDigits 10 (-value).toNat,
        isSeparatorControl char = false := by
      intro char member
      rcases List.mem_cons.mp member with rfl | digit
      · rfl
      · exact isSeparatorControl_of_isDigit (isDigit_of_mem_toDigits digit)
    rw [intOfChars_of_plain plain, stripped]
    unfold signedInt
    have digits := unsignedInt_toDigits (show (-value).toNat < 10 ^ maxStrDigits by omega)
    simp only [digits]
    change some (-((-value).toNat : Int)) = some value
    congr 1
    omega

end PythonText

/-! ### `int` and `str` of a value -/

open PythonText

/-- The exceptions of `int(value)`. -/
inductive IntError where
  | typeError
  | valueError
  | overflowError
  deriving DecidableEq, Repr

namespace Json

/-- `int(value)`. -/
def toInt : Json → Except IntError Int
  | .null => .error .typeError
  | .bool value => .ok (if value then 1 else 0)
  | .int value => .ok value
  | .float _ (some truncated) _ => .ok truncated
  | .float shown none _ =>
      .error (if shown = "nan" then .valueError else .overflowError)
  | .str text =>
      match intOfChars text.toList with
      | none => .error .valueError
      | some value => .ok value
  | .list _ _ => .error .typeError
  | .dict _ _ => .error .typeError

/-- `str(value)`. -/
def toText : Json → String
  | .null => "None"
  | .bool value => if value then "True" else "False"
  | .int value => toString value
  | .float shown _ _ => shown
  | .str text => text
  | .list _ shown => shown
  | .dict _ shown => shown

/-- `isinstance(value, int)` with the value: a `bool` is an `int`. -/
def asInt? : Json → Option Int
  | .bool value => some (if value then 1 else 0)
  | .int value => some value
  | _ => none

end Json

end VpnSuite.Foundations
