/-
Bytes as texts and words: big-endian words of a fixed width, UTF-8, and the URL-safe base64
with its padding taken off and put back.

The base64 decoder is the lenient one: it passes over characters outside the alphabet and
stops at complete padding.
-/

import Mathlib.Data.List.DropRight
import Mathlib.Tactic.Ring

set_option autoImplicit false

namespace VpnSuite.Foundations.ByteTexts

/-! ### Words -/

/-- The bytes of a word, the most significant first. -/
def packWord : Nat → Nat → List UInt8
  | 0, _ => []
  | width + 1, number =>
      UInt8.ofNat (number / 256 ^ width) :: packWord width (number % 256 ^ width)

/-- The number that bytes spell, read after the digits of `start`. -/
def wordValueFrom (start : Nat) (bytes : List UInt8) : Nat :=
  bytes.foldl (fun value byte => value * 256 + byte.toNat) start

def wordValue (bytes : List UInt8) : Nat := wordValueFrom 0 bytes

theorem length_packWord (width number : Nat) : (packWord width number).length = width := by
  induction width generalizing number with
  | zero => rfl
  | succ width ih => rw [packWord, List.length_cons, ih]

theorem wordValueFrom_packWord {width number : Nat} (fits : number < 256 ^ width)
    (start : Nat) : wordValueFrom start (packWord width number) = start * 256 ^ width + number := by
  induction width generalizing number start with
  | zero =>
      rw [pow_zero, Nat.lt_one_iff] at fits
      rw [fits, packWord, pow_zero, Nat.mul_one, Nat.add_zero]
      rfl
  | succ width ih =>
      have positive : 0 < 256 ^ width := Nat.pow_pos (by decide)
      have digit : number / 256 ^ width < 256 := by
        rw [Nat.div_lt_iff_lt_mul positive, Nat.mul_comm, ← pow_succ]
        exact fits
      have byte : (UInt8.ofNat (number / 256 ^ width)).toNat = number / 256 ^ width :=
        Nat.mod_eq_of_lt digit
      have unfolded : wordValueFrom start (packWord (width + 1) number) =
          wordValueFrom (start * 256 + number / 256 ^ width)
            (packWord width (number % 256 ^ width)) := by
        rw [packWord, wordValueFrom, List.foldl_cons, byte]
        rfl
      rw [unfolded, ih (Nat.mod_lt number positive)]
      have parts := Nat.div_add_mod number (256 ^ width)
      calc (start * 256 + number / 256 ^ width) * 256 ^ width + number % 256 ^ width
          = start * 256 ^ (width + 1) +
              (256 ^ width * (number / 256 ^ width) + number % 256 ^ width) := by ring
        _ = start * 256 ^ (width + 1) + number := by rw [parts]

theorem wordValue_packWord {width number : Nat} (fits : number < 256 ^ width) :
    wordValue (packWord width number) = number := by
  rw [wordValue, wordValueFrom_packWord fits, Nat.zero_mul, Nat.zero_add]

/-- Three words of four bytes before a body, read where they stand. -/
theorem threeWords_append {first second third : List UInt8} (isFirst : first.length = 4)
    (isSecond : second.length = 4) (isThird : third.length = 4) (body : List UInt8) :
    (first ++ second ++ third ++ body).take 4 = first ∧
      ((first ++ second ++ third ++ body).drop 4).take 4 = second ∧
      ((first ++ second ++ third ++ body).drop 8).take 4 = third ∧
      (first ++ second ++ third ++ body).drop 12 = body ∧
      ((first ++ second ++ third ++ body).drop 8).length = body.length + 4 := by
  have four : (first ++ second ++ third ++ body).drop 4 = second ++ (third ++ body) := by
    rw [List.append_assoc, List.append_assoc]
    exact List.drop_left' isFirst
  have eight : (first ++ second ++ third ++ body).drop 8 = third ++ body := by
    rw [show 8 = 4 + 4 from rfl, ← List.drop_drop, four]
    exact List.drop_left' isSecond
  have twelve : (first ++ second ++ third ++ body).drop 12 = body := by
    rw [show 12 = 8 + 4 from rfl, ← List.drop_drop, eight]
    exact List.drop_left' isThird
  refine ⟨?_, ?_, ?_, twelve, ?_⟩
  · rw [List.append_assoc, List.append_assoc]
    exact List.take_left' isFirst
  · rw [four]
    exact List.take_left' isSecond
  · rw [eight]
    exact List.take_left' isThird
  · rw [eight, List.length_append, isThird, Nat.add_comm]

/-! ### UTF-8 -/

/-- `text.encode("utf-8")`. -/
def utf8Bytes (text : String) : List UInt8 := text.toByteArray.data.toList

/-- `data.decode("utf-8")`; `none` is the `UnicodeDecodeError`. -/
def utf8Text (bytes : List UInt8) : Option String := String.fromUTF8? ⟨bytes.toArray⟩

@[simp] theorem utf8Text_utf8Bytes (text : String) : utf8Text (utf8Bytes text) = some text := by
  have same : (⟨(utf8Bytes text).toArray⟩ : ByteArray) = text.toByteArray := by
    rw [utf8Bytes, Array.toArray_toList]
  rw [utf8Text, same, String.fromUTF8?, dif_pos text.isValidUTF8]
  rfl

/-- No character takes more than four bytes. -/
theorem length_utf8Bytes_le (chars : List Char) :
    (utf8Bytes (String.ofList chars)).length ≤ 4 * chars.length := by
  have bytes : utf8Bytes (String.ofList chars) = chars.flatMap String.utf8EncodeChar := by
    simp [utf8Bytes, List.utf8Encode]
  rw [bytes]
  clear bytes
  induction chars with
  | nil => exact Nat.le_refl 0
  | cons char rest ih =>
      have first := char.utf8Size_le_four
      rw [List.flatMap_cons, List.length_append, String.length_utf8EncodeChar, List.length_cons]
      omega
/-! ### Base64 -/

def alphabet : List Char :=
  "ABCDEFGHIJKLMNOPQRSTUVWXYZabcdefghijklmnopqrstuvwxyz0123456789-_".toList

def base64Char (digit : Nat) : Char := alphabet.getD digit 'A'

/-- The digit of a character; both spellings of the last two digits are known. -/
def base64Digit (char : Char) : Option Nat :=
  if char = '+' then some 62 else if char = '/' then some 63 else alphabet.idxOf? char

/-- `urlsafe_b64encode`. -/
def base64Encode : List UInt8 → List Char
  | [] => []
  | [a] => [base64Char (a.toNat / 4), base64Char (a.toNat % 4 * 16), '=', '=']
  | [a, b] =>
      [base64Char (a.toNat / 4), base64Char (a.toNat % 4 * 16 + b.toNat / 16),
        base64Char (b.toNat % 16 * 4), '=']
  | a :: b :: c :: rest =>
      base64Char (a.toNat / 4) :: base64Char (a.toNat % 4 * 16 + b.toNat / 16) ::
        base64Char (b.toNat % 16 * 4 + c.toNat / 64) :: base64Char (c.toNat % 64) ::
        base64Encode rest

/-- The loop of `a2b_base64`: the place in the group of four, the bits left over, and the
padding seen at this place. -/
def base64DecodeFrom (place left pads : Nat) : List Char → Option (List UInt8)
  | [] => if place = 0 then some [] else none
  | char :: rest =>
      if char = '=' then
        if 2 ≤ place then
          if 4 ≤ place + (pads + 1) then some [] else base64DecodeFrom place left (pads + 1) rest
        else base64DecodeFrom place left pads rest
      else
        match base64Digit char with
        | none => base64DecodeFrom place left pads rest
        | some digit =>
            match place with
            | 0 => base64DecodeFrom 1 digit 0 rest
            | 1 => (base64DecodeFrom 2 (digit % 16) 0 rest).map
                (fun bytes => UInt8.ofNat (left * 4 + digit / 16) :: bytes)
            | 2 => (base64DecodeFrom 3 (digit % 4) 0 rest).map
                (fun bytes => UInt8.ofNat (left * 16 + digit / 4) :: bytes)
            | _ => (base64DecodeFrom 0 0 0 rest).map
                (fun bytes => UInt8.ofNat (left * 64 + digit) :: bytes)

/-- `urlsafe_b64decode`. -/
def base64Decode (chars : List Char) : Option (List UInt8) := base64DecodeFrom 0 0 0 chars

/-- `text.rstrip("=")`. -/
def withoutPadding (chars : List Char) : List Char := chars.rdropWhile (fun char => char = '=')

/-- `text + "=" * (-len(text) % 4)`. -/
def padded (chars : List Char) : List Char :=
  chars ++ List.replicate ((4 - chars.length % 4) % 4) '='

theorem base64Char_spec {digit : Nat} (small : digit < 64) :
    base64Digit (base64Char digit) = some digit ∧ base64Char digit ≠ '=' := by
  have every : (List.range 64).all (fun digit =>
      base64Digit (base64Char digit) = some digit && base64Char digit ≠ '=') = true := by
    decide +kernel
  have here := List.all_eq_true.mp every digit (List.mem_range.mpr small)
  simpa using here

section Steps

variable {digit : Nat} (small : digit < 64) (left pads : Nat) (rest : List Char)

include small

/-- A visible digit is never padding, so only the place decides what it completes. -/
theorem base64DecodeFrom_digit (place : Nat) :
    base64DecodeFrom place left pads (base64Char digit :: rest) =
      match place with
      | 0 => base64DecodeFrom 1 digit 0 rest
      | 1 => (base64DecodeFrom 2 (digit % 16) 0 rest).map
          (fun bytes => UInt8.ofNat (left * 4 + digit / 16) :: bytes)
      | 2 => (base64DecodeFrom 3 (digit % 4) 0 rest).map
          (fun bytes => UInt8.ofNat (left * 16 + digit / 4) :: bytes)
      | _ => (base64DecodeFrom 0 0 0 rest).map
          (fun bytes => UInt8.ofNat (left * 64 + digit) :: bytes) := by
  obtain ⟨value, visible⟩ := base64Char_spec small
  change (if base64Char digit = '=' then _ else _) = _
  rw [if_neg visible, value]

theorem base64DecodeFrom_first :
    base64DecodeFrom 0 left pads (base64Char digit :: rest) = base64DecodeFrom 1 digit 0 rest :=
  base64DecodeFrom_digit small left pads rest 0

theorem base64DecodeFrom_second :
    base64DecodeFrom 1 left pads (base64Char digit :: rest) =
      (base64DecodeFrom 2 (digit % 16) 0 rest).map
        (fun bytes => UInt8.ofNat (left * 4 + digit / 16) :: bytes) :=
  base64DecodeFrom_digit small left pads rest 1

theorem base64DecodeFrom_third :
    base64DecodeFrom 2 left pads (base64Char digit :: rest) =
      (base64DecodeFrom 3 (digit % 4) 0 rest).map
        (fun bytes => UInt8.ofNat (left * 16 + digit / 4) :: bytes) :=
  base64DecodeFrom_digit small left pads rest 2

theorem base64DecodeFrom_fourth :
    base64DecodeFrom 3 left pads (base64Char digit :: rest) =
      (base64DecodeFrom 0 0 0 rest).map
        (fun bytes => UInt8.ofNat (left * 64 + digit) :: bytes) :=
  base64DecodeFrom_digit small left pads rest 3

end Steps

/-- A byte put together from what two digits hold of it. -/
theorem ofNat_of_eq {byte : UInt8} {number : Nat} (same : number = byte.toNat) :
    UInt8.ofNat number = byte := by
  rw [same, UInt8.ofNat_toNat]

@[simp] theorem base64Decode_base64Encode (bytes : List UInt8) :
    base64Decode (base64Encode bytes) = some bytes := by
  unfold base64Decode
  induction bytes using base64Encode.induct with
  | case1 => rfl
  | case2 a =>
      have bound := a.toNat_lt
      have first : UInt8.ofNat (a.toNat / 4 * 4 + a.toNat % 4 * 16 / 16) = a :=
        ofNat_of_eq (by omega)
      rw [base64Encode, base64DecodeFrom_first (by omega), base64DecodeFrom_second (by omega),
        first]
      rfl
  | case3 a b =>
      have boundA := a.toNat_lt
      have boundB := b.toNat_lt
      have first : UInt8.ofNat
          (a.toNat / 4 * 4 + (a.toNat % 4 * 16 + b.toNat / 16) / 16) = a :=
        ofNat_of_eq (by omega)
      have second : UInt8.ofNat
          ((a.toNat % 4 * 16 + b.toNat / 16) % 16 * 16 + b.toNat % 16 * 4 / 4) = b :=
        ofNat_of_eq (by omega)
      rw [base64Encode, base64DecodeFrom_first (by omega), base64DecodeFrom_second (by omega),
        base64DecodeFrom_third (by omega), first, second]
      rfl
  | case4 a b c rest ih =>
      have boundA := a.toNat_lt
      have boundB := b.toNat_lt
      have boundC := c.toNat_lt
      have first : UInt8.ofNat
          (a.toNat / 4 * 4 + (a.toNat % 4 * 16 + b.toNat / 16) / 16) = a :=
        ofNat_of_eq (by omega)
      have second : UInt8.ofNat ((a.toNat % 4 * 16 + b.toNat / 16) % 16 * 16 +
          (b.toNat % 16 * 4 + c.toNat / 64) / 4) = b :=
        ofNat_of_eq (by omega)
      have third : UInt8.ofNat
          ((b.toNat % 16 * 4 + c.toNat / 64) % 4 * 64 + c.toNat % 64) = c :=
        ofNat_of_eq (by omega)
      rw [base64Encode, base64DecodeFrom_first (by omega), base64DecodeFrom_second (by omega),
        base64DecodeFrom_third (by omega), base64DecodeFrom_fourth (by omega), ih, first, second,
        third]
      rfl

/-! ### Padding -/

/-- An encoded text: digits, and what padding fills the last group of four. -/
theorem base64Encode_padding (bytes : List UInt8) :
    ∃ digits count, base64Encode bytes = digits ++ List.replicate count '=' ∧
      '=' ∉ digits ∧ count < 4 ∧ (digits.length + count) % 4 = 0 := by
  have visible : ∀ {digit : Nat}, digit < 64 → '=' ≠ base64Char digit :=
    fun small => (base64Char_spec small).2.symm
  induction bytes using base64Encode.induct with
  | case1 => exact ⟨[], 0, rfl, List.not_mem_nil, by decide, rfl⟩
  | case2 a =>
      have bound := a.toNat_lt
      refine ⟨[base64Char (a.toNat / 4), base64Char (a.toNat % 4 * 16)], 2, rfl, ?_, by decide, by simp⟩
      simp only [List.mem_cons, List.not_mem_nil, or_false, not_or]
      exact ⟨visible (by omega), visible (by omega)⟩
  | case3 a b =>
      have boundA := a.toNat_lt
      have boundB := b.toNat_lt
      refine ⟨[base64Char (a.toNat / 4), base64Char (a.toNat % 4 * 16 + b.toNat / 16),
        base64Char (b.toNat % 16 * 4)], 1, rfl, ?_, by decide, by simp⟩
      simp only [List.mem_cons, List.not_mem_nil, or_false, not_or]
      exact ⟨visible (by omega), visible (by omega), visible (by omega)⟩
  | case4 a b c rest ih =>
      have boundA := a.toNat_lt
      have boundB := b.toNat_lt
      have boundC := c.toNat_lt
      obtain ⟨digits, count, shape, plain, small, groups⟩ := ih
      refine ⟨base64Char (a.toNat / 4) :: base64Char (a.toNat % 4 * 16 + b.toNat / 16) ::
        base64Char (b.toNat % 16 * 4 + c.toNat / 64) :: base64Char (c.toNat % 64) :: digits,
        count, ?_, ?_, small, ?_⟩
      · rw [base64Encode, shape]
        rfl
      · simp only [List.mem_cons, not_or]
        exact ⟨visible (by omega), visible (by omega), visible (by omega), visible (by omega),
          plain⟩
      · simp only [List.length_cons]
        omega

theorem withoutPadding_append {digits : List Char} (plain : '=' ∉ digits) (count : Nat) :
    withoutPadding (digits ++ List.replicate count '=') = digits := by
  induction count with
  | zero =>
      rw [List.replicate_zero, List.append_nil, withoutPadding, List.rdropWhile_eq_self_iff]
      intro nonempty isPadding
      rw [decide_eq_true_eq] at isPadding
      exact plain (isPadding ▸ List.getLast_mem nonempty)
  | succ count ih =>
      rw [List.replicate_succ', ← List.append_assoc, withoutPadding,
        List.rdropWhile_concat_pos _ _ _ (by decide)]
      exact ih

/-- Taking the padding off and putting it back changes nothing. -/
@[simp] theorem padded_withoutPadding (bytes : List UInt8) :
    padded (withoutPadding (base64Encode bytes)) = base64Encode bytes := by
  obtain ⟨digits, count, shape, plain, small, groups⟩ := base64Encode_padding bytes
  have missing : (4 - digits.length % 4) % 4 = count := by omega
  rw [shape, withoutPadding_append plain, padded, missing]

end VpnSuite.Foundations.ByteTexts
