/-
What the AWG 2.0 normalisation returns (`_normalize_obfuscation_awg2` in
`core/config_builder.py`).

A result has known keys, bounded numbers and disjoint headers, and normalising it again changes
nothing.  The check of S1 against S2 looks at both only where neither is omitted, and an omitted
S1 counts as zero.
-/

import VpnSuite.Config.ConfigLines
import Mathlib.Data.List.Pairwise

set_option autoImplicit false

namespace VpnSuite.Config

open Foundations
open Foundations.PythonText

def awg2NumberKeys : List String := ["Jc", "Jmin", "Jmax", "S1", "S2", "S3", "S4"]

/-! ### The law of a result -/

/-- The number of a normalised key. -/
def numberIn (obf : Obfuscation) (key : String) : Option Int :=
  match obf.get? key with
  | some (.int number) => some number
  | _ => none

/-- The range that a normalised header denotes. -/
def rangeIn (obf : Obfuscation) (key : String) : Option HeaderRange :=
  (obf.get? key).bind (fun value => (parseHValue value key).toOption)

/-- `mtu or 1280`. -/
def awg2Mtu (mtu : Option Int) : Int := if mtu.getD 0 = 0 then 1280 else mtu.getD 0

structure Awg2Law (mtu : Option Int) (result : Obfuscation) : Prop where
  known : ∀ key ∈ result.keys, key ∈ awgAscKeys
  positive : ∀ key ∈ awg2NumberKeys, ∀ value, result.get? key = some value →
    ∃ number, value = .int number ∧ 0 < number
  jc : ∀ number, numberIn result "Jc" = some number → 1 ≤ number ∧ number ≤ 128
  jumps : ∀ key ∈ ["Jmin", "Jmax"], ∀ number, numberIn result key = some number →
    1 ≤ number ∧ number ≤ 1280
  ordered : ∀ jmin jmax, numberIn result "Jmin" = some jmin → numberIn result "Jmax" = some jmax →
    jmin ≤ jmax
  s1 : ∀ number, numberIn result "S1" = some number → number ≤ max 0 (awg2Mtu mtu - 148)
  s2 : ∀ number, numberIn result "S2" = some number → number ≤ max 0 (awg2Mtu mtu - 92)
  headers : ∀ key ∈ headerKeys, (result.get? key).isSome = true →
    ∃ range, rangeIn result key = some range ∧ 0 ≤ range.low ∧ range.low ≤ range.high ∧
      0 < range.high ∧ range.high ≤ headerMax
  disjoint : ∀ key ∈ headerKeys, ∀ other ∈ headerKeys, key ≠ other → ∀ left right,
    rangeIn result key = some left → rangeIn result other = some right →
      left.high < right.low ∨ right.high < left.low
  separate : (numberIn result "S1").getD 0 + 56 ≠ (numberIn result "S2").getD 0
  fixed : normalizeObfuscationAwg2 result mtu = .ok result

/-- The number that a key gives, zero if it gives none. -/
def givenNumber (obf : Obfuscation) (key : String) : Int :=
  match setValue obf key with
  | none => 0
  | some value => (parseInt value key).toOption.getD 0

/-! ### Digits and headers -/

theorem isDigit_of_ascii {char : Char} (digit : char.isDigit = true) :
    PythonText.isDigit char = true := by
  rw [PythonText.isDigit, digitValue?_of_ascii digit]
  rfl

theorem textIsDigit_toDigits (value : Nat) : textIsDigit (Nat.toDigits 10 value) = true := by
  rw [textIsDigit, Bool.and_eq_true, Bool.not_eq_true', List.isEmpty_eq_false_iff, List.all_eq_true]
  exact ⟨Nat.toDigits_ne_nil, fun char member => isDigit_of_ascii (isDigit_of_mem_toDigits member)⟩

theorem dash_not_mem_toDigits (value : Nat) : '-' ∉ Nat.toDigits 10 value :=
  fun member => absurd (isDigit_of_mem_toDigits member) (by decide)

theorem toList_toString_nonneg {number : Int} (nonneg : 0 ≤ number) :
    (toString number).toList = Nat.toDigits 10 number.toNat := by
  rw [Int.toString_eq_repr, Int.repr_eq_if, if_pos nonneg, Nat.toList_repr]

/-- Text of digits alone has no sign. -/
theorem readInt_nonneg {chars : List Char} (digits : textIsDigit chars = true) {number : Int}
    (read : readInt chars = .ok number) : 0 ≤ number := by
  have unsigned : '-' ∉ chars := by
    intro member
    rw [textIsDigit, Bool.and_eq_true, List.all_eq_true] at digits
    exact absurd (digits.2 '-' member) (by decide)
  cases parsed : intOfChars chars with
  | none =>
      rw [readInt, parsed] at read
      cases read
  | some value =>
      rw [readInt, parsed] at read
      obtain rfl := Except.ok.inj read
      replace parsed := (intOfChars_eq_some.mp parsed).2
      unfold signedInt at parsed
      split at parsed
      · rename_i rest signed
        have inStripped : '-' ∈ stripChars chars := by
          rw [signed]
          exact List.mem_cons_self
        exact absurd (stripChars_subset chars inStripped) unsigned
      · obtain ⟨natural, -, rfl⟩ := Option.map_eq_some_iff.mp parsed
        exact Int.natCast_nonneg natural
      · obtain ⟨natural, -, rfl⟩ := Option.map_eq_some_iff.mp parsed
        exact Int.natCast_nonneg natural

/-- The two forms of a header, a number or a range of natural numbers. -/
theorem parseHValue_forms {value : Json} {name : String} {range : HeaderRange}
    (parsed : parseHValue value name = .ok range) :
    range = ⟨range.low, range.low, toString range.low⟩ ∨
      range = ⟨range.low, range.high, toString range.low ++ "-" ++ toString range.high⟩ ∧
        0 ≤ range.low ∧ 0 ≤ range.high := by
  unfold parseHValue at parsed
  dsimp only at parsed
  split at parsed
  · obtain rfl := Except.ok.inj parsed
    exact Or.inl rfl
  · split at parsed
    · obtain ⟨number, _, isRange⟩ := bind_eq_ok.mp parsed
      obtain rfl := Except.ok.inj isRange
      exact Or.inl rfl
    · split at parsed
      · split at parsed
        · rename_i digits
          obtain ⟨low, readLow, rest⟩ := bind_eq_ok.mp parsed
          obtain ⟨high, readHigh, isRange⟩ := bind_eq_ok.mp rest
          obtain rfl := Except.ok.inj isRange
          exact Or.inr ⟨rfl, readInt_nonneg digits.1 readLow, readInt_nonneg digits.2 readHigh⟩
        · cases parsed
      · cases parsed
  · cases parsed

theorem short_of_header {number : Int} (nonneg : 0 ≤ number) (bounded : number ≤ headerMax) :
    number.toNat < 10 ^ maxStrDigits := by
  have small : number.toNat < 10 ^ 10 := by
    unfold headerMax at bounded
    omega
  exact small.trans_le (Nat.pow_le_pow_right (by decide) (by decide))

theorem readInt_toDigits {number : Int} (nonneg : 0 ≤ number) (bounded : number ≤ headerMax) :
    readInt (Nat.toDigits 10 number.toNat) = .ok number := by
  rw [readInt, intOfChars_toDigits (short_of_header nonneg bounded)]
  exact congrArg Except.ok (Int.toNat_of_nonneg nonneg)

theorem dropWhile_dash_toDigits (value : Nat) (rest : List Char) :
    (Nat.toDigits 10 value ++ rest).dropWhile (fun char => char == '-') =
      Nat.toDigits 10 value ++ rest := by
  rw [List.dropWhile_eq_self_iff]
  intro nonempty
  obtain ⟨first, others, isDigits⟩ := List.exists_cons_of_ne_nil (@Nat.toDigits_ne_nil value 10)
  have unsigned := dash_not_mem_toDigits value
  simp only [isDigits, List.mem_cons, not_or] at unsigned
  simpa [isDigits] using Ne.symm unsigned.1

/-- How a header within bounds is written reads as the same header. -/
theorem parseHValue_rendered {value : Json} {name : String} {range : HeaderRange}
    (parsed : parseHValue value name = .ok range) (positive : 0 < range.high)
    (bounded : range.high ≤ headerMax) (lowBounded : range.low ≤ headerMax) :
    parseHValue (.str range.rendered) name = .ok range := by
  rcases parseHValue_forms parsed with single | ⟨pair, lowNonneg, highNonneg⟩
  · rw [single] at positive bounded ⊢
    generalize range.low = number at positive bounded
    dsimp only at positive bounded
    have digits := toList_toString_nonneg positive.le
    have signed : isSignedDigits (Nat.toDigits 10 number.toNat) = true := by
      have whole := dropWhile_dash_toDigits number.toNat []
      rw [List.append_nil] at whole
      rw [isSignedDigits, whole]
      exact textIsDigit_toDigits number.toNat
    simp only [parseHValue, digits, stripChars_toDigits, signed, if_true,
      readInt_toDigits positive.le bounded]
    rfl
  · rw [pair]
    generalize range.low = low at lowNonneg lowBounded
    generalize range.high = high at highNonneg bounded
    have text : (toString low ++ "-" ++ toString high).toList =
        Nat.toDigits 10 low.toNat ++ '-' :: Nat.toDigits 10 high.toNat := by
      rw [String.toList_append, String.toList_append, toList_toString_nonneg lowNonneg,
        toList_toString_nonneg highNonneg, List.append_assoc]
      rfl
    have stripped : stripChars (Nat.toDigits 10 low.toNat ++ '-' :: Nat.toDigits 10 high.toNat) =
        Nat.toDigits 10 low.toNat ++ '-' :: Nat.toDigits 10 high.toNat := by
      refine (stripChars_of_ends ?_ ?_).2.2
      · intro char first
        rw [List.head?_append_of_ne_nil _ Nat.toDigits_ne_nil] at first
        exact isSpace_of_isDigit (isDigit_of_mem_toDigits (List.mem_of_mem_head? first))
      · intro char last
        rw [List.getLast?_append_of_ne_nil _ (List.cons_ne_nil _ _),
          List.getLast?_cons_of_ne_nil Nat.toDigits_ne_nil] at last
        exact isSpace_of_isDigit (isDigit_of_mem_toDigits (List.mem_of_mem_getLast? last))
    have unsigned : isSignedDigits
        (Nat.toDigits 10 low.toNat ++ '-' :: Nat.toDigits 10 high.toNat) = false := by
      rw [isSignedDigits, dropWhile_dash_toDigits, textIsDigit, Bool.and_eq_false_iff]
      right
      rw [List.all_eq_false]
      exact ⟨'-', List.mem_append_right _ List.mem_cons_self, by decide⟩
    have dashed : '-' ∈ Nat.toDigits 10 low.toNat ++ '-' :: Nat.toDigits 10 high.toNat :=
      List.mem_append_right _ List.mem_cons_self
    have parts := partition_append (dash_not_mem_toDigits low.toNat) (Nat.toDigits 10 high.toNat)
    have digits : textIsDigit (Nat.toDigits 10 low.toNat) = true ∧
        textIsDigit (Nat.toDigits 10 high.toNat) = true :=
      ⟨textIsDigit_toDigits low.toNat, textIsDigit_toDigits high.toNat⟩
    simp only [parseHValue, text, stripped, unsigned, dashed, parts, stripChars_toDigits, digits,
      and_self, if_true, readInt_toDigits lowNonneg lowBounded,
      readInt_toDigits highNonneg bounded]
    rfl

/-! ### The steps of a normalisation -/

/-- A normalisation that returns, step by step. -/
structure Awg2Steps (source : Obfuscation) (mtu : Option Int) (numbers : List (String × Int))
    (signatures : List (String × String)) (headers : List (String × HeaderRange)) : Prop where
  knownKeys : checkKeys (fun entry => entry.1 ∈ awgAscKeys) source = .ok ()
  readNumbers : collect (readNumber (checkAwg2Number mtu) source) awg2NumberKeys = .ok numbers
  readSignatures : collect (readSignature source) signatureKeys = .ok signatures
  readHeaders : collect (readHeader source) headerKeys = .ok headers
  apart : checkOverlaps headers = .ok ()
  sums : validateS1S2 numbers = .ok ()
  jumps : validateJminJmax numbers = .ok ()

/-- What is made of the numbers, signatures and headers. -/
def awg2Result (numbers : List (String × Int)) (signatures : List (String × String))
    (headers : List (String × HeaderRange)) : Obfuscation :=
  Dict.ofList (numberEntries numbers ++ textEntries signatures ++
    textEntries (headers.map (fun header => (header.1, header.2.rendered))))

theorem normalizeObfuscationAwg2_eq_ok {source result : Obfuscation} {mtu : Option Int} :
    normalizeObfuscationAwg2 source mtu = .ok result ↔
      ∃ numbers signatures headers, Awg2Steps source mtu numbers signatures headers ∧
        result = awg2Result numbers signatures headers := by
  constructor
  · intro normalized
    obtain ⟨⟨⟩, keys, step⟩ := bind_eq_ok.mp normalized
    obtain ⟨numbers, readNumbers, step⟩ := bind_eq_ok.mp step
    obtain ⟨signatures, readSignatures, step⟩ := bind_eq_ok.mp step
    obtain ⟨headers, readHeaders, step⟩ := bind_eq_ok.mp step
    obtain ⟨⟨⟩, apart, step⟩ := bind_eq_ok.mp step
    obtain ⟨⟨⟩, sums, step⟩ := bind_eq_ok.mp step
    obtain ⟨⟨⟩, jumps, step⟩ := bind_eq_ok.mp step
    exact ⟨numbers, signatures, headers,
      ⟨keys, readNumbers, readSignatures, readHeaders, apart, sums, jumps⟩,
      (Except.ok.inj step).symm⟩
  · rintro ⟨numbers, signatures, headers, steps, rfl⟩
    have readNumbers := steps.readNumbers
    rw [awg2NumberKeys] at readNumbers
    rw [normalizeObfuscationAwg2, steps.knownKeys, readNumbers, steps.readSignatures,
      steps.readHeaders]
    simp only [bind, Except.bind, steps.apart, steps.sums, steps.jumps]
    rfl

theorem collect_congr {α : Type} {value other : String → Except String (Option α)}
    {keys : List String} (same : ∀ key ∈ keys, value key = other key) :
    collect value keys = collect other keys := by
  induction keys with
  | nil => rfl
  | cons first rest ih =>
      rw [collect, collect, same first List.mem_cons_self,
        ih (fun key member => same key (List.mem_cons_of_mem first member))]

theorem checkOverlaps_ok {headers : List (String × HeaderRange)} :
    checkOverlaps headers = .ok () ↔
      headers.Pairwise (fun left right => left.2.overlaps right.2 = false) := by
  induction headers with
  | nil => exact iff_of_true rfl .nil
  | cons header rest ih =>
      rw [checkOverlaps, List.pairwise_cons]
      cases found : rest.find? (fun other => header.2.overlaps other.2) with
      | none =>
          have free := List.find?_eq_none.mp found
          dsimp only
          rw [ih]
          constructor
          · intro later
            exact ⟨fun other member => Bool.eq_false_iff.mpr (free other member), later⟩
          · exact And.right
      | some other =>
          have overlapping := List.find?_some found
          constructor
          · nofun
          · rintro ⟨free, _⟩
            rw [free other (List.mem_of_find?_eq_some found)] at overlapping
            cases overlapping

theorem overlaps_eq_false {left right : HeaderRange} (ordered : left.low ≤ left.high)
    (otherOrdered : right.low ≤ right.high) (apart : left.overlaps right = false) :
    left.high < right.low ∨ right.high < left.low := by
  have noCommon := of_decide_eq_false apart
  omega

/-! ### What is read of a key -/

section Reads

variable {source : Obfuscation} {key : String} {check : String → Int → Except String Unit}

theorem setValue_of_some {value : Json} (stored : source.get? key = some value)
    (set : value ≠ .null) : setValue source key = some value := by
  rw [setValue, stored]
  cases value with
  | null => exact absurd rfl set
  | _ => rfl

theorem setValue_of_none (absent : source.get? key = none) : setValue source key = none := by
  rw [setValue, absent]

/-- The number of a key that can be read is the one given, if that is positive. -/
theorem readNumber_ok {found : Option Int} (read : readNumber check source key = .ok found) :
    found = (if 0 < givenNumber source key then some (givenNumber source key) else none) ∧
      ∀ number, found = some number → check key number = .ok () := by
  unfold readNumber at read
  cases set : setValue source key with
  | none =>
      rw [set] at read
      obtain rfl := Except.ok.inj read
      have given : givenNumber source key = 0 := by rw [givenNumber, set]
      rw [given]
      exact ⟨rfl, nofun⟩
  | some value =>
      rw [set] at read
      obtain ⟨number, parsed, rest⟩ := bind_eq_ok.mp read
      have given : givenNumber source key = number := by
        rw [givenNumber, set]
        dsimp only
        rw [parsed]
        rfl
      rw [given]
      split at rest
      · rename_i nonpositive
        obtain rfl := Except.ok.inj rest
        rw [if_neg (not_lt.mpr nonpositive)]
        exact ⟨rfl, nofun⟩
      · rename_i positive
        obtain ⟨⟨⟩, checked, isFound⟩ := bind_eq_ok.mp rest
        obtain rfl := Except.ok.inj isFound
        rw [if_pos (not_le.mp positive)]
        refine ⟨rfl, ?_⟩
        rintro _ ⟨⟩
        exact checked

/-- A header that is read and kept. -/
structure KeptHeader (source : Obfuscation) (key : String) (range : HeaderRange) : Prop where
  parsed : ∃ value, parseHValue value key = .ok range
  positive : 0 < range.high
  ordered : range.low ≤ range.high
  bounded : range.high ≤ headerMax

theorem readHeader_kept {range : HeaderRange} (read : readHeader source key = .ok (some range)) :
    KeptHeader source key range := by
  unfold readHeader at read
  split at read
  · cases read
  · rename_i value _
    obtain ⟨parsedRange, parsed, rest⟩ := bind_eq_ok.mp read
    split at rest
    · cases rest
    · rename_i positive
      split at rest
      · cases rest
      · rename_i bounded
        split at rest
        · cases rest
        · rename_i ordered
          obtain rfl := Option.some.inj (Except.ok.inj rest)
          rw [not_or] at bounded
          exact ⟨⟨value, parsed⟩, not_le.mp positive, not_lt.mp ordered, not_lt.mp bounded.2⟩

namespace KeptHeader

variable {range : HeaderRange} (kept : KeptHeader source key range)

include kept

theorem nonneg : 0 ≤ range.low := by
  obtain ⟨value, parsed⟩ := kept.parsed
  have positive := kept.positive
  rcases parseHValue_forms parsed with single | ⟨_, lowNonneg, _⟩
  · have same : range.high = range.low := congrArg HeaderRange.high single
    omega
  · exact lowNonneg

/-- The header is read again from what is written. -/
theorem rendered : parseHValue (.str range.rendered) key = .ok range := by
  obtain ⟨value, parsed⟩ := kept.parsed
  exact parseHValue_rendered parsed kept.positive kept.bounded (kept.ordered.trans kept.bounded)

theorem read_again {other : Obfuscation} (stored : other.get? key = some (.str range.rendered)) :
    readHeader other key = .ok (some range) := by
  have positive := not_le.mpr kept.positive
  have bounded : ¬ (headerMax < range.low ∨ headerMax < range.high) := by
    have ordered := kept.ordered
    have bound := kept.bounded
    omega
  rw [readHeader, setValue_of_some stored nofun]
  simp only [kept.rendered, bind, Except.bind, if_neg positive, if_neg bounded,
    if_neg (not_lt.mpr kept.ordered)]

end KeptHeader

end Reads

/-! ### The result -/

namespace Awg2Steps

variable {source : Obfuscation} {mtu : Option Int} {numbers : List (String × Int)}
  {signatures : List (String × String)} {headers : List (String × HeaderRange)}
  (steps : Awg2Steps source mtu numbers signatures headers) {key : String}

include steps

theorem get?_result (value : Json) :
    (awg2Result numbers signatures headers).get? key = some value ↔
      (key ∈ awg2NumberKeys ∧ ∃ number,
        readNumber (checkAwg2Number mtu) source key = .ok (some number) ∧ value = .int number) ∨
      (key ∈ signatureKeys ∧ ∃ text,
        readSignature source key = .ok (some text) ∧ value = .str text) ∨
      (key ∈ headerKeys ∧ ∃ range,
        readHeader source key = .ok (some range) ∧ value = .str range.rendered) := by
  have names : ((headers.map (fun header => (header.1, header.2.rendered))).map Prod.fst) =
      headers.map Prod.fst := by
    rw [List.map_map]
    rfl
  rw [awg2Result, get?_normalised (collect_keys steps.readNumbers)
    (collect_keys steps.readSignatures) (names ▸ collect_keys steps.readHeaders) (by decide)]
  simp only [mem_collect steps.readNumbers, mem_collect steps.readSignatures, List.mem_map,
    Prod.mk.injEq, Prod.exists, mem_collect steps.readHeaders]
  constructor
  · rintro (⟨number, ⟨listed, read⟩, same⟩ | ⟨text, ⟨listed, read⟩, same⟩ |
      ⟨_, ⟨_, range, ⟨listed, read⟩, rfl, rfl⟩, same⟩)
    · exact Or.inl ⟨listed, number, read, same⟩
    · exact Or.inr (Or.inl ⟨listed, text, read, same⟩)
    · exact Or.inr (Or.inr ⟨listed, range, read, same⟩)
  · rintro (⟨listed, number, read, same⟩ | ⟨listed, text, read, same⟩ |
      ⟨listed, range, read, same⟩)
    · exact Or.inl ⟨number, ⟨listed, read⟩, same⟩
    · exact Or.inr (Or.inl ⟨text, ⟨listed, read⟩, same⟩)
    · exact Or.inr (Or.inr ⟨_, ⟨key, range, ⟨listed, read⟩, rfl, rfl⟩, same⟩)

theorem get?_number (isNumber : key ∈ awg2NumberKeys) (value : Json) :
    (awg2Result numbers signatures headers).get? key = some value ↔
      ∃ number, readNumber (checkAwg2Number mtu) source key = .ok (some number) ∧
        value = .int number := by
  have others : ∀ name ∈ awg2NumberKeys, name ∉ signatureKeys ∧ name ∉ headerKeys := by decide
  obtain ⟨notSignature, notHeader⟩ := others key isNumber
  rw [steps.get?_result]
  simp only [isNumber, notSignature, notHeader, true_and, false_and, or_false]

theorem get?_signature (isSignature : key ∈ signatureKeys) (value : Json) :
    (awg2Result numbers signatures headers).get? key = some value ↔
      ∃ text, readSignature source key = .ok (some text) ∧ value = .str text := by
  have others : ∀ name ∈ signatureKeys, name ∉ awg2NumberKeys ∧ name ∉ headerKeys := by decide
  obtain ⟨notNumber, notHeader⟩ := others key isSignature
  rw [steps.get?_result]
  simp only [isSignature, notNumber, notHeader, true_and, false_and, false_or, or_false]

theorem get?_header (isHeader : key ∈ headerKeys) (value : Json) :
    (awg2Result numbers signatures headers).get? key = some value ↔
      ∃ range, readHeader source key = .ok (some range) ∧ value = .str range.rendered := by
  have others : ∀ name ∈ headerKeys, name ∉ awg2NumberKeys ∧ name ∉ signatureKeys := by decide
  obtain ⟨notNumber, notSignature⟩ := others key isHeader
  rw [steps.get?_result]
  simp only [isHeader, notNumber, notSignature, true_and, false_and, false_or]

theorem known : ∀ name ∈ (awg2Result numbers signatures headers).keys, name ∈ awgAscKeys := by
  intro name member
  obtain ⟨value, stored⟩ := ((awg2Result numbers signatures headers).mem_keys_iff name).mp member
  rcases (steps.get?_result value).mp stored with ⟨listed, _⟩ | ⟨listed, _⟩ | ⟨listed, _⟩
  · have all : ∀ other ∈ awg2NumberKeys, other ∈ awgAscKeys := by decide
    exact all name listed
  · have all : ∀ other ∈ signatureKeys, other ∈ awgAscKeys := by decide
    exact all name listed
  · have all : ∀ other ∈ headerKeys, other ∈ awgAscKeys := by decide
    exact all name listed

/-! Every key of the result is read as it was. -/

theorem readNumber_again (isNumber : key ∈ awg2NumberKeys) :
    readNumber (checkAwg2Number mtu) (awg2Result numbers signatures headers) key =
      readNumber (checkAwg2Number mtu) source key := by
  obtain ⟨found, read⟩ := collect_reads steps.readNumbers isNumber
  obtain ⟨isFound, checked⟩ := readNumber_ok read
  rw [read]
  cases found with
  | none =>
      have absent : (awg2Result numbers signatures headers).get? key = none := by
        rw [Option.eq_none_iff_forall_ne_some]
        intro value stored
        obtain ⟨number, other, _⟩ := (steps.get?_number isNumber value).mp stored
        rw [read] at other
        cases other
      rw [readNumber, setValue_of_none absent]
  | some number =>
      have positive : ¬ number ≤ 0 := by
        split at isFound
        · rename_i positive
          obtain rfl := Option.some.inj isFound
          exact not_le.mpr positive
        · cases isFound
      have stored := (steps.get?_number isNumber (.int number)).mpr ⟨number, read, rfl⟩
      rw [readNumber, setValue_of_some stored nofun]
      simp only [parseInt, Json.toInt, bind, Except.bind, if_neg positive, checked number rfl]

theorem readSignature_again (isSignature : key ∈ signatureKeys) :
    readSignature (awg2Result numbers signatures headers) key = readSignature source key := by
  obtain ⟨found, read⟩ := collect_reads steps.readSignatures isSignature
  rw [read]
  cases found with
  | none =>
      have absent : (awg2Result numbers signatures headers).get? key = none := by
        rw [Option.eq_none_iff_forall_ne_some]
        intro value stored
        obtain ⟨text, other, _⟩ := (steps.get?_signature isSignature value).mp stored
        rw [read] at other
        cases other
      rw [readSignature, setValue_of_none absent]
  | some text =>
      obtain ⟨raw, _, visible, rfl⟩ := readSignature_ok.mp read
      have stored := (steps.get?_signature isSignature (.str (strip raw))).mpr ⟨_, read, rfl⟩
      rw [readSignature_ok]
      refine ⟨strip raw, setValue_of_some stored (fun absent => by cases absent), ?_, ?_⟩
      · rw [strip_strip]
        exact visible
      · rw [strip_strip]

theorem readHeader_again (isHeader : key ∈ headerKeys) :
    readHeader (awg2Result numbers signatures headers) key = readHeader source key := by
  obtain ⟨found, read⟩ := collect_reads steps.readHeaders isHeader
  rw [read]
  cases found with
  | none =>
      have absent : (awg2Result numbers signatures headers).get? key = none := by
        rw [Option.eq_none_iff_forall_ne_some]
        intro value stored
        obtain ⟨range, other, _⟩ := (steps.get?_header isHeader value).mp stored
        rw [read] at other
        cases other
      rw [readHeader, setValue_of_none absent]
  | some range =>
      have stored := (steps.get?_header isHeader (.str range.rendered)).mpr ⟨range, read, rfl⟩
      exact (readHeader_kept read).read_again stored

/-- Normalising the result goes through the same steps. -/
theorem again :
    Awg2Steps (awg2Result numbers signatures headers) mtu numbers signatures headers := by
  refine ⟨?_, ?_, ?_, ?_, steps.apart, steps.sums, steps.jumps⟩
  · rw [checkKeys_ok]
    intro entry member
    exact decide_eq_true (steps.known entry.1 (List.mem_map_of_mem member))
  · rw [collect_congr (fun key isNumber => steps.readNumber_again isNumber)]
    exact steps.readNumbers
  · rw [collect_congr (fun key isSignature => steps.readSignature_again isSignature)]
    exact steps.readSignatures
  · rw [collect_congr (fun key isHeader => steps.readHeader_again isHeader)]
    exact steps.readHeaders

/-! The numbers. -/

theorem numberIn_iff (isNumber : key ∈ awg2NumberKeys) (number : Int) :
    numberIn (awg2Result numbers signatures headers) key = some number ↔
      readNumber (checkAwg2Number mtu) source key = .ok (some number) := by
  have stored := steps.get?_number isNumber (.int number)
  constructor
  · intro found
    unfold numberIn at found
    split at found
    · rename_i value isValue
      obtain rfl := Option.some.inj found
      obtain ⟨_, read, ⟨⟩⟩ := stored.mp isValue
      exact read
    · cases found
  · intro read
    rw [numberIn, stored.mpr ⟨number, read, rfl⟩]

theorem numberIn_eq (isNumber : key ∈ awg2NumberKeys) :
    numberIn (awg2Result numbers signatures headers) key =
      if 0 < givenNumber source key then some (givenNumber source key) else none := by
  obtain ⟨found, read⟩ := collect_reads steps.readNumbers isNumber
  rw [← (readNumber_ok read).1]
  cases found with
  | none =>
      rw [Option.eq_none_iff_forall_ne_some]
      intro number there
      have other := (steps.numberIn_iff isNumber number).mp there
      rw [read] at other
      cases other
  | some number => exact (steps.numberIn_iff isNumber number).mpr read

theorem checked (isNumber : key ∈ awg2NumberKeys) {number : Int}
    (there : numberIn (awg2Result numbers signatures headers) key = some number) :
    0 < number ∧ checkAwg2Number mtu key number = .ok () := by
  have read := (steps.numberIn_iff isNumber number).mp there
  obtain ⟨isFound, check⟩ := readNumber_ok read
  split at isFound
  · rename_i positive
    obtain rfl := Option.some.inj isFound
    exact ⟨positive, check _ rfl⟩
  · cases isFound

theorem lookup_number (isNumber : key ∈ awg2NumberKeys) :
    numbers.lookup key = numberIn (awg2Result numbers signatures headers) key := by
  have distinct : (numbers.map Prod.fst).Nodup :=
    (collect_keys steps.readNumbers).nodup (by decide)
  rw [Option.ext_iff]
  intro number
  have listed := (⟨numbers, distinct⟩ : Dict String Int).mem_entries_iff key number
  rw [steps.numberIn_iff isNumber]
  change Dict.get? ⟨numbers, distinct⟩ key = some number ↔ _
  rw [← listed, mem_collect steps.readNumbers]
  exact ⟨And.right, fun read => ⟨isNumber, read⟩⟩

theorem ordered {jmin jmax : Int}
    (least : numberIn (awg2Result numbers signatures headers) "Jmin" = some jmin)
    (greatest : numberIn (awg2Result numbers signatures headers) "Jmax" = some jmax) :
    jmin ≤ jmax := by
  rw [← steps.lookup_number (by decide)] at least greatest
  have jumps := steps.jumps
  simp only [validateJminJmax, least, greatest] at jumps
  split at jumps
  · cases jumps
  · rename_i inOrder
    exact not_lt.mp inOrder

theorem separate {s1 s2 : Int}
    (first : numberIn (awg2Result numbers signatures headers) "S1" = some s1)
    (second : numberIn (awg2Result numbers signatures headers) "S2" = some s2) :
    s1 + 56 ≠ s2 := by
  rw [← steps.lookup_number (by decide)] at first second
  have sums := steps.sums
  simp only [validateS1S2, first, second] at sums
  split at sums
  · cases sums
  · rename_i apart
    exact apart

/-! The headers. -/

theorem rangeIn_eq (isHeader : key ∈ headerKeys) {range : HeaderRange}
    (there : rangeIn (awg2Result numbers signatures headers) key = some range) :
    readHeader source key = .ok (some range) := by
  obtain ⟨value, stored, denoted⟩ := Option.bind_eq_some_iff.mp there
  obtain ⟨kept, read, rfl⟩ := (steps.get?_header isHeader value).mp stored
  rw [(readHeader_kept read).rendered] at denoted
  obtain rfl := Option.some.inj denoted
  exact read

theorem rangeIn_of_read (isHeader : key ∈ headerKeys) {range : HeaderRange}
    (read : readHeader source key = .ok (some range)) :
    rangeIn (awg2Result numbers signatures headers) key = some range := by
  have stored := (steps.get?_header isHeader (.str range.rendered)).mpr ⟨range, read, rfl⟩
  rw [rangeIn, stored, Option.bind_some, (readHeader_kept read).rendered]
  rfl

theorem disjoint {other : String} (isHeader : key ∈ headerKeys) (otherHeader : other ∈ headerKeys)
    (different : key ≠ other) {left right : HeaderRange}
    (atKey : rangeIn (awg2Result numbers signatures headers) key = some left)
    (atOther : rangeIn (awg2Result numbers signatures headers) other = some right) :
    left.high < right.low ∨ right.high < left.low := by
  have leftRead := steps.rangeIn_eq isHeader atKey
  have rightRead := steps.rangeIn_eq otherHeader atOther
  have leftListed := (mem_collect steps.readHeaders key left).mpr ⟨isHeader, leftRead⟩
  have rightListed := (mem_collect steps.readHeaders other right).mpr ⟨otherHeader, rightRead⟩
  have apart := checkOverlaps_ok.mp steps.apart
  have symmetric : Std.Symm (fun first second : String × HeaderRange =>
      first.2.overlaps second.2 = false) := by
    refine ⟨fun first second free => ?_⟩
    rw [HeaderRange.overlaps, max_comm, min_comm]
    exact free
  have free := apart.forall leftListed rightListed
    (fun same => different (Prod.mk.inj same).1)
  exact overlaps_eq_false (readHeader_kept leftRead).ordered
    (readHeader_kept rightRead).ordered free

end Awg2Steps

/-- What the check of a number leaves. -/
theorem checkAwg2Number_ok {mtu : Option Int} {key : String} {number : Int}
    (checked : checkAwg2Number mtu key number = .ok ()) :
    (key = "Jc" → 1 ≤ number ∧ number ≤ 128) ∧
      (key = "Jmin" ∨ key = "Jmax" → 1 ≤ number ∧ number ≤ 1280) ∧
      (key = "S1" → number ≤ max 0 (awg2Mtu mtu - 148)) ∧
      (key = "S2" → number ≤ max 0 (awg2Mtu mtu - 92)) := by
  unfold checkAwg2Number at checked
  dsimp only at checked
  rw [← awg2Mtu] at checked
  split at checked
  · cases checked
  · rename_i jc
    split at checked
    · cases checked
    · rename_i jumps
      split at checked
      · cases checked
      · rename_i s1
        split at checked
        · cases checked
        · rename_i s2
          exact ⟨fun named => not_not.mp (fun outside => jc ⟨named, outside⟩),
            fun named => not_not.mp (fun outside => jumps ⟨named, outside⟩),
            fun named => not_lt.mp (fun outside => s1 ⟨named, outside⟩),
            fun named => not_lt.mp (fun outside => s2 ⟨named, outside⟩)⟩

/-- A result obeys its law exactly when S2 is not 56 with S1 omitted. -/
theorem awg2_law_iff (obf : Obfuscation) (mtu : Option Int) (result : Obfuscation)
    (normalized : normalizeObfuscationAwg2 obf mtu = .ok result) :
    Awg2Law mtu result ↔ ¬ (givenNumber obf "S2" = 56 ∧ givenNumber obf "S1" ≤ 0) := by
  obtain ⟨numbers, signatures, headers, steps, rfl⟩ := normalizeObfuscationAwg2_eq_ok.mp normalized
  have s1 := steps.numberIn_eq (by decide : "S1" ∈ awg2NumberKeys)
  have s2 := steps.numberIn_eq (by decide : "S2" ∈ awg2NumberKeys)
  constructor
  · rintro law ⟨is56, omitted⟩
    have apart := law.separate
    rw [s1, s2, if_neg (not_lt.mpr omitted), is56] at apart
    exact apart rfl
  · intro condition
    refine ⟨steps.known, ?_, ?_, ?_, ?_, ?_, ?_, ?_, ?_, ?_, ?_⟩
    · intro key isNumber value stored
      obtain ⟨number, read, rfl⟩ := (steps.get?_number isNumber value).mp stored
      have there := (steps.numberIn_iff isNumber number).mpr read
      exact ⟨number, rfl, (steps.checked isNumber there).1⟩
    · intro number there
      exact (checkAwg2Number_ok (steps.checked (by decide) there).2).1 rfl
    · intro key isJump number there
      have isNumber : key ∈ awg2NumberKeys := by
        have all : ∀ name ∈ ["Jmin", "Jmax"], name ∈ awg2NumberKeys := by decide
        exact all key isJump
      have named : key = "Jmin" ∨ key = "Jmax" := by simpa using isJump
      exact (checkAwg2Number_ok (steps.checked isNumber there).2).2.1 named
    · exact fun jmin jmax least greatest => steps.ordered least greatest
    · intro number there
      exact (checkAwg2Number_ok (steps.checked (by decide) there).2).2.2.1 rfl
    · intro number there
      exact (checkAwg2Number_ok (steps.checked (by decide) there).2).2.2.2 rfl
    · intro key isHeader present
      obtain ⟨value, stored⟩ := Option.isSome_iff_exists.mp present
      obtain ⟨range, read, rfl⟩ := (steps.get?_header isHeader value).mp stored
      have kept := readHeader_kept read
      exact ⟨range, steps.rangeIn_of_read isHeader read, kept.nonneg, kept.ordered, kept.positive,
        kept.bounded⟩
    · exact fun key isHeader other otherHeader different left right atKey atOther =>
        steps.disjoint isHeader otherHeader different atKey atOther
    · cases first : numberIn (awg2Result numbers signatures headers) "S1" with
      | none =>
          rw [s2]
          have omitted : givenNumber obf "S1" ≤ 0 := by
            rw [s1] at first
            by_contra positive
            rw [if_pos (not_le.mp positive)] at first
            cases first
          have not56 : givenNumber obf "S2" ≠ 56 := fun is56 => condition ⟨is56, omitted⟩
          split
          · exact fun same => not56 same.symm
          · decide
      | some number =>
          have positive := (steps.checked (by decide) first).1
          cases second : numberIn (awg2Result numbers signatures headers) "S2" with
          | none =>
              change number + 56 ≠ 0
              omega
          | some other => exact steps.separate first second
    · exact normalizeObfuscationAwg2_eq_ok.mpr ⟨numbers, signatures, headers, steps.again, rfl⟩

def sampleAwg2 : Obfuscation :=
  Dict.ofList [("Jc", .int 4), ("S1", .int 15), ("S2", .str " 88 "), ("H1", .str "5-9"),
    ("H2", .int 10)]

theorem awg2_law_iff_sample :
    Awg2Law none (Dict.ofList [("Jc", .int 4), ("S1", .int 15), ("S2", .int 88), ("H1", .str "5-9"),
      ("H2", .str "10")]) ↔
      ¬ (givenNumber sampleAwg2 "S2" = 56 ∧ givenNumber sampleAwg2 "S1" ≤ 0) :=
  awg2_law_iff sampleAwg2 none _ (by rfl)

/-- S2 alone, which the kernel takes with a zero S1. -/
theorem lone_s2_is_accepted :
    ¬ (∀ obf mtu result, normalizeObfuscationAwg2 obf mtu = .ok result → Awg2Law mtu result) := by
  intro always
  have law := always (Dict.ofList [("S2", .int 56)]) none (Dict.ofList [("S2", .int 56)]) (by rfl)
  exact law.separate (by decide)

end VpnSuite.Config
