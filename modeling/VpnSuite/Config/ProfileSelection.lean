/-
The profile that is chosen for the parameters of a server (`get_obfuscation_params`,
`_select_awg_profile` and `build_amnezia_client_config` in `core/amnezia_config.py`).

Parameters that are not empty always get S3 and S4, which only the AWG 2.0 profile takes, and a
signature that is null becomes an empty text, which no profile takes.
-/

import VpnSuite.Config.AmneziaConfig
import VpnSuite.Config.Awg2Normalisation

set_option autoImplicit false

namespace VpnSuite.Config

open Foundations
open Foundations.PythonText

/-! ### The configuration of a profile -/

/-- The AmneziaWG configuration for the parameters of a profile. -/
def configOf (params : RequestParams) (request : ConfigRequest) : Except ProfileError String := do
  let obf ← getObfuscationParams params
  match buildAmneziaClientConfig { request with obfuscation := some obf } with
  | .error errors => .error (.validation errors)
  | .ok text => .ok text

/-- The numbers that are read, with the parameters they come from and their defaults. -/
def numberParams : List (String × String × Int) :=
  [("S1", "amnezia_s1", defaultS1), ("S2", "amnezia_s2", defaultS2),
    ("Jc", "amnezia_jc", defaultJc), ("Jmin", "amnezia_jmin", defaultJmin),
    ("Jmax", "amnezia_jmax", defaultJmax),
    ("H1", "amnezia_h1", defaultH1), ("H2", "amnezia_h2", defaultH2),
    ("H3", "amnezia_h3", defaultH3), ("H4", "amnezia_h4", defaultH4), ("S3", "amnezia_s3", 0),
    ("S4", "amnezia_s4", 0)]

def signatureNames : List (String × String) :=
  [("I1", "amnezia_i1"), ("I2", "amnezia_i2"), ("I3", "amnezia_i3"), ("I4", "amnezia_i4"),
    ("I5", "amnezia_i5")]

/-- The number of a key, supplied or defaulted. -/
def IsNumberOf (params : RequestParams) (key : String) (number : Int) : Prop :=
  ∃ paramKey default, (key, paramKey, default) ∈ numberParams ∧
    intParam params paramKey default = .ok number

/-- The text of a signature. -/
def signatureText : Json → String
  | .null => ""
  | value => value.toText

/-- A signature that is null or white space. -/
def isBlankSignature (raw : Json) : Bool := strip (signatureText raw) = ""

def HasBlankSignature (params : RequestParams) : Prop :=
  ∃ key paramKey raw, (key, paramKey) ∈ signatureNames ∧ params.get? paramKey = some raw ∧
    isBlankSignature raw = true

/-- A header, S3 or S4 that is positive, or a signature that is not blank. -/
def AsksForAwg2 (params : RequestParams) : Prop :=
  (∃ key ∈ ["H1", "H2", "H3", "H4", "S3", "S4"], ∃ number, IsNumberOf params key number ∧
      0 < number) ∨
    ∃ key paramKey raw, (key, paramKey) ∈ signatureNames ∧ params.get? paramKey = some raw ∧
      isBlankSignature raw = false

/-- A number out of its range. -/
def HasNumberOutOfRange (params : RequestParams) (mtu : Option Int) : Prop :=
  ∃ key ∈ ["Jc", "Jmin", "Jmax", "S1", "S2"], ∃ number, IsNumberOf params key number ∧
    0 < number ∧ checkAwg2Number mtu key number ≠ .ok ()

/-- What is wrong with the numbers, and the text that says so. -/
inductive NumericViolation (params : RequestParams) (mtu : Option Int) : String → Prop where
  | range {key : String} {number : Int} {text : String} (given : IsNumberOf params key number)
      (positive : 0 < number) (refused : checkAwg2Number mtu key number = .error text) :
      NumericViolation params mtu text
  | header {key : String} {number : Int} (isHeader : key ∈ headerKeys)
      (given : IsNumberOf params key number) (above : headerMax < number) :
      NumericViolation params mtu (key ++ " out of range for awg_2_0_asc profile (got '" ++
        toString number ++ "', max " ++ toString headerMax ++ ")")
  | overlap {key other : String} {number : Int} (isHeader : key ∈ headerKeys)
      (otherHeader : other ∈ headerKeys) (different : key ≠ other)
      (given : IsNumberOf params key number) (alsoGiven : IsNumberOf params other number) :
      NumericViolation params mtu (key ++ " and " ++ other ++ " ranges overlap")
  | sums {s1 s2 : Int} (first : IsNumberOf params "S1" s1) (second : IsNumberOf params "S2" s2)
      (same : s1 + 56 = s2) :
      NumericViolation params mtu ("AmneziaWG kernel requires S1+56 ≠ S2; got S1=" ++ toString s1 ++
        " S2=" ++ toString s2)
  | ordering {jmin jmax : Int} (first : IsNumberOf params "Jmin" jmin)
      (second : IsNumberOf params "Jmax" jmax) (reversed : jmax < jmin) :
      NumericViolation params mtu ("Jmin (" ++ toString jmin ++ ") must be <= Jmax (" ++
        toString jmax ++ ")")

/-- The keys, the address and the other fields of the request are valid. -/
structure ValidFields (request : ConfigRequest) : Prop where
  fields : fieldErrors (request.interface "1.1.1.1, 1.0.0.1, 8.8.8.8, 8.8.4.4") request.peer
    .awg20Asc none = []
  presharedKey : ∃ lines, presharedKeyLines request.presharedKey = .ok lines

/-- The profile takes all its keys, a blank signature is as good as none, and what fails is a
number. -/
structure ProfileTakesParams (params : RequestParams) (request : ConfigRequest) : Prop where
  supported : ∀ errors, configOf params request = .error (.validation errors) →
    ∀ error ∈ errors, contains "unsupported_key" error = false
  blankIsAbsent : ∀ key paramKey raw, (key, paramKey) ∈ signatureNames →
    params.get? paramKey = some raw → isBlankSignature raw = true →
      configOf params request = configOf (params.erase paramKey) request
  numeric : ∀ errors, configOf params request = .error (.validation errors) →
    ∃ text, errors = [text] ∧ NumericViolation params request.mtu text

/-! ### The parameters that are read -/

section Read

variable {params : RequestParams} {obf : Obfuscation}

/-- What `get_obfuscation_params` reads. -/
structure ReadFrom (params : RequestParams) (obf : Obfuscation) : Prop where
  number : ∀ key paramKey default, (key, paramKey, default) ∈ numberParams →
    ∃ number, intParam params paramKey default = .ok number ∧
      (obf.get? key = some (.int number) ∨ (obf.get? key = none ∧ number = 0))
  signature : ∀ key paramKey, (key, paramKey) ∈ signatureNames →
    obf.get? key = (params.get? paramKey).map (fun raw => .str (signatureText raw))
  known : ∀ entry ∈ obf.entries, entry.1 ∈ awgAscKeys
  present : obf.entries.isEmpty = false
  spare : params.entries.isEmpty = false → ∃ number, ("S3", .int number) ∈ obf.entries
  sums : ∀ s1 s2, intParam params "amnezia_s1" defaultS1 = .ok s1 →
    intParam params "amnezia_s2" defaultS2 = .ok s2 → s1 + 56 ≠ s2

theorem signatureParams_eq (params : RequestParams) :
    signatureParams params = signatureNames.filterMap (fun names =>
      (params.get? names.2).map (fun raw => (names.1, .str (signatureText raw)))) := rfl

theorem mem_signatureParams {key : String} {value : Json} :
    (key, value) ∈ signatureParams params ↔ ∃ paramKey raw, (key, paramKey) ∈ signatureNames ∧
      params.get? paramKey = some raw ∧ value = .str (signatureText raw) := by
  rw [signatureParams_eq, List.mem_filterMap]
  constructor
  · rintro ⟨⟨name, paramKey⟩, member, made⟩
    obtain ⟨raw, stored, same⟩ := Option.map_eq_some_iff.mp made
    obtain ⟨rfl, rfl⟩ := Prod.mk.inj same
    exact ⟨paramKey, raw, member, stored, rfl⟩
  · rintro ⟨paramKey, raw, member, stored, rfl⟩
    exact ⟨(key, paramKey), member, by rw [stored]; rfl⟩

theorem signatureParams_keys (params : RequestParams) :
    ((signatureParams params).map Prod.fst).Sublist signatureKeys := by
  have names : ∀ table : List (String × String), ((table.filterMap (fun names =>
      (params.get? names.2).map (fun raw => (names.1, Json.str (signatureText raw))))).map
        Prod.fst).Sublist (table.map Prod.fst) := by
    intro table
    induction table with
    | nil => exact List.Sublist.slnil
    | cons first rest ih =>
        rw [List.filterMap_cons, List.map_cons]
        cases params.get? first.2 with
        | none => exact ih.cons first.1
        | some raw => exact ih.cons_cons first.1
  rw [signatureParams_eq]
  exact names signatureNames

theorem signature_apart : ∀ names ∈ signatureNames, names.1 ∈ signatureKeys ∧
    names.1 ∉ awg2NumberKeys ++ headerKeys := by decide

theorem paramKey_unique : ∀ left ∈ signatureNames, ∀ right ∈ signatureNames, left.1 = right.1 →
    left = right := by decide

/-- Entries of numbers before those of the signatures, as they are found again. -/
theorem get?_withSignatures {numbers : List (String × Json)}
    (distinct : (numbers.map Prod.fst).Nodup)
    (numbered : ∀ entry ∈ numbers, entry.1 ∈ awg2NumberKeys ++ headerKeys) {key : String}
    {value : Json} :
    (Dict.ofList (numbers ++ signatureParams params)).get? key = some value ↔
      (key, value) ∈ numbers ∨ (key, value) ∈ signatureParams params := by
  have apart : ∀ name ∈ signatureKeys, name ∉ awg2NumberKeys ++ headerKeys := by decide
  rw [Dict.get?_ofList_iff, List.mem_append]
  rw [List.map_append]
  refine List.nodup_append.mpr ⟨distinct,
    (signatureParams_keys params).nodup (by decide), ?_⟩
  rintro left inNumbers right inSignatures rfl
  obtain ⟨entry, member, rfl⟩ := List.mem_map.mp inNumbers
  exact apart _ ((signatureParams_keys params).subset inSignatures) (numbered entry member)

/-- Such a dict is read from the parameters, if the numbers are. -/
theorem readFrom_withSignatures {numbers : List (String × Json)}
    (distinct : (numbers.map Prod.fst).Nodup)
    (numbered : ∀ entry ∈ numbers, entry.1 ∈ awg2NumberKeys ++ headerKeys)
    (number : ∀ key paramKey default, (key, paramKey, default) ∈ numberParams →
      ∃ number, intParam params paramKey default = .ok number ∧
        ((key, .int number) ∈ numbers ∨ (key ∉ numbers.map Prod.fst ∧ number = 0)))
    (nonempty : numbers ≠ [])
    (spare : params.entries.isEmpty = false → ∃ number, ("S3", .int number) ∈ numbers)
    (sums : ∀ s1 s2, intParam params "amnezia_s1" defaultS1 = .ok s1 →
      intParam params "amnezia_s2" defaultS2 = .ok s2 → s1 + 56 ≠ s2) :
    ReadFrom params (Dict.ofList (numbers ++ signatureParams params)) := by
  have found {key : String} {value : Json} :=
    @get?_withSignatures params numbers distinct numbered key value
  constructor
  · intro key paramKey default member
    obtain ⟨value, read, stored⟩ := number key paramKey default member
    refine ⟨value, read, ?_⟩
    rcases stored with inNumbers | ⟨absent, zero⟩
    · exact .inl (found.mpr (.inl inNumbers))
    · refine .inr ⟨?_, zero⟩
      rw [Option.eq_none_iff_forall_ne_some]
      intro other there
      rcases found.mp there with inNumbers | inSignatures
      · exact absent (List.mem_map_of_mem (f := Prod.fst) inNumbers)
      · obtain ⟨_, _, named, -, -⟩ := mem_signatureParams.mp inSignatures
        have isNumber : ∀ row ∈ numberParams, row.1 ∈ awg2NumberKeys ++ headerKeys := by decide
        exact (signature_apart _ named).2 (isNumber _ member)
  · intro key paramKey named
    apply Option.ext
    intro value
    rw [found, mem_signatureParams, Option.map_eq_some_iff]
    constructor
    · rintro (inNumbers | ⟨other, raw, otherNamed, stored, rfl⟩)
      · exact absurd (numbered _ inNumbers) (signature_apart _ named).2
      · obtain ⟨-, rfl⟩ := Prod.mk.inj (paramKey_unique _ otherNamed _ named rfl)
        exact ⟨raw, stored, rfl⟩
    · rintro ⟨raw, stored, rfl⟩
      exact .inr ⟨paramKey, raw, named, stored, rfl⟩
  · rintro ⟨key, value⟩ member
    have all : ∀ name ∈ awg2NumberKeys ++ headerKeys ++ signatureKeys, name ∈ awgAscKeys := by
      decide
    rcases found.mp ((Dict.mem_entries_iff _ key value).mp member) with inNumbers | inSignatures
    · exact all key (List.mem_append_left _ (numbered _ inNumbers))
    · obtain ⟨_, _, named, -, -⟩ := mem_signatureParams.mp inSignatures
      exact all key (List.mem_append_right _ (signature_apart _ named).1)
  · obtain ⟨⟨key, value⟩, member⟩ := List.exists_mem_of_ne_nil numbers nonempty
    have stored := (Dict.mem_entries_iff _ key value).mpr (found.mpr (.inl member))
    exact List.isEmpty_eq_false_iff.mpr (List.ne_nil_of_mem stored)
  · intro some
    obtain ⟨value, member⟩ := spare some
    exact ⟨value, (Dict.mem_entries_iff _ _ _).mpr (found.mpr (.inl member))⟩
  · exact sums

theorem checkS1S2_ok {s1 s2 : Int} (checked : checkS1S2 s1 s2 = .ok ()) : s1 + 56 ≠ s2 := by
  unfold checkS1S2 at checked
  split at checked
  · cases checked
  · assumption

theorem intParam_absent (empty : params.entries = []) (paramKey : String) (default : Int) :
    intParam params paramKey default = .ok default := by
  have absent : params.get? paramKey = none := by
    rw [Dict.get?, empty]
    rfl
  rw [intParam, absent]

/-- The parameters are read as `get_obfuscation_params` returns them. -/
theorem getObfuscationParams_reads (returned : getObfuscationParams params = .ok obf) :
    ReadFrom params obf := by
  unfold getObfuscationParams at returned
  split at returned
  · rename_i isEmpty
    have empty := List.isEmpty_iff.mp isEmpty
    have noSignatures : signatureParams params = [] := by
      rw [List.eq_nil_iff_forall_not_mem]
      rintro ⟨key, value⟩ member
      obtain ⟨_, _, -, stored, -⟩ := mem_signatureParams.mp member
      rw [Dict.get?, empty] at stored
      cases stored
    obtain ⟨⟨⟩, -, whole⟩ := bind_eq_ok.mp returned
    obtain rfl := Except.ok.inj whole
    rw [← List.append_nil defaultObfuscation, ← noSignatures]
    refine readFrom_withSignatures (by decide) (by decide) ?_ (by decide) ?_ ?_
    · intro key paramKey default member
      refine ⟨default, intParam_absent empty paramKey default, ?_⟩
      have rows : ∀ row ∈ numberParams, (row.1, Json.int row.2.2) ∈ defaultObfuscation ∨
          (row.1 ∉ defaultObfuscation.map Prod.fst ∧ row.2.2 = 0) := by
        simp [numberParams, defaultObfuscation]
      exact rows _ member
    · intro some
      rw [isEmpty] at some
      cases some
    · intro s1 s2 readS1 readS2
      rw [intParam_absent empty] at readS1 readS2
      obtain rfl := Except.ok.inj readS1
      obtain rfl := Except.ok.inj readS2
      decide
  · obtain ⟨s1, readS1, step⟩ := bind_eq_ok.mp returned
    obtain ⟨s2, readS2, step⟩ := bind_eq_ok.mp step
    obtain ⟨⟨⟩, checked, step⟩ := bind_eq_ok.mp step
    obtain ⟨jc, readJc, step⟩ := bind_eq_ok.mp step
    obtain ⟨jmin, readJmin, step⟩ := bind_eq_ok.mp step
    obtain ⟨jmax, readJmax, step⟩ := bind_eq_ok.mp step
    obtain ⟨h1, readH1, step⟩ := bind_eq_ok.mp step
    obtain ⟨h2, readH2, step⟩ := bind_eq_ok.mp step
    obtain ⟨h3, readH3, step⟩ := bind_eq_ok.mp step
    obtain ⟨h4, readH4, step⟩ := bind_eq_ok.mp step
    obtain ⟨s3, readS3, step⟩ := bind_eq_ok.mp step
    obtain ⟨s4, readS4, step⟩ := bind_eq_ok.mp step
    obtain rfl := Except.ok.inj step
    refine readFrom_withSignatures (by simp) (by simp [awg2NumberKeys, headerKeys]) ?_
      (List.cons_ne_nil _ _) (fun _ => ⟨s3, by simp⟩) ?_
    · intro key paramKey default member
      simp only [numberParams, List.mem_cons, Prod.mk.injEq, List.not_mem_nil, or_false] at member
      rcases member with ⟨rfl, rfl, rfl⟩ | ⟨rfl, rfl, rfl⟩ | ⟨rfl, rfl, rfl⟩ | ⟨rfl, rfl, rfl⟩ |
        ⟨rfl, rfl, rfl⟩ | ⟨rfl, rfl, rfl⟩ | ⟨rfl, rfl, rfl⟩ | ⟨rfl, rfl, rfl⟩ | ⟨rfl, rfl, rfl⟩ |
        ⟨rfl, rfl, rfl⟩ | ⟨rfl, rfl, rfl⟩
      · exact ⟨s1, readS1, .inl (by simp)⟩
      · exact ⟨s2, readS2, .inl (by simp)⟩
      · exact ⟨jc, readJc, .inl (by simp)⟩
      · exact ⟨jmin, readJmin, .inl (by simp)⟩
      · exact ⟨jmax, readJmax, .inl (by simp)⟩
      · exact ⟨h1, readH1, .inl (by simp)⟩
      · exact ⟨h2, readH2, .inl (by simp)⟩
      · exact ⟨h3, readH3, .inl (by simp)⟩
      · exact ⟨h4, readH4, .inl (by simp)⟩
      · exact ⟨s3, readS3, .inl (by simp)⟩
      · exact ⟨s4, readS4, .inl (by simp)⟩
    · intro first second readFirst readSecond
      obtain rfl := Except.ok.inj (readFirst.symm.trans readS1)
      obtain rfl := Except.ok.inj (readSecond.symm.trans readS2)
      exact checkS1S2_ok checked

/-- Parameters with numbers and without a violation are read. -/
theorem getObfuscationParams_returns
    (numbers : ∀ key paramKey default, (key, paramKey, default) ∈ numberParams →
      ∃ number, intParam params paramKey default = .ok number)
    (sums : ∀ s1 s2, intParam params "amnezia_s1" defaultS1 = .ok s1 →
      intParam params "amnezia_s2" defaultS2 = .ok s2 → s1 + 56 ≠ s2) :
    ∃ obf, getObfuscationParams params = .ok obf := by
  unfold getObfuscationParams
  split
  · exact ⟨_, rfl⟩
  · obtain ⟨s1, readS1⟩ := numbers "S1" "amnezia_s1" defaultS1 (by simp [numberParams])
    obtain ⟨s2, readS2⟩ := numbers "S2" "amnezia_s2" defaultS2 (by simp [numberParams])
    obtain ⟨jc, readJc⟩ := numbers "Jc" "amnezia_jc" defaultJc (by simp [numberParams])
    obtain ⟨jmin, readJmin⟩ := numbers "Jmin" "amnezia_jmin" defaultJmin (by simp [numberParams])
    obtain ⟨jmax, readJmax⟩ := numbers "Jmax" "amnezia_jmax" defaultJmax (by simp [numberParams])
    obtain ⟨h1, readH1⟩ := numbers "H1" "amnezia_h1" defaultH1 (by simp [numberParams])
    obtain ⟨h2, readH2⟩ := numbers "H2" "amnezia_h2" defaultH2 (by simp [numberParams])
    obtain ⟨h3, readH3⟩ := numbers "H3" "amnezia_h3" defaultH3 (by simp [numberParams])
    obtain ⟨h4, readH4⟩ := numbers "H4" "amnezia_h4" defaultH4 (by simp [numberParams])
    obtain ⟨s3, readS3⟩ := numbers "S3" "amnezia_s3" 0 (by simp [numberParams])
    obtain ⟨s4, readS4⟩ := numbers "S4" "amnezia_s4" 0 (by simp [numberParams])
    have checked : checkS1S2 s1 s2 = .ok () := if_neg (sums s1 s2 readS1 readS2)
    rw [readS1, readS2, readJc, readJmin, readJmax, readH1, readH2, readH3, readH4, readS3, readS4]
    simp only [bind, Except.bind, checked]
    exact ⟨_, rfl⟩

end Read

/-! ### The profile and the values of its keys -/

section Values

variable {params : RequestParams} {obf : Obfuscation} {key paramKey : String} {number : Int}

theorem numberRow_unique : ∀ left ∈ numberParams, ∀ right ∈ numberParams, left.1 = right.1 →
    left = right := by decide

theorem IsNumberOf.unique {other : Int} (given : IsNumberOf params key number)
    (alsoGiven : IsNumberOf params key other) : number = other := by
  obtain ⟨paramKey, default, row, read⟩ := given
  obtain ⟨otherKey, otherDefault, otherRow, otherRead⟩ := alsoGiven
  obtain ⟨-, columns⟩ := Prod.mk.inj (numberRow_unique _ row _ otherRow rfl)
  obtain ⟨rfl, rfl⟩ := Prod.mk.inj columns
  exact Except.ok.inj (read.symm.trans otherRead)

theorem numberRow_of_key : ∀ key ∈ awg2NumberKeys ++ headerKeys,
    ∃ row ∈ numberParams, row.1 = key := by decide

namespace ReadFrom

variable (read : ReadFrom params obf)

include read

theorem exists_number (isNumber : key ∈ awg2NumberKeys ++ headerKeys) :
    ∃ number, IsNumberOf params key number := by
  obtain ⟨⟨_, paramKey, default⟩, row, rfl⟩ := numberRow_of_key key isNumber
  obtain ⟨number, given, -⟩ := read.number _ paramKey default row
  exact ⟨number, paramKey, default, row, given⟩

theorem stored (given : IsNumberOf params key number) :
    obf.get? key = some (.int number) ∨ (obf.get? key = none ∧ number = 0) := by
  obtain ⟨paramKey, default, row, asNumber⟩ := given
  obtain ⟨value, asValue, there⟩ := read.number key paramKey default row
  obtain rfl := Except.ok.inj (asNumber.symm.trans asValue)
  exact there

theorem readNumber_eq (check : String → Int → Except String Unit)
    (given : IsNumberOf params key number) :
    readNumber check obf key =
      if number ≤ 0 then .ok none else (check key number).map (fun _ => some number) := by
  unfold readNumber
  rcases read.stored given with there | ⟨absent, rfl⟩
  · rw [setValue_of_some there (fun same => by cases same)]
    simp only [parseInt, Json.toInt, bind, Except.bind]
    split
    · rfl
    · cases check key number <;> rfl
  · rw [setValue_of_none absent]
    rfl

theorem readHeader_eq (given : IsNumberOf params key number) :
    readHeader obf key =
      if number ≤ 0 then .ok none
      else if headerMax < number then
        .error (key ++ " out of range for awg_2_0_asc profile (got '" ++ toString number ++
          "', max " ++ toString headerMax ++ ")")
      else .ok (some ⟨number, number, toString number⟩) := by
  unfold readHeader
  rcases read.stored given with there | ⟨absent, rfl⟩
  · rw [setValue_of_some there (fun same => by cases same)]
    simp only [parseHValue, bind, Except.bind, or_self, lt_irrefl, if_false]
  · rw [setValue_of_none absent]
    rfl

theorem readSignature_eq (named : (key, paramKey) ∈ signatureNames) :
    readSignature obf key =
      match params.get? paramKey with
      | none => .ok none
      | some raw =>
          if isBlankSignature raw then .error (key ++ " must be non-empty string")
          else .ok (some (strip (signatureText raw))) := by
  have there := read.signature key paramKey named
  unfold readSignature
  cases raw : params.get? paramKey with
  | none =>
      rw [raw] at there
      rw [setValue_of_none there]
  | some value =>
      rw [raw] at there
      rw [setValue_of_some there (fun same => by cases same)]
      simp only [isBlankSignature, decide_eq_true_eq]

/-- A number among the values that decide the profile. -/
theorem active_number_iff (given : IsNumberOf params key number) :
    (obf.get? key).any (fun value => !isInert value) = true ↔ 0 < number := by
  rcases read.stored given with there | ⟨absent, rfl⟩
  · rw [there]
    simp [isInert, Json.asInt?]
  · rw [absent]
    simp

theorem active_signature_iff (named : (key, paramKey) ∈ signatureNames) :
    (obf.get? key).any (fun value => !isInert value) = true ↔
      ∃ raw, params.get? paramKey = some raw ∧ isBlankSignature raw = false := by
  rw [read.signature key paramKey named]
  cases params.get? paramKey with
  | none => simp
  | some raw => simp [isInert, isBlankSignature]

theorem select_iff : selectAwgProfile (some obf) = .awg20Asc ↔ AsksForAwg2 params := by
  have chosen : selectAwgProfile (some obf) = .awg20Asc ↔ profileKeys.any (fun key =>
      (obf.get? key).any (fun value => !isInert value)) = true := by
    unfold selectAwgProfile
    dsimp only
    split
    · rename_i active
      exact iff_of_true rfl active
    · rename_i inactive
      exact iff_of_false (fun same => by cases same) inactive
  have numbers : ∀ key ∈ ["H1", "H2", "H3", "H4", "S3", "S4"],
      key ∈ awg2NumberKeys ++ headerKeys ∧ key ∈ profileKeys := by decide
  have signatures : ∀ names ∈ signatureNames, names.1 ∈ profileKeys := by decide
  have split : ∀ key ∈ profileKeys, key ∈ ["H1", "H2", "H3", "H4", "S3", "S4"] ∨
      ∃ names ∈ signatureNames, names.1 = key := by decide
  rw [chosen, List.any_eq_true, AsksForAwg2]
  constructor
  · rintro ⟨key, isKey, active⟩
    rcases split key isKey with isNumber | ⟨⟨_, paramKey⟩, named, rfl⟩
    · obtain ⟨number, given⟩ := read.exists_number (numbers key isNumber).1
      exact .inl ⟨key, isNumber, number, given, (read.active_number_iff given).mp active⟩
    · obtain ⟨raw, there, visible⟩ := (read.active_signature_iff named).mp active
      exact .inr ⟨_, paramKey, raw, named, there, visible⟩
  · rintro (⟨key, isNumber, number, given, positive⟩ | ⟨key, paramKey, raw, named, there, visible⟩)
    · exact ⟨key, (numbers key isNumber).2, (read.active_number_iff given).mpr positive⟩
    · exact ⟨key, signatures _ named, (read.active_signature_iff named).mpr ⟨raw, there, visible⟩⟩

end ReadFrom

end Values

/-! ### What the AWG 2.0 profile refuses -/

section Refusals

variable {params : RequestParams} {obf : Obfuscation} {key paramKey text : String} {number : Int}
  {mtu : Option Int}

theorem checkOverlaps_error {headers : List (String × HeaderRange)}
    (failed : checkOverlaps headers = .error text) :
    ∃ before header rest other, headers = before ++ header :: rest ∧ other ∈ rest ∧
      header.2.overlaps other.2 = true ∧
      text = header.1 ++ " and " ++ other.1 ++ " ranges overlap" := by
  induction headers with
  | nil => cases failed
  | cons header rest ih =>
      unfold checkOverlaps at failed
      split at failed
      · rename_i other found
        have overlapping : header.2.overlaps other.2 = true := by
          simpa using List.find?_some found
        exact ⟨[], header, rest, other, rfl, List.mem_of_find?_eq_some found, overlapping,
          (Except.error.inj failed).symm⟩
      · obtain ⟨before, first, later, other, rfl, member, overlapping, same⟩ := ih failed
        exact ⟨header :: before, first, later, other, rfl, member, overlapping, same⟩

theorem validateS1S2_error {numbers : List (String × Int)}
    (failed : validateS1S2 numbers = .error text) :
    ∃ s1 s2, ("S1", s1) ∈ numbers ∧ ("S2", s2) ∈ numbers ∧ s1 + 56 = s2 ∧
      text = "AmneziaWG kernel requires S1+56 ≠ S2; got S1=" ++ toString s1 ++ " S2=" ++
        toString s2 := by
  unfold validateS1S2 at failed
  split at failed
  · rename_i s1 s2 first second
    split at failed
    · rename_i same
      exact ⟨s1, s2, mem_of_lookup first, mem_of_lookup second, same,
        (Except.error.inj failed).symm⟩
    · cases failed
  · cases failed

theorem validateJminJmax_error {numbers : List (String × Int)}
    (failed : validateJminJmax numbers = .error text) :
    ∃ jmin jmax, ("Jmin", jmin) ∈ numbers ∧ ("Jmax", jmax) ∈ numbers ∧ jmax < jmin ∧
      text = "Jmin (" ++ toString jmin ++ ") must be <= Jmax (" ++ toString jmax ++ ")" := by
  unfold validateJminJmax at failed
  split at failed
  · rename_i jmin jmax first second
    split at failed
    · rename_i reversed
      exact ⟨jmin, jmax, mem_of_lookup first, mem_of_lookup second, reversed,
        (Except.error.inj failed).symm⟩
    · cases failed
  · cases failed

theorem checkAwg2Number_free (number : Int) : ∀ key ∈ awg2NumberKeys,
    key ∉ ["Jc", "Jmin", "Jmax", "S1", "S2"] → checkAwg2Number mtu key number = .ok () := by
  intro key isNumber unchecked
  have rest : key = "S3" ∨ key = "S4" := by
    simp only [awg2NumberKeys, List.mem_cons, List.not_mem_nil, or_false] at isNumber unchecked
    tauto
  rcases rest with rfl | rfl
  · simp [checkAwg2Number]
  · simp [checkAwg2Number]

namespace ReadFrom

variable (read : ReadFrom params obf)

include read

theorem numbers_known : checkKeys (fun entry => entry.1 ∈ awgAscKeys) obf = .ok () :=
  checkKeys_ok.mpr (fun entry member => decide_eq_true (read.known entry member))

/-- A number that is read has been given, and is positive and in range. -/
theorem given_of_read (isNumber : key ∈ awg2NumberKeys)
    (readNumber : readNumber (checkAwg2Number mtu) obf key = .ok (some number)) :
    IsNumberOf params key number := by
  obtain ⟨value, given⟩ := read.exists_number (List.mem_append_left headerKeys isNumber)
  rw [read.readNumber_eq _ given] at readNumber
  split at readNumber
  · cases readNumber
  · cases checked : checkAwg2Number mtu key value with
    | error error =>
        rw [checked] at readNumber
        cases readNumber
    | ok _ =>
        rw [checked] at readNumber
        obtain rfl := Option.some.inj (Except.ok.inj readNumber)
        exact given

/-- The numbers fail exactly if one is out of range. -/
theorem numbers_fail_iff :
    (∃ text, collect (readNumber (checkAwg2Number mtu) obf) awg2NumberKeys = .error text) ↔
      HasNumberOutOfRange params mtu := by
  constructor
  · rintro ⟨text, failed⟩
    obtain ⟨key, isNumber, here⟩ := collect_error failed
    obtain ⟨number, given⟩ := read.exists_number (List.mem_append_left headerKeys isNumber)
    rw [read.readNumber_eq _ given] at here
    split at here
    · cases here
    · rename_i positive
      have refused : checkAwg2Number mtu key number ≠ .ok () := by
        intro checked
        rw [checked] at here
        cases here
      have checkedKey : key ∈ ["Jc", "Jmin", "Jmax", "S1", "S2"] := by
        by_contra unchecked
        exact refused (checkAwg2Number_free number key isNumber unchecked)
      exact ⟨key, checkedKey, number, given, not_le.mp positive, refused⟩
  · rintro ⟨key, isChecked, number, given, positive, refused⟩
    have isNumber : ∀ name ∈ ["Jc", "Jmin", "Jmax", "S1", "S2"], name ∈ awg2NumberKeys := by decide
    cases collected : collect (readNumber (checkAwg2Number mtu) obf) awg2NumberKeys with
    | error text => exact ⟨text, rfl⟩
    | ok found =>
        obtain ⟨present, here⟩ := collect_reads collected (isNumber key isChecked)
        rw [read.readNumber_eq _ given, if_neg (not_le.mpr positive)] at here
        cases checked : checkAwg2Number mtu key number with
        | error error =>
            rw [checked] at here
            cases here
        | ok _ => exact absurd checked refused

theorem numbers_violation
    (failed : collect (readNumber (checkAwg2Number mtu) obf) awg2NumberKeys = .error text) :
    NumericViolation params mtu text := by
  obtain ⟨key, isNumber, here⟩ := collect_error failed
  obtain ⟨number, given⟩ := read.exists_number (List.mem_append_left headerKeys isNumber)
  rw [read.readNumber_eq _ given] at here
  split at here
  · cases here
  · rename_i positive
    cases checked : checkAwg2Number mtu key number with
    | error error =>
        rw [checked] at here
        obtain rfl := Except.error.inj here
        exact .range given (not_le.mp positive) checked
    | ok _ =>
        rw [checked] at here
        cases here

/-- The signatures fail exactly if one is blank. -/
theorem signatures_fail_iff :
    (∃ text, collect (readSignature obf) signatureKeys = .error text) ↔
      HasBlankSignature params := by
  have names : ∀ key ∈ signatureKeys, ∃ row ∈ signatureNames, row.1 = key := by decide
  constructor
  · rintro ⟨text, failed⟩
    obtain ⟨key, isSignature, here⟩ := collect_error failed
    obtain ⟨⟨_, paramKey⟩, named, rfl⟩ := names key isSignature
    rw [read.readSignature_eq named] at here
    cases stored : params.get? paramKey with
    | none =>
        rw [stored] at here
        cases here
    | some raw =>
        rw [stored] at here
        dsimp only at here
        split at here
        · rename_i blank
          exact ⟨_, paramKey, raw, named, stored, blank⟩
        · cases here
  · rintro ⟨key, paramKey, raw, named, stored, blank⟩
    cases collected : collect (readSignature obf) signatureKeys with
    | error text => exact ⟨text, rfl⟩
    | ok found =>
        obtain ⟨present, here⟩ := collect_reads collected (signature_apart _ named).1
        rw [read.readSignature_eq named, stored] at here
        dsimp only at here
        rw [if_pos blank] at here
        cases here

theorem signature_error (failed : collect (readSignature obf) signatureKeys = .error text) :
    ∃ key, text = key ++ " must be non-empty string" := by
  have names : ∀ key ∈ signatureKeys, ∃ row ∈ signatureNames, row.1 = key := by decide
  obtain ⟨key, isSignature, here⟩ := collect_error failed
  obtain ⟨⟨_, paramKey⟩, named, rfl⟩ := names key isSignature
  rw [read.readSignature_eq named] at here
  split at here
  · cases here
  · split at here
    · exact ⟨_, (Except.error.inj here).symm⟩
    · cases here

theorem given_of_header (isHeader : key ∈ headerKeys) {range : HeaderRange}
    (readHeader : readHeader obf key = .ok (some range)) :
    IsNumberOf params key range.low ∧ range.high = range.low := by
  obtain ⟨value, given⟩ := read.exists_number (List.mem_append_right awg2NumberKeys isHeader)
  rw [read.readHeader_eq given] at readHeader
  split at readHeader
  · cases readHeader
  · split at readHeader
    · cases readHeader
    · obtain rfl := Option.some.inj (Except.ok.inj readHeader)
      exact ⟨given, rfl⟩

theorem headers_violation (failed : collect (readHeader obf) headerKeys = .error text) :
    NumericViolation params mtu text := by
  obtain ⟨key, isHeader, here⟩ := collect_error failed
  obtain ⟨number, given⟩ := read.exists_number (List.mem_append_right awg2NumberKeys isHeader)
  rw [read.readHeader_eq given] at here
  split at here
  · cases here
  · split at here
    · rename_i above
      obtain rfl := Except.error.inj here
      exact .header isHeader given above
    · cases here

theorem overlap_violation {headers : List (String × HeaderRange)}
    (collected : collect (readHeader obf) headerKeys = .ok headers)
    (failed : checkOverlaps headers = .error text) : NumericViolation params mtu text := by
  obtain ⟨before, header, rest, other, rfl, later, overlapping, rfl⟩ := checkOverlaps_error failed
  have member {entry : String × HeaderRange} (listed : entry ∈ before ++ header :: rest) :=
    (mem_collect collected entry.1 entry.2).mp listed
  obtain ⟨isHeader, readHere⟩ := member (List.mem_append_right before List.mem_cons_self)
  obtain ⟨otherHeader, readOther⟩ :=
    member (List.mem_append_right before (List.mem_cons_of_mem header later))
  have distinct : ((before ++ header :: rest).map Prod.fst).Nodup :=
    (collect_keys collected).nodup (by decide)
  have different : header.1 ≠ other.1 := by
    rw [List.map_append, List.map_cons] at distinct
    intro same
    have tail := List.nodup_cons.mp (List.nodup_append.mp distinct).2.1
    exact tail.1 (same ▸ List.mem_map_of_mem (f := Prod.fst) later)
  obtain ⟨given, single⟩ := read.given_of_header isHeader readHere
  obtain ⟨alsoGiven, alsoSingle⟩ := read.given_of_header otherHeader readOther
  have equal : header.2.low = other.2.low := by
    have common := of_decide_eq_true overlapping
    omega
  exact .overlap isHeader otherHeader different given (equal ▸ alsoGiven)

/-- What the AWG 2.0 profile refuses beyond a blank signature is a number. -/
theorem awg2_refusal (failed : normalizeObfuscationAwg2 obf mtu = .error text) :
    NumericViolation params mtu text ∨ HasBlankSignature params := by
  rcases bind_eq_error.mp failed with keys | ⟨_, -, step⟩
  · rw [read.numbers_known] at keys
    cases keys
  rcases bind_eq_error.mp step with numbers | ⟨numbers, readNumbers, step⟩
  · exact .inl (read.numbers_violation numbers)
  have given {key : String} {number : Int} (listed : (key, number) ∈ numbers) :
      IsNumberOf params key number := by
    obtain ⟨isNumber, here⟩ := (mem_collect readNumbers key number).mp listed
    exact read.given_of_read isNumber here
  rcases bind_eq_error.mp step with signatures | ⟨_, -, step⟩
  · exact .inr (read.signatures_fail_iff.mp ⟨text, signatures⟩)
  rcases bind_eq_error.mp step with headers | ⟨headers, readHeaders, step⟩
  · exact .inl (read.headers_violation headers)
  rcases bind_eq_error.mp step with overlapping | ⟨_, -, step⟩
  · exact .inl (read.overlap_violation readHeaders overlapping)
  rcases bind_eq_error.mp step with sums | ⟨_, -, step⟩
  · obtain ⟨s1, s2, first, second, same, rfl⟩ := validateS1S2_error sums
    exact .inl (.sums (given first) (given second) same)
  rcases bind_eq_error.mp step with ordering | ⟨_, -, done⟩
  · obtain ⟨jmin, jmax, first, second, reversed, rfl⟩ := validateJminJmax_error ordering
    exact .inl (.ordering (given first) (given second) reversed)
  cases done

end ReadFrom

end Refusals

/-! ### Texts of errors -/

section Texts

variable {params : RequestParams} {mtu : Option Int} {text : String}

theorem not_mem_append {char : Char} {left right : String} (inLeft : char ∉ left.toList)
    (inRight : char ∉ right.toList) : char ∉ (left ++ right).toList := by
  rw [String.toList_append, List.mem_append, not_or]
  exact ⟨inLeft, inRight⟩

theorem y_not_mem_number (number : Int) : 'y' ∉ (toString number).toList :=
  fun member => absurd (isIntegerChar_of_mem member) (by decide)

/-- No text about a number has the letter y; those about blank signatures and about unsupported
keys have it. -/
theorem NumericViolation.no_y (violation : NumericViolation params mtu text) :
    'y' ∉ text.toList := by
  have header : ∀ key ∈ headerKeys, 'y' ∉ key.toList := by decide
  cases violation with
  | @range key number _ given positive refused =>
      unfold checkAwg2Number at refused
      dsimp only at refused
      rw [← awg2Mtu] at refused
      split at refused
      · obtain rfl := Except.error.inj refused
        decide
      · split at refused
        · rename_i jumps
          obtain rfl := Except.error.inj refused
          rcases jumps.1 with rfl | rfl
          · decide
          · decide
        · split at refused
          · obtain rfl := Except.error.inj refused
            decide
          · split at refused
            · obtain rfl := Except.error.inj refused
              decide
            · cases refused
  | header isHeader given above =>
      exact not_mem_append (not_mem_append (not_mem_append (not_mem_append (not_mem_append
        (header _ isHeader) (by decide)) (y_not_mem_number _)) (by decide)) (by decide)) (by decide)
  | overlap isHeader otherHeader different given alsoGiven =>
      exact not_mem_append (not_mem_append (not_mem_append (header _ isHeader) (by decide))
        (header _ otherHeader)) (by decide)
  | sums first second same =>
      exact not_mem_append (not_mem_append (not_mem_append (by decide) (y_not_mem_number _))
        (by decide)) (y_not_mem_number _)
  | ordering first second reversed =>
      exact not_mem_append (not_mem_append (not_mem_append (not_mem_append (by decide)
        (y_not_mem_number _)) (by decide)) (y_not_mem_number _)) (by decide)

theorem not_contains_of_not_mem {needle : String} {char : Char} (inNeedle : char ∈ needle.toList)
    (absent : char ∉ text.toList) : contains needle text = false := by
  rw [contains, List.any_eq_false]
  intro suffix isSuffix isPrefix
  have inSuffix := (List.isPrefixOf_iff_prefix.mp isPrefix).subset inNeedle
  exact absent (((List.mem_tails _ _).mp isSuffix).subset inSuffix)

end Texts

/-! ### The law of the profiles -/

section Law

variable {params : RequestParams} {request : ConfigRequest} {obf : Obfuscation} {text : String}

theorem selectAwgProfile_cases (obf : Obfuscation) :
    selectAwgProfile (some obf) = .awg20Asc ∨ selectAwgProfile (some obf) = .awgLegacyOrBasic := by
  unfold selectAwgProfile
  dsimp only
  split
  · exact .inl rfl
  · exact .inr rfl

/-- With valid fields the configuration fails where the parameters are refused. -/
theorem configOf_error_iff (returned : getObfuscationParams params = .ok obf)
    (valid : ValidFields request) {errors : List String} :
    configOf params request = .error (.validation errors) ↔
      ∃ text, errors = [text] ∧
        normalizedObfuscation (selectAwgProfile (some obf)) (some obf) request.mtu =
          .error text := by
  have chosen : selectAwgProfile (some obf) ≠ .wireguardUniversal ∧
      ∀ mtu, effectiveMtu (selectAwgProfile (some obf)) mtu = mtu := by
    rcases selectAwgProfile_cases obf with isAwg2 | isLegacy
    · rw [isAwg2]
      exact ⟨by decide, fun _ => rfl⟩
    · rw [isLegacy]
      exact ⟨by decide, fun _ => rfl⟩
  obtain ⟨lines, keyed⟩ := valid.presharedKey
  have noErrors : fieldErrors (request.interface "1.1.1.1, 1.0.0.1, 8.8.8.8, 8.8.4.4") request.peer
      (selectAwgProfile (some obf)) (some obf) = [] := by
    rw [fieldErrors_obfuscated chosen.1 (by decide : ConfigProfile.awg20Asc ≠ _)]
    exact valid.fields
  have built : configOf params request =
      match buildConfig (request.interface "1.1.1.1, 1.0.0.1, 8.8.8.8, 8.8.4.4") request.peer
          (selectAwgProfile (some obf)) (some obf) with
      | .error errors => .error (.validation errors)
      | .ok text => .ok text := by
    rw [configOf, returned]
    rfl
  rw [built]
  cases normalized : normalizedObfuscation (selectAwgProfile (some obf)) (some obf) request.mtu with
  | error refused =>
      have failed : buildConfig (request.interface "1.1.1.1, 1.0.0.1, 8.8.8.8, 8.8.4.4")
          request.peer (selectAwgProfile (some obf)) (some obf) = .error [refused] := by
        unfold buildConfig
        rw [if_neg (not_not_intro noErrors)]
        dsimp only
        rw [chosen.2, ConfigRequest.interface, normalized]
        rfl
      rw [failed]
      constructor
      · intro same
        exact ⟨refused, by cases same; rfl, rfl⟩
      · rintro ⟨_, rfl, same⟩
        obtain rfl := Except.error.inj same
        rfl
  | ok obfuscation =>
      have succeeds := buildConfig_eq noErrors
        ((congrArg (normalizedObfuscation _ _) (chosen.2 _)).trans normalized) keyed
      rw [succeeds]
      exact iff_of_false (fun same => by cases same) (fun ⟨_, _, same⟩ => by cases same)

theorem normalized_awg2 (read : ReadFrom params obf) (asks : AsksForAwg2 params)
    (mtu : Option Int) :
    normalizedObfuscation (selectAwgProfile (some obf)) (some obf) mtu =
      normalizeObfuscationAwg2 obf mtu := by
  rw [read.select_iff.mpr asks]
  simp only [normalizedObfuscation, read.present]
  rfl

/-- The legacy profile does not take S3. -/
theorem normalized_legacy (read : ReadFrom params obf) (legacy : ¬ AsksForAwg2 params)
    (mtu : Option Int) :
    ∃ key, normalizedObfuscation (selectAwgProfile (some obf)) (some obf) mtu =
      .error ("unsupported_key:" ++ key) := by
  have chosen : selectAwgProfile (some obf) = .awgLegacyOrBasic :=
    (selectAwgProfile_cases obf).resolve_left (mt read.select_iff.mp legacy)
  have some : params.entries.isEmpty = false := by
    by_contra isEmpty
    rw [Bool.not_eq_false, List.isEmpty_iff] at isEmpty
    exact legacy (.inl ⟨"H1", by decide, defaultH1,
      ⟨"amnezia_h1", defaultH1, by decide, intParam_absent isEmpty _ _⟩, by decide⟩)
  obtain ⟨number, spare⟩ := read.spare some
  have refused : ∃ key, checkKeys isLegacyEntry obf = .error ("unsupported_key:" ++ key) := by
    cases checked : checkKeys isLegacyEntry obf with
    | ok _ =>
        have taken := checkKeys_ok.mp checked _ spare
        simp [isLegacyEntry, awgLegacyKeys, headerKeys] at taken
    | error error =>
        unfold checkKeys at checked
        split at checked
        · rename_i entry _
          exact ⟨entry.1, congrArg Except.error (Except.error.inj checked).symm⟩
        · cases checked
  obtain ⟨key, failed⟩ := refused
  refine ⟨key, ?_⟩
  rw [chosen]
  simp only [normalizedObfuscation, read.present, Bool.false_eq_true, if_false]
  rw [normalizeObfuscationLegacy, failed]
  rfl

theorem awg2_numbers_error (read : ReadFrom params obf) {mtu : Option Int}
    (failed : collect (readNumber (checkAwg2Number mtu) obf) awg2NumberKeys = .error text) :
    normalizeObfuscationAwg2 obf mtu = .error text := by
  rw [awg2NumberKeys] at failed
  rw [normalizeObfuscationAwg2, read.numbers_known, failed]
  rfl

/-- A blank signature is refused if the numbers are in range. -/
theorem awg2_signature_error (read : ReadFrom params obf) {mtu : Option Int}
    (inRange : ¬ HasNumberOutOfRange params mtu) (blank : HasBlankSignature params) :
    ∃ key, normalizeObfuscationAwg2 obf mtu = .error (key ++ " must be non-empty string") := by
  cases collected : collect (readNumber (checkAwg2Number mtu) obf) awg2NumberKeys with
  | error text => exact absurd (read.numbers_fail_iff.mp ⟨text, collected⟩) inRange
  | ok numbers =>
      obtain ⟨text, failed⟩ := read.signatures_fail_iff.mpr blank
      obtain ⟨key, rfl⟩ := read.signature_error failed
      refine ⟨key, ?_⟩
      rw [awg2NumberKeys] at collected
      rw [normalizeObfuscationAwg2, read.numbers_known, collected, failed]
      rfl

/-! ### Without a signature -/

theorem get?_erase_signature {key paramKey : String} (named : (key, paramKey) ∈ signatureNames)
    {name otherKey : String} {default : Int} (row : (name, otherKey, default) ∈ numberParams) :
    (params.erase paramKey).get? otherKey = params.get? otherKey := by
  have apart : ∀ names ∈ signatureNames, ∀ row ∈ numberParams, row.2.1 ≠ names.2 := by decide
  rw [Dict.get?_erase, if_neg (apart _ named _ row)]

theorem intParam_erase {key paramKey : String} (named : (key, paramKey) ∈ signatureNames)
    {name otherKey : String} {default : Int} (row : (name, otherKey, default) ∈ numberParams) :
    intParam (params.erase paramKey) otherKey default = intParam params otherKey default := by
  rw [intParam, intParam, get?_erase_signature named row]

theorem isNumberOf_erase {key paramKey : String} (named : (key, paramKey) ∈ signatureNames)
    {name : String} {number : Int} :
    IsNumberOf (params.erase paramKey) name number ↔ IsNumberOf params name number := by
  constructor
  · rintro ⟨otherKey, default, row, read⟩
    exact ⟨otherKey, default, row, by rw [← intParam_erase named row]; exact read⟩
  · rintro ⟨otherKey, default, row, read⟩
    exact ⟨otherKey, default, row, by rw [intParam_erase named row]; exact read⟩

/-- A blank signature does not ask for the AWG 2.0 profile. -/
theorem asksForAwg2_erase {key paramKey : String} {raw : Json}
    (named : (key, paramKey) ∈ signatureNames) (stored : params.get? paramKey = some raw)
    (blank : isBlankSignature raw = true) (asks : AsksForAwg2 params) :
    AsksForAwg2 (params.erase paramKey) := by
  rcases asks with ⟨name, isName, number, given, positive⟩ |
    ⟨name, otherKey, other, otherNamed, otherStored, visible⟩
  · exact .inl ⟨name, isName, number, (isNumberOf_erase named).mpr given, positive⟩
  · refine .inr ⟨name, otherKey, other, otherNamed, ?_, visible⟩
    rw [Dict.get?_erase, if_neg ?_]
    · exact otherStored
    · rintro rfl
      obtain rfl := Option.some.inj (stored.symm.trans otherStored)
      rw [blank] at visible
      cases visible

/-- Where a number is out of range, a blank signature makes no difference. -/
theorem configOf_erase (returned : getObfuscationParams params = .ok obf)
    (valid : ValidFields request) (asks : AsksForAwg2 params)
    (outOfRange : HasNumberOutOfRange params request.mtu) {key paramKey : String} {raw : Json}
    (named : (key, paramKey) ∈ signatureNames) (stored : params.get? paramKey = some raw)
    (blank : isBlankSignature raw = true) :
    configOf params request = configOf (params.erase paramKey) request := by
  have read := getObfuscationParams_reads returned
  obtain ⟨other, otherReturned⟩ := @getObfuscationParams_returns (params.erase paramKey)
    (by
      intro name otherKey default row
      obtain ⟨number, given, -⟩ := read.number name otherKey default row
      exact ⟨number, by rw [intParam_erase named row]; exact given⟩)
    (by
      intro s1 s2 readS1 readS2
      have firstRow : ("S1", "amnezia_s1", defaultS1) ∈ numberParams := by decide
      have secondRow : ("S2", "amnezia_s2", defaultS2) ∈ numberParams := by decide
      rw [intParam_erase named firstRow] at readS1
      rw [intParam_erase named secondRow] at readS2
      exact read.sums s1 s2 readS1 readS2)
  have otherRead := getObfuscationParams_reads otherReturned
  obtain ⟨text, failed⟩ := read.numbers_fail_iff.mpr outOfRange
  have same : collect (readNumber (checkAwg2Number request.mtu) other) awg2NumberKeys =
      .error text := by
    rw [← failed]
    apply collect_congr
    intro name isNumber
    obtain ⟨number, given⟩ := read.exists_number (List.mem_append_left headerKeys isNumber)
    rw [read.readNumber_eq _ given, otherRead.readNumber_eq _ ((isNumberOf_erase named).mpr given)]
  have left := (configOf_error_iff returned valid).mpr
    ⟨text, rfl, (normalized_awg2 read asks _).trans (awg2_numbers_error read failed)⟩
  have right := (configOf_error_iff otherReturned valid).mpr
    ⟨text, rfl, (normalized_awg2 otherRead (asksForAwg2_erase named stored blank asks) _).trans
      (awg2_numbers_error otherRead same)⟩
  exact left.trans right.symm

/-- The chosen profile takes the parameters exactly when they ask for the AWG 2.0 profile, and
have no blank signature or else a number out of range, which is reported first. -/
theorem profileTakesParams_iff (params : RequestParams) (request : ConfigRequest)
    (obf : Obfuscation) (returned : getObfuscationParams params = .ok obf)
    (valid : ValidFields request) :
    ProfileTakesParams params request ↔
      AsksForAwg2 params ∧ (HasBlankSignature params → HasNumberOutOfRange params request.mtu) := by
  have read := getObfuscationParams_reads returned
  constructor
  · intro law
    have asks : AsksForAwg2 params := by
      by_contra legacy
      obtain ⟨key, refused⟩ := normalized_legacy read legacy request.mtu
      have failed := (configOf_error_iff returned valid).mpr ⟨_, rfl, refused⟩
      have absent := law.supported _ failed _ List.mem_cons_self
      have there := contains_append "" "unsupported_key" (":" ++ key)
      rw [String.empty_append, ← String.append_assoc] at there
      exact absurd (there.symm.trans absent) (by decide)
    refine ⟨asks, ?_⟩
    intro blank
    by_contra inRange
    obtain ⟨key, refused⟩ := awg2_signature_error read inRange blank
    have failed := (configOf_error_iff returned valid).mpr
      ⟨_, rfl, (normalized_awg2 read asks _).trans refused⟩
    obtain ⟨text, same, violation⟩ := law.numeric _ failed
    obtain rfl := (List.cons.inj same).1
    refine violation.no_y ?_
    rw [String.toList_append]
    exact List.mem_append_right _ (by decide)
  · rintro ⟨asks, ranged⟩
    have violations {errors : List String}
        (failed : configOf params request = .error (.validation errors)) :
        ∃ text, errors = [text] ∧ NumericViolation params request.mtu text := by
      obtain ⟨text, rfl, refused⟩ := (configOf_error_iff returned valid).mp failed
      rw [normalized_awg2 read asks] at refused
      refine ⟨text, rfl, ?_⟩
      rcases read.awg2_refusal refused with violation | blank
      · exact violation
      · obtain ⟨first, numbers⟩ := read.numbers_fail_iff.mpr (ranged blank)
        obtain rfl := Except.error.inj ((awg2_numbers_error read numbers).symm.trans refused)
        exact read.numbers_violation numbers
    refine ⟨?_, ?_, fun errors failed => violations failed⟩
    · intro errors failed error member
      obtain ⟨text, rfl, violation⟩ := violations failed
      obtain rfl := List.mem_singleton.mp member
      exact not_contains_of_not_mem (by decide : 'y' ∈ "unsupported_key".toList) violation.no_y
    · intro key paramKey raw named stored blank
      exact configOf_erase returned valid asks (ranged ⟨key, paramKey, raw, named, stored, blank⟩)
        named stored blank

end Law

/-! ### Headers that are all zero -/

def sampleConfigRequest : ConfigRequest :=
  { serverPublicKey := "YWFhYWFhYWFhYWFhYWFhYWFhYWFhYWFhYWFhYWFhYWE="
    clientPrivateKey := "YWFhYWFhYWFhYWFhYWFhYWFhYWFhYWFhYWFhYWFhYWE="
    endpoint := some "vpn.example.com:51820"
    allowedIps := "0.0.0.0/0"
    dns := none
    persistentKeepalive := 25
    obfuscation := none
    mtu := none
    address := some "10.8.0.2/32"
    presharedKey := none }

theorem sampleConfigRequest_valid : ValidFields sampleConfigRequest :=
  ⟨by decide +kernel, [], rfl⟩

/-- Default parameters with a signature. -/
theorem signed_params_taken :
    ProfileTakesParams (Dict.ofList [("amnezia_i1", .str "<b 0xc0>")]) sampleConfigRequest := by
  have returned : ∃ obf, getObfuscationParams (Dict.ofList [("amnezia_i1", .str "<b 0xc0>")]) =
      .ok obf := ok_of_isSome (by decide)
  obtain ⟨obf, returned⟩ := returned
  refine (profileTakesParams_iff _ sampleConfigRequest obf returned
    sampleConfigRequest_valid).mpr ⟨?_, ?_⟩
  · exact .inl ⟨"H1", by decide, defaultH1, ⟨"amnezia_h1", defaultH1, by decide, rfl⟩, by decide⟩
  · rintro ⟨key, paramKey, raw, named, stored, blank⟩
    have only : ∀ names ∈ signatureNames, names.2 = "amnezia_i1" ∨
        (Dict.ofList [("amnezia_i1", Json.str "<b 0xc0>")]).get? names.2 = none := by decide
    rcases only _ named with rfl | absent
    · obtain rfl := Option.some.inj stored
      exact absurd blank (by decide)
    · rw [absent] at stored
      cases stored

/-- Headers that are all zero choose the legacy profile, which does not take S3. -/
theorem zero_headers_refused :
    ¬ ProfileTakesParams (Dict.ofList [("amnezia_h1", .int 0), ("amnezia_h2", .int 0),
      ("amnezia_h3", .int 0), ("amnezia_h4", .int 0)]) sampleConfigRequest := by
  intro law
  have returned : ∃ obf, getObfuscationParams (Dict.ofList [("amnezia_h1", .int 0),
      ("amnezia_h2", .int 0), ("amnezia_h3", .int 0), ("amnezia_h4", .int 0)]) = .ok obf :=
    ok_of_isSome (by decide)
  obtain ⟨obf, returned⟩ := returned
  have failed := (configOf_error_iff returned sampleConfigRequest_valid).mpr
    ⟨"unsupported_key:S3", rfl, ?_⟩
  · exact absurd (law.supported _ failed _ List.mem_cons_self) (by decide)
  · obtain rfl := Except.ok.inj returned
    rfl

end VpnSuite.Config
