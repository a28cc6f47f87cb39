/-
The lines of a built configuration.

A configuration that is built has the values the checks return, line by line.  Keys, numbers
and headers are texts without white space and comment marks; the DNS, the endpoint, the
address and `I1` to `I5` are as open as their checks leave them.
-/

import VpnSuite.Config.AmneziaConfig
import VpnSuite.Config.Sanitize
import VpnSuite.Runtime.PeerScript

set_option autoImplicit false

namespace VpnSuite.Config

open Foundations
open Foundations.PythonText

/-! ### Plain values -/

/-- Neither white space nor a comment mark. -/
def isPlainChar (char : Char) : Bool := !isSpace char && !isCommentMark char

def isPlainValue (value : List Char) : Bool := !value.isEmpty && value.all isPlainChar

theorem isPlainValue_iff (value : List Char) :
    isPlainValue value = true ↔
      value ≠ [] ∧ ∀ char ∈ value, isSpace char = false ∧ isCommentMark char = false := by
  simp [isPlainValue, isPlainChar, List.all_eq_true]

theorem plain_unbroken {value : List Char} (plain : isPlainValue value = true) : '\n' ∉ value := by
  intro broken
  exact absurd (((isPlainValue_iff value).mp plain).2 _ broken).1 (by decide)

/-- The characters of keys, numbers and headers. -/
def isTokenChar (char : Char) : Bool :=
  isAsciiAlphanumeric char || char == '+' || char == '/' || char == '=' || char == '-'

theorem token_code {char : Char} (token : isTokenChar char = true) :
    43 ≤ char.toNat ∧ char.toNat ≤ 122 := by
  simp only [isTokenChar, isAsciiAlphanumeric, Bool.or_eq_true, Bool.and_eq_true,
    decide_eq_true_eq, beq_iff_eq, Char.le_def, UInt32.le_iff_toNat_le] at token
  obtain (((((⟨least, greatest⟩ | ⟨least, greatest⟩) | ⟨least, greatest⟩) | rfl) | rfl) | rfl) | rfl :=
    token
  · exact ⟨le_trans (by decide) least, le_trans greatest (by decide)⟩
  · exact ⟨le_trans (by decide) least, le_trans greatest (by decide)⟩
  · exact ⟨le_trans (by decide) least, le_trans greatest (by decide)⟩
  · decide
  · decide
  · decide
  · decide

theorem isPlainChar_of_token (char : Char) (token : isTokenChar char = true) :
    isPlainChar char = true := by
  obtain ⟨low, high⟩ := token_code token
  have noSpace : isSpace char = false := by
    unfold isSpace
    dsimp only
    simp only [Bool.or_eq_false_iff, Bool.and_eq_false_iff, decide_eq_false_iff_not,
      beq_eq_false_iff_ne]
    omega
  have noMark : isCommentMark char = false := by
    rw [isCommentMark, Bool.or_eq_false_iff, beq_eq_false_iff_ne, beq_eq_false_iff_ne]
    constructor
    · rintro rfl
      exact absurd token (by decide)
    · rintro rfl
      exact absurd token (by decide)
  rw [isPlainChar, noSpace, noMark]
  rfl

theorem isPlainValue_of_tokens {value : List Char} (nonempty : value ≠ [])
    (tokens : ∀ char ∈ value, isTokenChar char = true) : isPlainValue value = true := by
  rw [isPlainValue, Bool.and_eq_true, Bool.not_eq_true', List.isEmpty_eq_false_iff]
  exact ⟨nonempty, List.all_eq_true.mpr (fun char member =>
    isPlainChar_of_token char (tokens char member))⟩

/-! ### Numbers and headers -/

theorem digit_token {char : Char} (digit : char.isDigit = true) : isTokenChar char = true := by
  simp only [Char.isDigit, Bool.and_eq_true, decide_eq_true_eq] at digit
  simp only [isTokenChar, isAsciiAlphanumeric, Bool.or_eq_true, Bool.and_eq_true,
    decide_eq_true_eq, Char.le_def]
  exact Or.inl (Or.inl (Or.inl (Or.inl (Or.inr digit))))

theorem toString_tokens (number : Int) :
    (toString number).toList ≠ [] ∧ ∀ char ∈ (toString number).toList, isTokenChar char = true := by
  rw [Int.toString_eq_repr, Int.repr_eq_if]
  have digits : ∀ value : Nat, ∀ char ∈ Nat.toDigits 10 value, isTokenChar char = true :=
    fun value char member => digit_token (Nat.isDigit_of_mem_toDigits (by decide) (by decide) member)
  split
  · rw [Nat.repr_eq_ofList_toDigits, String.toList_ofList]
    exact ⟨Nat.toDigits_ne_nil, digits _⟩
  · rw [Nat.repr_eq_ofList_toDigits, String.toList_append]
    refine ⟨by simp, ?_⟩
    intro char member
    obtain sign | digit := List.mem_append.mp member
    · rw [List.mem_singleton.mp sign]
      rfl
    · rw [String.toList_ofList] at digit
      exact digits _ char digit

/-- How a header is written. -/
theorem rendered_tokens {value : Json} {name : String} {range : HeaderRange}
    (parsed : parseHValue value name = .ok range) :
    range.rendered.toList ≠ [] ∧ ∀ char ∈ range.rendered.toList, isTokenChar char = true := by
  unfold parseHValue at parsed
  dsimp only at parsed
  split at parsed
  · rename_i number
    obtain rfl := Except.ok.inj parsed
    exact toString_tokens number
  · rename_i text
    split at parsed
    · obtain ⟨number, _, isRange⟩ := bind_eq_ok.mp parsed
      obtain rfl := Except.ok.inj isRange
      exact toString_tokens number
    · split at parsed
      · split at parsed
        · obtain ⟨low, _, rest⟩ := bind_eq_ok.mp parsed
          obtain ⟨high, _, isRange⟩ := bind_eq_ok.mp rest
          obtain rfl := Except.ok.inj isRange
          have first := toString_tokens low
          have second := toString_tokens high
          dsimp only
          rw [String.toList_append, String.toList_append]
          refine ⟨by simp, ?_⟩
          intro char member
          obtain before | last := List.mem_append.mp member
          · obtain start | dash := List.mem_append.mp before
            · exact first.2 char start
            · rw [List.mem_singleton.mp dash]
              rfl
          · exact second.2 char last
        · cases parsed
      · cases parsed
  · cases parsed

/-! ### Checked fields -/

theorem validateKeyB64_ok {key name text : String} (checked : validateKeyB64 key name = .ok text) :
    text = strip key ∧ text.toList ≠ [] ∧ ∀ char ∈ text.toList, isTokenChar char = true := by
  unfold validateKeyB64 at checked
  dsimp only at checked
  split at checked
  · cases checked
  · split at checked
    · cases checked
    · split at checked
      · cases checked
      · rename_i shaped
        rw [not_or] at shaped
        split at checked
        · cases checked
        · split at checked
          · obtain rfl := Except.ok.inj checked
            have whole : (stripChars key.toList).takeWhile isBase64Char ++
                (stripChars key.toList).dropWhile isBase64Char = stripChars key.toList :=
              List.takeWhile_append_dropWhile
            rw [String.toList_ofList]
            refine ⟨rfl, ?_, ?_⟩
            · intro empty
              rw [empty] at shaped
              exact shaped.1 rfl
            · intro char member
              rw [← whole] at member
              obtain inData | inPadding := List.mem_append.mp member
              · have base64 := List.mem_takeWhile_imp inData
                simp only [isBase64Char, Bool.or_eq_true] at base64
                simp only [isTokenChar, Bool.or_eq_true]
                exact Or.inl (Or.inl base64)
              · have padded := shaped.2
                rw [Bool.not_eq_true, List.any_eq_false] at padded
                have isPadding : char = '=' := by simpa using padded char inPadding
                subst isPadding
                rfl
          · cases checked

theorem validateAddress_ok {address text : String} (checked : validateAddress address = .ok text) :
    text = strip address ∧ text ≠ "" := by
  unfold validateAddress at checked
  split at checked
  · cases checked
  · rename_i visible
    split at checked
    · cases checked
    · split at checked
      · obtain rfl := Except.ok.inj checked
        exact ⟨rfl, visible⟩
      · cases checked

theorem validateEndpoint_ok {endpoint text : String}
    (checked : validateEndpoint endpoint = .ok text) : text = strip endpoint ∧ text ≠ "" := by
  unfold validateEndpoint at checked
  split at checked
  · cases checked
  · rename_i visible
    split at checked
    · cases checked
    · split at checked
      · cases checked
      · split at checked
        · obtain rfl := Except.ok.inj checked
          exact ⟨rfl, visible⟩
        · cases checked

/-! ### Normalised parameters -/

section Normalised

variable {α : Type} {value : String → Except String (Option α)} {keys : List String}
  {found : List (String × α)}

theorem mem_collect (collected : collect value keys = .ok found) (key : String) (present : α) :
    (key, present) ∈ found ↔ key ∈ keys ∧ value key = .ok (some present) := by
  induction keys generalizing found with
  | nil =>
      obtain rfl := Except.ok.inj collected
      simp
  | cons first rest ih =>
      obtain ⟨atFirst, read, more⟩ := bind_eq_ok.mp collected
      obtain ⟨others, readRest, whole⟩ := bind_eq_ok.mp more
      obtain rfl := Except.ok.inj whole
      have later := ih readRest
      cases atFirst with
      | none =>
          dsimp only
          rw [later, List.mem_cons]
          constructor
          · exact fun there => ⟨Or.inr there.1, there.2⟩
          · rintro ⟨rfl | inRest, there⟩
            · rw [read] at there
              cases there
            · exact ⟨inRest, there⟩
      | some firstValue =>
          dsimp only
          rw [List.mem_cons, later, List.mem_cons, Prod.mk.injEq]
          constructor
          · rintro (⟨rfl, rfl⟩ | there)
            · exact ⟨Or.inl rfl, read⟩
            · exact ⟨Or.inr there.1, there.2⟩
          · rintro ⟨rfl | inRest, there⟩
            · rw [read] at there
              exact Or.inl ⟨rfl, (Option.some.inj (Except.ok.inj there)).symm⟩
            · exact Or.inr ⟨inRest, there⟩

theorem collect_reads (collected : collect value keys = .ok found) {key : String}
    (member : key ∈ keys) : ∃ present, value key = .ok present := by
  induction keys generalizing found with
  | nil => cases member
  | cons first rest ih =>
      obtain ⟨atFirst, read, more⟩ := bind_eq_ok.mp collected
      obtain ⟨others, readRest, _⟩ := bind_eq_ok.mp more
      cases member with
      | head => exact ⟨atFirst, read⟩
      | tail _ inRest => exact ih readRest inRest

/-- What fails is one of the keys. -/
theorem collect_error {error : String} (failed : collect value keys = .error error) :
    ∃ key ∈ keys, value key = .error error := by
  induction keys with
  | nil => cases failed
  | cons first rest ih =>
      rcases bind_eq_error.mp failed with here | ⟨_, -, more⟩
      · exact ⟨first, List.mem_cons_self, here⟩
      · rcases bind_eq_error.mp more with later | ⟨_, -, done⟩
        · obtain ⟨key, member, there⟩ := ih later
          exact ⟨key, List.mem_cons_of_mem first member, there⟩
        · cases done

/-- What can be read for each key is collected. -/
theorem collect_of_reads (reads : ∀ key ∈ keys, ∃ present, value key = .ok present) :
    ∃ found, collect value keys = .ok found := by
  induction keys with
  | nil => exact ⟨[], rfl⟩
  | cons first rest ih =>
      obtain ⟨present, read⟩ := reads first List.mem_cons_self
      obtain ⟨found, collected⟩ := ih (fun key member => reads key (List.mem_cons_of_mem first member))
      rw [collect, read, collected]
      exact ⟨_, rfl⟩

theorem collect_all {entry : String → α} (reads : ∀ key ∈ keys, value key = .ok (some (entry key))) :
    collect value keys = .ok (keys.map (fun key => (key, entry key))) := by
  induction keys with
  | nil => rfl
  | cons first rest ih =>
      rw [collect, reads first List.mem_cons_self,
        ih (fun key member => reads key (List.mem_cons_of_mem first member))]
      rfl

theorem collect_keys (collected : collect value keys = .ok found) :
    (found.map Prod.fst).Sublist keys := by
  induction keys generalizing found with
  | nil =>
      obtain rfl := Except.ok.inj collected
      exact List.Sublist.slnil
  | cons first rest ih =>
      obtain ⟨atFirst, _, more⟩ := bind_eq_ok.mp collected
      obtain ⟨others, readRest, whole⟩ := bind_eq_ok.mp more
      obtain rfl := Except.ok.inj whole
      cases atFirst with
      | none => exact (ih readRest).cons first
      | some firstValue => exact (ih readRest).cons_cons first

end Normalised

/-- The three kinds of entries of a normalised dict. -/
theorem get?_normalised {numbers : List (String × Int)} {signatures headers : List (String × String)}
    {numberKeys : List String} (numbered : (numbers.map Prod.fst).Sublist numberKeys)
    (signed : (signatures.map Prod.fst).Sublist signatureKeys)
    (headed : (headers.map Prod.fst).Sublist headerKeys)
    (distinct : (numberKeys ++ signatureKeys ++ headerKeys).Nodup) (key : String) (value : Json) :
    (Dict.ofList (numberEntries numbers ++ textEntries signatures ++ textEntries headers)).get? key =
        some value ↔
      (∃ number, (key, number) ∈ numbers ∧ value = .int number) ∨
        (∃ text, (key, text) ∈ signatures ∧ value = .str text) ∨
        ∃ text, (key, text) ∈ headers ∧ value = .str text := by
  have numberNames : (numberEntries numbers).map Prod.fst = numbers.map Prod.fst := by
    rw [numberEntries, List.map_map]
    rfl
  have textNames : ∀ texts, (textEntries texts).map Prod.fst = texts.map Prod.fst := by
    intro texts
    rw [textEntries, List.map_map]
    rfl
  rw [Dict.get?_ofList_iff]
  · simp only [List.mem_append, numberEntries, textEntries, List.mem_map, Prod.mk.injEq, Prod.exists]
    constructor
    · rintro ((⟨name, number, there, rfl, rfl⟩ | ⟨name, text, there, rfl, rfl⟩) |
        ⟨name, text, there, rfl, rfl⟩)
      · exact Or.inl ⟨number, there, rfl⟩
      · exact Or.inr (Or.inl ⟨text, there, rfl⟩)
      · exact Or.inr (Or.inr ⟨text, there, rfl⟩)
    · rintro (⟨number, there, rfl⟩ | ⟨text, there, rfl⟩ | ⟨text, there, rfl⟩)
      · exact Or.inl (Or.inl ⟨key, number, there, rfl, rfl⟩)
      · exact Or.inl (Or.inr ⟨key, text, there, rfl, rfl⟩)
      · exact Or.inr ⟨key, text, there, rfl, rfl⟩
  · rw [List.map_append, List.map_append, numberNames, textNames, textNames]
    exact ((numbered.append signed).append headed).nodup distinct

theorem readSignature_ok {obf : Obfuscation} {key text : String} :
    readSignature obf key = .ok (some text) ↔
      ∃ raw, setValue obf key = some (.str raw) ∧ strip raw ≠ "" ∧ text = strip raw := by
  unfold readSignature
  cases stored : setValue obf key with
  | none => simp
  | some value =>
      cases value with
      | str raw =>
          by_cases blank : strip raw = ""
          · simp [blank]
          · dsimp only
            rw [if_neg blank]
            constructor
            · intro read
              exact ⟨raw, rfl, blank, (Option.some.inj (Except.ok.inj read)).symm⟩
            · rintro ⟨_, ⟨⟩, _, rfl⟩
              rfl
      | _ => simp

/-- What a normalised dict has: plain values, and the signatures as they were given. -/
structure NormalisedFrom (source result : Obfuscation) : Prop where
  entries : ∀ key value, result.get? key = some value →
    isPlainValue value.toText.toList = true ∨
      key ∈ signatureKeys ∧ ∃ raw, setValue source key = some (.str raw) ∧ strip raw ≠ "" ∧
        value = .str (strip raw)
  signatures : ∀ key ∈ signatureKeys, ∀ raw, setValue source key = some (.str raw) →
    result.get? key = some (.str (strip raw))

theorem normalisedFrom_collected {source : Obfuscation} {numberKeys : List String}
    {check : String → Int → Except String Unit} {numbers : List (String × Int)}
    {signatures headers : List (String × String)}
    (readNumbers : collect (readNumber check source) numberKeys = .ok numbers)
    (readSignatures : collect (readSignature source) signatureKeys = .ok signatures)
    (headed : (headers.map Prod.fst).Sublist headerKeys)
    (plain : ∀ key text, (key, text) ∈ headers → isPlainValue text.toList = true)
    (distinct : (numberKeys ++ signatureKeys ++ headerKeys).Nodup) :
    NormalisedFrom source
      (Dict.ofList (numberEntries numbers ++ textEntries signatures ++ textEntries headers)) := by
  have stored := get?_normalised (collect_keys readNumbers) (collect_keys readSignatures) headed
    distinct
  refine ⟨?_, ?_⟩
  · intro key value present
    obtain ⟨number, _, rfl⟩ | ⟨text, there, rfl⟩ | ⟨text, there, rfl⟩ := (stored key value).mp present
    · have tokens := toString_tokens number
      exact Or.inl (isPlainValue_of_tokens tokens.1 tokens.2)
    · obtain ⟨isSignature, read⟩ := (mem_collect readSignatures key text).mp there
      obtain ⟨raw, isSet, visible, rfl⟩ := readSignature_ok.mp read
      exact Or.inr ⟨isSignature, raw, isSet, visible, rfl⟩
    · exact Or.inl (plain key text there)
  · intro key isSignature raw isSet
    have visible : strip raw ≠ "" := by
      obtain ⟨present, read⟩ := collect_reads readSignatures isSignature
      intro blank
      simp only [readSignature, isSet, blank, if_true] at read
      cases read
    have read : readSignature source key = .ok (some (strip raw)) :=
      readSignature_ok.mpr ⟨raw, isSet, visible, rfl⟩
    exact (stored key _).mpr (Or.inr (Or.inl ⟨strip raw,
      (mem_collect readSignatures key _).mpr ⟨isSignature, read⟩, rfl⟩))

theorem normalizeObfuscationLegacy_ok {source result : Obfuscation}
    (normalized : normalizeObfuscationLegacy source = .ok result) : NormalisedFrom source result := by
  obtain ⟨_, _, step⟩ := bind_eq_ok.mp normalized
  obtain ⟨numbers, readNumbers, step⟩ := bind_eq_ok.mp step
  obtain ⟨signatures, readSignatures, step⟩ := bind_eq_ok.mp step
  obtain ⟨_, _, step⟩ := bind_eq_ok.mp step
  obtain ⟨_, _, step⟩ := bind_eq_ok.mp step
  obtain rfl := Except.ok.inj step
  have noHeaders : (([] : List (String × String)).map Prod.fst).Sublist headerKeys :=
    List.nil_sublist headerKeys
  have collected := normalisedFrom_collected readNumbers readSignatures noHeaders
    (fun _ _ member => absurd member List.not_mem_nil) (by decide)
  rwa [← List.append_nil (numberEntries numbers ++ textEntries signatures)]

theorem readHeader_ok {source : Obfuscation} {key : String} {range : HeaderRange}
    (read : readHeader source key = .ok (some range)) : isPlainValue range.rendered.toList = true := by
  unfold readHeader at read
  split at read
  · cases read
  · obtain ⟨parsedRange, parsed, rest⟩ := bind_eq_ok.mp read
    have tokens := rendered_tokens parsed
    split at rest
    · cases rest
    · split at rest
      · cases rest
      · split at rest
        · cases rest
        · obtain rfl := Option.some.inj (Except.ok.inj rest)
          exact isPlainValue_of_tokens tokens.1 tokens.2

theorem normalizeObfuscationAwg2_ok {source result : Obfuscation} {mtu : Option Int}
    (normalized : normalizeObfuscationAwg2 source mtu = .ok result) :
    NormalisedFrom source result := by
  obtain ⟨_, _, step⟩ := bind_eq_ok.mp normalized
  obtain ⟨numbers, readNumbers, step⟩ := bind_eq_ok.mp step
  obtain ⟨signatures, readSignatures, step⟩ := bind_eq_ok.mp step
  obtain ⟨headers, readHeaders, step⟩ := bind_eq_ok.mp step
  obtain ⟨_, _, step⟩ := bind_eq_ok.mp step
  obtain ⟨_, _, step⟩ := bind_eq_ok.mp step
  obtain ⟨_, _, step⟩ := bind_eq_ok.mp step
  obtain rfl := Except.ok.inj step
  refine normalisedFrom_collected readNumbers readSignatures ?_ ?_ (by decide)
  · rw [List.map_map]
    exact collect_keys readHeaders
  · intro key text member
    obtain ⟨header, there, isHeader⟩ := List.mem_map.mp member
    obtain ⟨rfl, rfl⟩ := Prod.mk.inj isHeader
    exact readHeader_ok ((mem_collect readHeaders header.1 header.2).mp there).2

theorem setValue_of_isEmpty {source : Obfuscation} (empty : source.entries.isEmpty = true)
    (key : String) : setValue source key = none := by
  have absent : source.get? key = none := by
    rw [Dict.get?, List.isEmpty_iff.mp empty]
    rfl
  rw [setValue, absent]

theorem normalisedFrom_empty {source : Obfuscation} (empty : source.entries.isEmpty = true) :
    NormalisedFrom source Dict.empty := by
  refine ⟨?_, ?_⟩
  · intro key value present
    rw [Dict.get?_empty] at present
    cases present
  · intro key _ raw isSet
    rw [setValue_of_isEmpty empty] at isSet
    cases isSet

/-- Every profile but the universal one keeps the signatures. -/
theorem normalizedObfuscation_ok {profile : ConfigProfile} {source result : Obfuscation}
    {mtu : Option Int} (obfuscated : profile ≠ .wireguardUniversal)
    (normalized : normalizedObfuscation profile (some source) mtu = .ok result) :
    NormalisedFrom source result := by
  cases profile with
  | wireguardUniversal => exact absurd rfl obfuscated
  | awgLegacyOrBasic =>
      simp only [normalizedObfuscation] at normalized
      split at normalized
      · rename_i empty
        obtain rfl := Except.ok.inj normalized
        exact normalisedFrom_empty empty
      · exact normalizeObfuscationLegacy_ok normalized
  | awg20Asc =>
      simp only [normalizedObfuscation] at normalized
      split at normalized
      · rename_i empty
        obtain rfl := Except.ok.inj normalized
        exact normalisedFrom_empty empty
      · exact normalizeObfuscationAwg2_ok normalized
  | mobileOptimized =>
      simp only [normalizedObfuscation] at normalized
      split at normalized
      · rename_i empty
        obtain rfl := Except.ok.inj normalized
        exact normalisedFrom_empty empty
      · exact normalizeObfuscationAwg2_ok normalized

theorem checkKeys_ok {accepts : String × Json → Bool} {obf : Obfuscation} :
    checkKeys accepts obf = .ok () ↔ ∀ entry ∈ obf.entries, accepts entry = true := by
  unfold checkKeys
  cases refused : obf.entries.find? (fun entry => !accepts entry) with
  | none => simpa using List.find?_eq_none.mp refused
  | some entry =>
      have isRefused : ¬ accepts entry = true := by simpa using List.find?_some refused
      exact iff_of_false (fun impossible => by cases impossible)
        (fun all => isRefused (all entry (List.mem_of_find?_eq_some refused)))

/-- What is normalised has known keys and signatures that can be read. -/
theorem normalizedObfuscation_reads {profile : ConfigProfile} {source result : Obfuscation}
    {mtu : Option Int} (obfuscated : profile ≠ .wireguardUniversal)
    (normalized : normalizedObfuscation profile (some source) mtu = .ok result) :
    (∀ entry ∈ source.entries, entry.1 ∈ awgAscKeys) ∧
      ∃ signatures, collect (readSignature source) signatureKeys = .ok signatures := by
  have unset (empty : source.entries.isEmpty = true) :
      (∀ entry ∈ source.entries, entry.1 ∈ awgAscKeys) ∧
        ∃ signatures, collect (readSignature source) signatureKeys = .ok signatures := by
    constructor
    · intro entry member
      rw [List.isEmpty_iff.mp empty] at member
      cases member
    · apply collect_of_reads
      intro key _
      rw [readSignature, setValue_of_isEmpty empty]
      exact ⟨none, rfl⟩
  have ascending (returned : normalizeObfuscationAwg2 source mtu = .ok result) :
      (∀ entry ∈ source.entries, entry.1 ∈ awgAscKeys) ∧
        ∃ signatures, collect (readSignature source) signatureKeys = .ok signatures := by
    obtain ⟨_, checked, step⟩ := bind_eq_ok.mp returned
    obtain ⟨_, _, step⟩ := bind_eq_ok.mp step
    obtain ⟨signatures, collected, _⟩ := bind_eq_ok.mp step
    exact ⟨fun entry member => of_decide_eq_true (checkKeys_ok.mp checked entry member),
      signatures, collected⟩
  cases profile with
  | wireguardUniversal => exact absurd rfl obfuscated
  | awgLegacyOrBasic =>
      simp only [normalizedObfuscation] at normalized
      split at normalized
      · rename_i empty
        exact unset empty
      · obtain ⟨_, checked, step⟩ := bind_eq_ok.mp normalized
        obtain ⟨_, _, step⟩ := bind_eq_ok.mp step
        obtain ⟨signatures, collected, _⟩ := bind_eq_ok.mp step
        refine ⟨?_, signatures, collected⟩
        intro entry member
        have accepted := checkKeys_ok.mp checked entry member
        rw [isLegacyEntry, Bool.or_eq_true, Bool.and_eq_true, decide_eq_true_eq,
          decide_eq_true_eq] at accepted
        have legacy : ∀ key ∈ awgLegacyKeys, key ∈ awgAscKeys := by decide
        have headers : ∀ key ∈ headerKeys, key ∈ awgAscKeys := by decide
        exact accepted.elim (legacy entry.1) (fun both => headers entry.1 both.1)
  | awg20Asc =>
      simp only [normalizedObfuscation] at normalized
      split at normalized
      · rename_i empty
        exact unset empty
      · exact ascending normalized
  | mobileOptimized =>
      simp only [normalizedObfuscation] at normalized
      split at normalized
      · rename_i empty
        exact unset empty
      · exact ascending normalized

/-! ### Settings that sanitising leaves alone -/

theorem settingLine_toList (key value : String) :
    (settingLine key value).toList = key.toList ++ (" = ".toList ++ value.toList) := by
  rw [settingLine, String.toList_append, String.toList_append, List.append_assoc]

/-- The keys of settings: letters and digits. -/
def isSettingKey (key : List Char) : Bool := !key.isEmpty && key.all isAsciiAlphanumeric

theorem alphanumeric_token {char : Char} (member : isAsciiAlphanumeric char = true) :
    isTokenChar char = true := by
  simp [isTokenChar, member]

section Setting

variable {key value : List Char} (named : isSettingKey key = true) (someValue : value ≠ [])
  (unmarked : value.any isCommentMark = false) (trimmed : value.rdropWhile isSpace = value)

include named

include someValue trimmed in
theorem setting_ends :
    (key ++ (" = ".toList ++ value)).dropWhile isSpace = key ++ (" = ".toList ++ value) ∧
      (key ++ (" = ".toList ++ value)).rdropWhile isSpace = key ++ (" = ".toList ++ value) ∧
      stripChars (key ++ (" = ".toList ++ value)) = key ++ (" = ".toList ++ value) := by
  rw [isSettingKey, Bool.and_eq_true, Bool.not_eq_true', List.isEmpty_eq_false_iff] at named
  refine stripChars_of_ends ?_ ?_
  · intro char atHead
    rw [List.head?_append_of_ne_nil _ named.1] at atHead
    have inKey := List.all_eq_true.mp named.2 char (List.mem_of_mem_head? atHead)
    have plainChar := isPlainChar_of_token char (alphanumeric_token inKey)
    rw [isPlainChar, Bool.and_eq_true, Bool.not_eq_true'] at plainChar
    exact plainChar.1
  · intro char atEnd
    rw [List.getLast?_append_of_ne_nil _ (by simp), List.getLast?_append_of_ne_nil _ someValue]
      at atEnd
    exact isSpace_of_trimmed trimmed atEnd

include unmarked in
theorem setting_unmarked : (key ++ (" = ".toList ++ value)).any isCommentMark = false := by
  rw [isSettingKey, Bool.and_eq_true] at named
  have keyUnmarked : key.any isCommentMark = false := by
    rw [List.any_eq_false]
    intro char member
    have token := alphanumeric_token (List.all_eq_true.mp named.2 char member)
    have plainChar := isPlainChar_of_token char token
    rw [isPlainChar, Bool.and_eq_true, Bool.not_eq_true', Bool.not_eq_true'] at plainChar
    simp [plainChar.2]
  rw [List.any_append, List.any_append, keyUnmarked, unmarked]
  rfl

include someValue unmarked trimmed in
/-- A setting with a value that is visible to its end and free of comments is a cleaned line. -/
theorem cleanLine_visible_setting :
    cleanLine (key ++ (" = ".toList ++ value)) = some (key ++ (" = ".toList ++ value)) := by
  obtain ⟨front, back, stripped⟩ := setting_ends named someValue trimmed
  have noMark := setting_unmarked named unmarked
  rw [isSettingKey, Bool.and_eq_true, Bool.not_eq_true', List.isEmpty_eq_false_iff] at named
  have content : withoutComment (key ++ (" = ".toList ++ value)) =
      key ++ (" = ".toList ++ value) := by
    unfold withoutComment
    dsimp only
    rw [back, front, noMark]
    rfl
  obtain ⟨first, rest, isKey⟩ := List.exists_cons_of_ne_nil named.1
  have firstInKey : isAsciiAlphanumeric first = true :=
    List.all_eq_true.mp named.2 first (by rw [isKey]; exact List.mem_cons_self)
  have hasValue : isEmptyKey (key ++ (" = ".toList ++ value)) = false := by
    have keyChars : ∀ char ∈ key, isKeyChar char = true := fun char member => by
      rw [isKeyChar, List.all_eq_true.mp named.2 char member]
      rfl
    unfold isEmptyKey
    dsimp only
    rw [stripped, List.dropWhile_append_of_pos keyChars, Bool.and_eq_false_iff]
    refine Or.inr ?_
    change decide ('=' :: ' ' :: value = ['=']) = false
    simp
  have notHeader : ∀ header : List Char, header.head? = some '[' →
      key ++ (" = ".toList ++ value) ≠ header := by
    rintro _ atHead rfl
    rw [isKey, List.cons_append, List.head?_cons, Option.some.injEq] at atHead
    subst atHead
    exact absurd firstInKey (by decide)
  unfold cleanLine
  dsimp only
  rw [content, isBlankLine, stripped, hasValue, if_neg (by simp [isKey]), if_neg (by simp),
    if_neg (notHeader _ rfl), if_neg (notHeader _ rfl)]

end Setting

/-- A setting with a plain value is a cleaned line. -/
theorem cleanLine_setting {key value : String} (named : isSettingKey key.toList = true)
    (plain : isPlainValue value.toList = true) :
    cleanLine (settingLine key value).toList = some (settingLine key value).toList := by
  obtain ⟨someValue, plainChars⟩ := (isPlainValue_iff value.toList).mp plain
  rw [settingLine_toList]
  refine cleanLine_visible_setting named someValue ?_ ?_
  · exact List.any_eq_false.mpr (fun char member => by simp [(plainChars char member).2])
  · refine List.rdropWhile_eq_self_iff.mpr (fun some => ?_)
    rw [(plainChars _ (List.getLast_mem some)).1]
    exact Bool.false_ne_true

/-! ### The built text -/

theorem errorsOf_eq_nil {α : Type} {checked : Except String α} :
    errorsOf checked = [] ↔ ∃ value, checked = .ok value := by
  cases checked with
  | error error => simp [errorsOf]
  | ok value => simp [errorsOf]

theorem asConfigError_eq_ok {α : Type} {checked : Except String α} {value : α} :
    asConfigError checked = .ok value ↔ checked = .ok value := by
  cases checked with
  | error error => simp [asConfigError]
  | ok value => simp [asConfigError]

theorem presharedKeyLines_ok {key : String} {lines : List String} (given : key ≠ "")
    (keyed : presharedKeyLines (some key) = .ok lines) :
    ∃ text, validateKeyB64 key "PresharedKey" = .ok text ∧
      lines = [settingLine "PresharedKey" text] := by
  have isGiven : (some key).bind orNone = some key := if_neg given
  unfold presharedKeyLines at keyed
  rw [isGiven] at keyed
  dsimp only at keyed
  cases checked : validateKeyB64 key "PresharedKey" with
  | error error =>
      rw [checked] at keyed
      cases keyed
  | ok text =>
      rw [checked] at keyed
      exact ⟨text, rfl, (Except.ok.inj keyed).symm⟩

section Built

variable {interface : InterfaceFields} {peer : PeerFields} {profile : ConfigProfile}
  {obfuscation : Option Obfuscation} {text : String}

/-- The fields of a built configuration have passed their checks. -/
structure FieldsChecked (interface : InterfaceFields) (peer : PeerFields) : Prop where
  privateKey : validateKeyB64 interface.privateKey "PrivateKey" =
    .ok (checkedFields interface peer).privateKey
  address : validateAddress interface.address = .ok (checkedFields interface peer).address
  publicKey : validateKeyB64 peer.publicKey "PublicKey" =
    .ok (checkedFields interface peer).publicKey
  endpoint : validateEndpoint peer.endpoint = .ok (checkedFields interface peer).endpoint
  allowedIps : validateAllowedIps peer.allowedIps = .ok (checkedFields interface peer).allowedIps

theorem eq_ok_textOf {checked : Except String String} (noErrors : errorsOf checked = []) :
    checked = .ok (textOf checked) := by
  obtain ⟨value, rfl⟩ := errorsOf_eq_nil.mp noErrors
  rfl

theorem buildConfig_ok (built : buildConfig interface peer profile obfuscation = .ok text) :
    ∃ obf presharedKey, FieldsChecked interface peer ∧
      normalizedObfuscation profile obfuscation (effectiveMtu profile interface.mtu) = .ok obf ∧
      presharedKeyLines peer.presharedKey = .ok presharedKey ∧
      text = join "\n" (configLines (checkedFields interface peer) (dnsText interface.dns)
        (effectiveMtu profile interface.mtu) obf peer.persistentKeepalive presharedKey) ++ "\n" := by
  unfold buildConfig at built
  split at built
  · cases built
  · rename_i noErrors
    rw [not_not] at noErrors
    obtain ⟨obf, normalized, step⟩ := bind_eq_ok.mp built
    obtain ⟨presharedKey, keyed, step⟩ := bind_eq_ok.mp step
    unfold fieldErrors at noErrors
    simp only [List.append_eq_nil_iff] at noErrors
    obtain ⟨⟨⟨⟨⟨privateKey, address⟩, publicKey⟩, endpoint⟩, allowedIps⟩, _⟩ := noErrors
    exact ⟨obf, presharedKey, ⟨eq_ok_textOf privateKey, eq_ok_textOf address,
      eq_ok_textOf publicKey, eq_ok_textOf endpoint, eq_ok_textOf allowedIps⟩,
      asConfigError_eq_ok.mp normalized, asConfigError_eq_ok.mp keyed, (Except.ok.inj step).symm⟩

/-- The errors of the fields do not depend on the parameters, unless they are not allowed. -/
theorem fieldErrors_obfuscated {other : ConfigProfile} {params : Option Obfuscation}
    (obfuscated : profile ≠ .wireguardUniversal) (otherObfuscated : other ≠ .wireguardUniversal) :
    fieldErrors interface peer profile obfuscation = fieldErrors interface peer other params := by
  simp only [fieldErrors, obfuscated, otherObfuscated, false_and, if_false]

/-- A configuration is built once its fields, its parameters and its key are checked. -/
theorem buildConfig_eq {obf : Obfuscation} {presharedKey : List String}
    (noErrors : fieldErrors interface peer profile obfuscation = [])
    (normalized : normalizedObfuscation profile obfuscation (effectiveMtu profile interface.mtu) =
      .ok obf)
    (keyed : presharedKeyLines peer.presharedKey = .ok presharedKey) :
    buildConfig interface peer profile obfuscation =
      .ok (join "\n" (configLines (checkedFields interface peer) (dnsText interface.dns)
        (effectiveMtu profile interface.mtu) obf peer.persistentKeepalive presharedKey) ++ "\n") := by
  unfold buildConfig
  rw [if_neg (not_not_intro noErrors)]
  simp only [normalized, keyed, asConfigError, bind, Except.bind]

theorem buildConfig_noErrors (built : buildConfig interface peer profile obfuscation = .ok text) :
    fieldErrors interface peer profile obfuscation = [] := by
  unfold buildConfig at built
  split at built
  · cases built
  · rename_i noErrors
    exact not_not.mp noErrors

theorem linesOf_join {lines : List String} (some : lines ≠ []) :
    linesOf (join "\n" lines ++ "\n").toList =
      lines.flatMap (fun line => linesOf line.toList) ++ [[]] := by
  have joined : (join "\n" lines ++ "\n").toList =
      joinLines (lines.map String.toList) ++ '\n' :: [] := by
    rw [String.toList_append, join, String.toList_ofList]
    rfl
  rw [joined, linesOf_append, linesOf_joinLines (by simpa using some), List.flatMap_map]
  rfl

end Built

end VpnSuite.Config
