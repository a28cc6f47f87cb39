/-
The init data of the web app (`validate_telegram_init_data` in `core/security.py`).

The fields are signed as one text, a line `key=value` for each, in the order of the keys.  The
text determines the fields as long as a line is a field and the first `=` of it ends the key.

HMAC-SHA256 and `json.loads` are parameters.
-/

import VpnSuite.Foundations.ByteTexts
import VpnSuite.Foundations.OrderedDict
import VpnSuite.Foundations.QueryString
import VpnSuite.Foundations.TextLines
import Mathlib.Data.List.Sort
import Mathlib.Logic.Equiv.Basic

set_option autoImplicit false

namespace VpnSuite.Access

open Foundations
open Foundations.PythonText
open Foundations.ByteTexts (utf8Bytes)
open Foundations.QueryString (parseQsl)

/-! ### `validate_telegram_init_data` -/

abbrev Fields := Dict String String

def initParams (initData : String) : Fields := Dict.ofList (parseQsl initData)

/-- `params.pop("hash", None)`. -/
def initHash (initData : String) : Option String := (initParams initData).get? "hash"

def initFields (initData : String) : Fields := (initParams initData).erase "hash"

/-- `sorted(params.items())`; the keys are distinct, so that no values are compared. -/
def sortedFields (fields : Fields) : List (String × String) :=
  fields.entries.insertionSort (fun left right => left.1 ≤ right.1)

def fieldLine (field : String × String) : String := field.1 ++ "=" ++ field.2

def dataCheck (fields : Fields) : String := join "\n" ((sortedFields fields).map fieldLine)

def hexChar (digit : Nat) : Char := "0123456789abcdef".toList.getD digit '0'

/-- `hexdigest`. -/
def hexdigest (digest : List UInt8) : String :=
  String.ofList (digest.flatMap (fun byte =>
    [hexChar (byte.toNat / 16), hexChar (byte.toNat % 16)]))

/-- The user, or the fields if there is none. -/
inductive InitAnswer (α : Type) where
  | user (value : α)
  | fields (params : Fields)

section Validation

variable {α : Type} (hmac : List UInt8 → List UInt8 → List UInt8) (loads : String → Option α)

def secretKey (botToken : String) : List UInt8 := hmac (utf8Bytes "WebAppData") (utf8Bytes botToken)

def computedHash (botToken : String) (fields : Fields) : String :=
  hexdigest (hmac (secretKey hmac botToken) (utf8Bytes (dataCheck fields)))

/-- `validate_telegram_init_data`; `loads` has no value where `json.loads` raises or reads
`null`. -/
def validateTelegramInitData (initData botToken : String) : Option (InitAnswer α) :=
  if initData = "" ∨ botToken = "" then none
  else
    match (initHash initData).bind orNone with
    | none => none
    | some receivedHash =>
        if computedHash hmac botToken (initFields initData) = receivedHash then
          match ((initFields initData).get? "user").bind orNone with
          | some user => (loads user).map .user
          | none => some (.fields (initFields initData))
        else none

end Validation

/-! ### The signed text -/

theorem hexChar_injective {left right : Nat} (leftSmall : left < 16) (rightSmall : right < 16)
    (same : hexChar left = hexChar right) : left = right := by
  have all : ∀ first second : Fin 16, hexChar first = hexChar second → first = second := by decide
  exact congrArg Fin.val (all ⟨left, leftSmall⟩ ⟨right, rightSmall⟩ same)

/-- The hexadecimal digits determine the bytes. -/
theorem hexdigest_injective : Function.Injective hexdigest := by
  intro left right same
  replace same := String.ofList_injective same
  induction left generalizing right with
  | nil =>
      cases right with
      | nil => rfl
      | cons byte rest => cases same
  | cons first rest ih =>
      cases right with
      | nil => cases same
      | cons byte others =>
          simp only [List.flatMap_cons, List.cons_append, List.nil_append, List.cons.injEq] at same
          obtain ⟨high, low, later⟩ := same
          have firstByte := first.toNat_lt
          have secondByte := byte.toNat_lt
          have sameHigh := hexChar_injective (by omega) (by omega) high
          have sameLow := hexChar_injective (by omega) (by omega) low
          have sameByte : first = byte := UInt8.toNat_inj.mp (by omega)
          rw [sameByte, ih later]

theorem utf8Bytes_injective : Function.Injective utf8Bytes := by
  intro left right same
  exact String.toByteArray_inj.mp (ByteArray.ext (Array.toList_inj.mp same))

/-- No key holds the end of a key or of a line, and no value the end of a line. -/
def LineWise (fields : Fields) : Prop :=
  ∀ key value, fields.get? key = some value →
    '=' ∉ key.toList ∧ '\n' ∉ key.toList ∧ '\n' ∉ value.toList

theorem mem_sortedFields {fields : Fields} {key value : String} :
    (key, value) ∈ sortedFields fields ↔ fields.get? key = some value := by
  rw [sortedFields, List.mem_insertionSort, fields.mem_entries_iff]

theorem fieldLine_toList (field : String × String) :
    (fieldLine field).toList = field.1.toList ++ '=' :: field.2.toList := by
  rw [fieldLine, String.toList_append, String.toList_append, List.append_assoc]
  rfl

theorem fieldLine_clean {fields : Fields} (lineWise : LineWise fields) {line : List Char}
    (member : line ∈ (sortedFields fields).map (fun field => (fieldLine field).toList)) :
    line ≠ [] ∧ '\n' ∉ line := by
  obtain ⟨⟨key, value⟩, isField, rfl⟩ := List.mem_map.mp member
  obtain ⟨-, keyLine, valueLine⟩ := lineWise key value (mem_sortedFields.mp isField)
  rw [fieldLine_toList]
  refine ⟨by simp, ?_⟩
  rw [List.mem_append, List.mem_cons, not_or, not_or]
  exact ⟨keyLine, by decide, valueLine⟩

theorem dataCheck_toList (fields : Fields) :
    (dataCheck fields).toList =
      joinLines ((sortedFields fields).map (fun field => (fieldLine field).toList)) := by
  rw [dataCheck, join, String.toList_ofList, List.map_map]
  rfl

/-- Fields that are lines are determined by the signed text. -/
theorem fields_of_dataCheck {left right : Fields} (leftLines : LineWise left)
    (rightLines : LineWise right) (same : dataCheck left = dataCheck right) (key : String) :
    left.get? key = right.get? key := by
  have lines := joinLines_inj (fun line => fieldLine_clean leftLines)
    (fun line => fieldLine_clean rightLines)
    (by rw [← dataCheck_toList, ← dataCheck_toList, same])
  -- a field of one is a field of the other: its line is, and the first `=` ends the key
  have included : ∀ {first second : Fields}, LineWise first → LineWise second →
      (sortedFields first).map (fun field => (fieldLine field).toList) =
        (sortedFields second).map (fun field => (fieldLine field).toList) →
      ∀ value, first.get? key = some value → second.get? key = some value := by
    intro first second firstLines secondLines sameLines value stored
    have listed : (fieldLine (key, value)).toList ∈
        (sortedFields second).map (fun field => (fieldLine field).toList) := by
      rw [← sameLines]
      exact List.mem_map.mpr ⟨_, mem_sortedFields.mpr stored, rfl⟩
    obtain ⟨⟨other, found⟩, isField, sameLine⟩ := List.mem_map.mp listed
    have atOther := mem_sortedFields.mp isField
    rw [fieldLine_toList, fieldLine_toList] at sameLine
    obtain ⟨sameKey, sameValue⟩ := separator_inj (secondLines other found atOther).1
      (firstLines key value stored).1 sameLine
    obtain rfl := String.toList_inj.mp sameKey
    obtain rfl := String.toList_inj.mp sameValue
    exact atOther
  refine Option.ext (fun value => ⟨?_, ?_⟩)
  · exact included leftLines rightLines lines value
  · exact included rightLines leftLines lines.symm value

/-! ### Two accepted texts with one hash -/

section TwoRuns

variable {α : Type} {hmac : List UInt8 → List UInt8 → List UInt8} {loads : String → Option α}
  {left right botToken : String}

/-- What is returned once the hash is right. -/
def answerOf (loads : String → Option α) (fields : Fields) : Option (InitAnswer α) :=
  match (fields.get? "user").bind orNone with
  | some user => (loads user).map .user
  | none => some (.fields fields)

/-- The same user, or dictionaries with the same values. -/
def SameAnswer : Option (InitAnswer α) → Option (InitAnswer α) → Prop
  | some (.user first), some (.user second) => first = second
  | some (.fields first), some (.fields second) => ∀ key, first.get? key = second.get? key
  | none, none => True
  | _, _ => False

/-- What is accepted carries the hash of its fields. -/
theorem accepted_spec {initData : String}
    (accepted : (validateTelegramInitData hmac loads initData botToken).isSome = true) :
    initHash initData = some (computedHash hmac botToken (initFields initData)) ∧
      validateTelegramInitData hmac loads initData botToken =
        answerOf loads (initFields initData) := by
  unfold validateTelegramInitData at accepted ⊢
  split at accepted
  · cases accepted
  · rename_i given
    rw [if_neg given]
    cases received : initHash initData with
    | none =>
        rw [received] at accepted
        cases accepted
    | some hash =>
        rw [received, Option.bind_some] at accepted
        rw [Option.bind_some]
        cases visible : orNone hash with
        | none =>
            rw [visible] at accepted
            cases accepted
        | some receivedHash =>
            rw [visible] at accepted
            dsimp only at accepted ⊢
            obtain ⟨same, -⟩ := orNone_eq_some visible
            split at accepted
            · rename_i signed
              rw [if_pos signed, signed, same]
              exact ⟨rfl, rfl⟩
            · cases accepted

theorem sameAnswer_of_fields {first second : Fields}
    (same : ∀ key, first.get? key = second.get? key) :
    SameAnswer (answerOf loads first) (answerOf loads second) := by
  unfold answerOf
  rw [same "user"]
  cases (second.get? "user").bind orNone with
  | none => exact same
  | some user =>
      dsimp only
      cases loads user with
      | none => trivial
      | some value => exact rfl

/-- Two accepted texts with one hash have the same signed text, and the same fields and answer if
the fields of both are lines. -/
theorem same_answer_of_lineWise (collisionFree : ∀ key, Function.Injective (hmac key))
    (leftAccepted : (validateTelegramInitData hmac loads left botToken).isSome = true)
    (rightAccepted : (validateTelegramInitData hmac loads right botToken).isSome = true)
    (sameHash : initHash left = initHash right) :
    dataCheck (initFields left) = dataCheck (initFields right) ∧
      (LineWise (initFields left) → LineWise (initFields right) →
        (∀ key, (initFields left).get? key = (initFields right).get? key) ∧
          SameAnswer (validateTelegramInitData hmac loads left botToken)
            (validateTelegramInitData hmac loads right botToken)) := by
  obtain ⟨leftHash, leftAnswer⟩ := accepted_spec leftAccepted
  obtain ⟨rightHash, rightAnswer⟩ := accepted_spec rightAccepted
  have hashes := Option.some.inj (leftHash.symm.trans (sameHash.trans rightHash))
  have sameText : dataCheck (initFields left) = dataCheck (initFields right) :=
    utf8Bytes_injective (collisionFree _ (hexdigest_injective hashes))
  refine ⟨sameText, ?_⟩
  intro leftLines rightLines
  have same := fields_of_dataCheck leftLines rightLines sameText
  rw [leftAnswer, rightAnswer]
  exact ⟨same, sameAnswer_of_fields same⟩

end TwoRuns

/-! ### Signed texts of a token -/

def sampleToken : String := "123456:TEST"

/-- HMAC-SHA256 of `sampleToken` with the key `WebAppData`. -/
def sampleSecret : List UInt8 :=
  [7, 68, 136, 146, 54, 115, 214, 140, 124, 181, 127, 30, 35, 15, 10, 52, 215, 139, 219, 140, 126,
    209, 42, 227, 193, 241, 227, 137, 99, 162, 133, 111]

/-- HMAC-SHA256 with the key `sampleSecret` of the lines `a=1` and `b=2`. -/
def twoLinesDigest : List UInt8 :=
  [126, 172, 229, 117, 26, 201, 160, 12, 120, 47, 248, 26, 42, 81, 178, 175, 189, 226, 25, 24, 193,
    206, 18, 65, 251, 114, 197, 105, 20, 5, 168, 148]

/-- A collision-free function with these values of HMAC-SHA256. -/
def sampleHmac (key : List UInt8) : List UInt8 → List UInt8 :=
  if key = utf8Bytes "WebAppData" then Equiv.swap (utf8Bytes sampleToken) sampleSecret
  else if key = sampleSecret then Equiv.swap (utf8Bytes "a=1\nb=2") twoLinesDigest
  else id

theorem sampleHmac_injective (key : List UInt8) : Function.Injective (sampleHmac key) := by
  unfold sampleHmac
  split
  · exact Equiv.injective _
  · split
    · exact Equiv.injective _
    · exact Function.injective_id

theorem lineWise_of_entries {fields : Fields}
    (clean : fields.entries.all (fun field => decide ('=' ∉ field.1.toList) &&
      decide ('\n' ∉ field.1.toList) && decide ('\n' ∉ field.2.toList)) = true) :
    LineWise fields := by
  intro key value stored
  have isClean := List.all_eq_true.mp clean _ ((fields.mem_entries_iff key value).mpr stored)
  simpa [and_assoc] using isClean

def noUser (_ : String) : Option Unit := none

/-- The fields `a` and `b`, signed. -/
def twoFields : String := "a=1&b=2&hash=" ++ hexdigest twoLinesDigest

/-- The same fields in another order and spelling. -/
def reorderedFields : String := "hash=" ++ hexdigest twoLinesDigest ++ "&b=%32&a=1"

/-- One field with the text of both. -/
def mergedField : String := "a=1%0Ab%3D2&hash=" ++ hexdigest twoLinesDigest

theorem twoFields_accepted :
    (validateTelegramInitData sampleHmac noUser twoFields sampleToken).isSome = true := by
  decide +kernel

theorem reordered_fields_agree :
    (∀ key, (initFields twoFields).get? key = (initFields reorderedFields).get? key) ∧
      SameAnswer (validateTelegramInitData sampleHmac noUser twoFields sampleToken)
        (validateTelegramInitData sampleHmac noUser reorderedFields sampleToken) := by
  have rightAccepted : (validateTelegramInitData sampleHmac noUser reorderedFields
      sampleToken).isSome = true := by decide +kernel
  have sameHash : initHash twoFields = initHash reorderedFields := by decide +kernel
  exact (same_answer_of_lineWise sampleHmac_injective twoFields_accepted rightAccepted sameHash).2
    (lineWise_of_entries (by decide +kernel)) (lineWise_of_entries (by decide +kernel))

/-- Both texts are accepted with one hash, and their fields differ. -/
theorem merged_field_is_accepted :
    (∀ key, Function.Injective (sampleHmac key)) ∧
      (validateTelegramInitData sampleHmac noUser twoFields sampleToken).isSome = true ∧
      (validateTelegramInitData sampleHmac noUser mergedField sampleToken).isSome = true ∧
      initHash twoFields = initHash mergedField ∧
      (initFields twoFields).get? "b" = some "2" ∧ (initFields mergedField).get? "b" = none ∧
      ¬ SameAnswer (validateTelegramInitData sampleHmac noUser twoFields sampleToken)
        (validateTelegramInitData sampleHmac noUser mergedField sampleToken) := by
  have rightAccepted : (validateTelegramInitData sampleHmac noUser mergedField
      sampleToken).isSome = true := by decide +kernel
  refine ⟨sampleHmac_injective, twoFields_accepted, rightAccepted, by decide +kernel, by decide +kernel,
    by decide +kernel, ?_⟩
  have leftAnswer : validateTelegramInitData sampleHmac noUser twoFields sampleToken =
      some (.fields (initFields twoFields)) := (accepted_spec twoFields_accepted).2
  have rightAnswer : validateTelegramInitData sampleHmac noUser mergedField sampleToken =
      some (.fields (initFields mergedField)) := (accepted_spec rightAccepted).2
  rw [leftAnswer, rightAnswer]
  intro same
  exact absurd (same "b") (by decide +kernel)

end VpnSuite.Access
