/-
Tunnel addresses (`backend/app/services/address_allocator.py` and
`allocate_next_address` of `core/config_builder.py`).

The allocator takes the first host of a subnet that no live device uses.  It finds the
used hosts by a prefix query on the stored addresses and a regular expression on each
answer, so an address it hands out is new only when the expression reads it back.  It
does for a subnet whose base is three decimal groups.  Digits are the ASCII ones.
-/

import VpnSuite.Billing.PaymentModel

set_option autoImplicit false

namespace VpnSuite.Fleet

open Foundations
open Foundations.PythonText

/-! ### The subnet of a server -/

/-- The subnet fields of a profile's `request_params`; `cidr` is the first truthy one. -/
structure SubnetParams where
  subnetAddress : Option String
  amneziaSubnet : Option String
  cidr : Billing.Field Int
  deriving DecidableEq, Repr

def subnetBaseAndCidr (requestParams : Option SubnetParams) : Option (String × Int) :=
  match requestParams with
  | none => none
  | some params =>
      let subnet := orDefault params.subnetAddress (orDefault params.amneziaSubnet "")
      if subnet = "" then none
      else
        match (strip subnet).toList.splitOn '.' with
        | [first, second, third, _] =>
            let base := String.ofList (first ++ '.' :: second ++ '.' :: third)
            match params.cidr with
            | .refused => none
            | .absent => some (base, 24)
            | .value cidr => some (base, cidr)
        | _ => none

/-- The base and the prefix length an allocation works with. -/
def subnetOf (requestParams : Option SubnetParams) : String × Int :=
  (subnetBaseAndCidr requestParams).getD ("10.8.1", 24)

/-! ### Used hosts -/

/-- `LIKE prefix || '%'`: the wild cards of the prefix are not escaped. -/
def likePrefix : List Char → List Char → Bool
  | [], _ => true
  | '%' :: pattern, text => text.tails.any (likePrefix pattern)
  | '_' :: pattern, text => text ≠ [] && likePrefix pattern text.tail
  | char :: pattern, text => text.head? = some char && likePrefix pattern text.tail

/-- One `\d+\.` at the front. -/
def skipGroup (chars : List Char) : Option (List Char) :=
  match chars.takeWhile Char.isDigit, chars.dropWhile Char.isDigit with
  | _ :: _, '.' :: rest => some rest
  | _, _ => none

def decimalValue (digits : List Char) : Nat :=
  digits.foldl (fun value digit => 10 * value + (digit.toNat - 48)) 0

/-- `_last_octet_from_allowed_ips`: the fourth group of `^\d+\.\d+\.\d+\.(\d+)`. -/
def lastOctetFromAllowedIps (allowedIps : String) : Option Nat :=
  match ((skipGroup (strip allowedIps).toList).bind skipGroup).bind skipGroup with
  | none => none
  | some rest =>
      match rest.takeWhile Char.isDigit with
      | [] => none
      | digits => some (decimalValue digits)

def usedLastOctets (subnetBase : String) (liveIps : List String) : List Nat :=
  (liveIps.filter (fun allowedIps =>
    likePrefix (subnetBase ++ ".").toList allowedIps.toList)).filterMap lastOctetFromAllowedIps

/-! ### Allocation -/

def hostAddress (subnetBase : String) (host : Nat) : String :=
  subnetBase ++ "." ++ toString host ++ "/32"

def hosts : List Nat := List.range' 2 253

/-- `allocate_next_address`; `none` is the `ValueError` of a full subnet. -/
def allocateNextAddress (subnetBase : String) (used : List Nat) : Option String :=
  (hosts.find? (fun host => host ∉ used)).map (hostAddress subnetBase)

/-- `allocate_address_for_device`: the addresses for the client's config and for the peer. -/
def allocateAddressForDevice (requestParams : Option SubnetParams) (liveIps : List String) :
    Option (String × String) :=
  let subnet := subnetOf requestParams
  (allocateNextAddress subnet.1 (usedLastOctets subnet.1 liveIps)).map (fun allocated =>
    (String.ofList (allocated.toList.take (allocated.toList.length - 3)) ++ "/" ++
      toString subnet.2, allocated))

/-! ### Reading an address back -/

/-- Three groups of digits: the bases for which the expression matches. -/
def numericBase (subnetBase : String) : Bool :=
  match (skipGroup subnetBase.toList).bind skipGroup with
  | none => false
  | some rest => rest ≠ [] && rest.all Char.isDigit

theorem skipGroup_eq_some {chars rest : List Char} :
    skipGroup chars = some rest ↔
      ∃ group, group ≠ [] ∧ (∀ char ∈ group, char.isDigit = true) ∧
        chars = group ++ '.' :: rest := by
  unfold skipGroup
  constructor
  · intro skipped
    split at skipped
    · rename_i first more tail taken dropped
      obtain rfl := Option.some.inj skipped
      refine ⟨first :: more, List.cons_ne_nil first more, ?_, ?_⟩
      · intro char member
        rw [← taken] at member
        exact List.mem_takeWhile_imp member
      · rw [← taken, ← dropped, List.takeWhile_append_dropWhile]
    · cases skipped
  · rintro ⟨group, nonempty, digits, rfl⟩
    have taken : (group ++ '.' :: rest).takeWhile Char.isDigit = group := by
      rw [List.takeWhile_append_of_pos digits]
      simp [Char.isDigit]
    have dropped : (group ++ '.' :: rest).dropWhile Char.isDigit = '.' :: rest := by
      rw [List.dropWhile_append_of_pos digits]
      simp [Char.isDigit]
    rw [taken, dropped]
    cases group with
    | nil => exact absurd rfl nonempty
    | cons first more => rfl

theorem skipGroup_append {chars rest : List Char} (more : List Char)
    (skipped : skipGroup chars = some rest) : skipGroup (chars ++ more) = some (rest ++ more) := by
  obtain ⟨group, nonempty, digits, rfl⟩ := skipGroup_eq_some.mp skipped
  apply skipGroup_eq_some.mpr
  refine ⟨group, nonempty, digits, ?_⟩
  simp

theorem numericBase_groups {subnetBase : String} (numeric : numericBase subnetBase = true) :
    ∃ second third, skipGroup subnetBase.toList = some second ∧ skipGroup second = some third ∧
      third ≠ [] ∧ ∀ char ∈ third, char.isDigit = true := by
  unfold numericBase at numeric
  cases skipped : (skipGroup subnetBase.toList).bind skipGroup with
  | none =>
      rw [skipped] at numeric
      cases numeric
  | some third =>
      rw [skipped] at numeric
      obtain ⟨second, front, back⟩ := Option.bind_eq_some_iff.mp skipped
      simp only [Bool.and_eq_true, decide_eq_true_eq, List.all_eq_true] at numeric
      exact ⟨second, third, front, back, numeric.1, numeric.2⟩

theorem host_digits : hosts.all (fun host =>
    (toString host).toList ≠ [] && (toString host).toList.all Char.isDigit &&
      decimalValue (toString host).toList = host) = true := by
  decide +kernel

theorem isSpace_of_isDigit {char : Char} (digit : char.isDigit = true) :
    isSpace char = false := by
  have range : 48 ≤ char.toNat ∧ char.toNat ≤ 57 := by
    simp only [Char.isDigit, Bool.and_eq_true, decide_eq_true_eq, UInt32.le_iff_toNat_le]
      at digit
    exact digit
  simp only [isSpace, Bool.or_eq_false_iff, Bool.and_eq_false_iff, decide_eq_false_iff_not,
    beq_eq_false_iff_ne]
  omega

/-- The expression reads the host of an allocated address back. -/
theorem lastOctet_hostAddress {subnetBase : String} {host : Nat}
    (numeric : numericBase subnetBase = true) (inRange : host ∈ hosts) :
    lastOctetFromAllowedIps (hostAddress subnetBase host) = some host := by
  obtain ⟨second, third, front, back, nonempty, digits⟩ := numericBase_groups numeric
  have hostFacts := List.all_eq_true.mp host_digits host inRange
  simp only [Bool.and_eq_true, decide_eq_true_eq, List.all_eq_true] at hostFacts
  obtain ⟨⟨hostNonempty, hostDigits⟩, hostValue⟩ := hostFacts
  have chars : (hostAddress subnetBase host).toList =
      subnetBase.toList ++ ('.' :: (toString host).toList ++ ['/', '3', '2']) := by
    simp [hostAddress]
  have stripped : (strip (hostAddress subnetBase host)).toList =
      (hostAddress subnetBase host).toList := by
    obtain ⟨group, groupNonempty, groupDigits, whole⟩ := skipGroup_eq_some.mp front
    cases group with
    | nil => exact absurd rfl groupNonempty
    | cons first more =>
        have ends : (hostAddress subnetBase host).toList =
            first :: (more ++ '.' :: second ++ '.' :: (toString host).toList ++ ['/', '3']) ++
              ['2'] := by
          rw [chars, whole]
          simp
        rw [strip, String.toList_ofList, ends]
        refine (stripChars_of_ends ?_ ?_).2.2
        · rintro char ⟨⟩
          exact isSpace_of_isDigit (groupDigits first (List.mem_cons_self ..))
        · intro char last
          rw [List.getLast?_concat] at last
          obtain rfl := Option.some.inj last
          rfl
  have lastGroup : skipGroup (third ++ ('.' :: (toString host).toList ++ ['/', '3', '2'])) =
      some ((toString host).toList ++ ['/', '3', '2']) :=
    skipGroup_eq_some.mpr ⟨third, nonempty, digits, by simp⟩
  have taken : ((toString host).toList ++ ['/', '3', '2']).takeWhile Char.isDigit =
      (toString host).toList := by
    rw [List.takeWhile_append_of_pos hostDigits]
    simp [Char.isDigit]
  unfold lastOctetFromAllowedIps
  rw [stripped, chars, skipGroup_append _ front, Option.bind_some, skipGroup_append _ back,
    Option.bind_some, lastGroup]
  dsimp only
  rw [taken]
  split
  · rename_i empty
    exact absurd empty hostNonempty
  · rw [hostValue]

theorem likePrefix_self {pattern : List Char}
    (plain : ∀ char ∈ pattern, char ≠ '%' ∧ char ≠ '_') (rest : List Char) :
    likePrefix pattern (pattern ++ rest) = true := by
  induction pattern with
  | nil => rfl
  | cons char pattern ih =>
      have here := plain char (List.mem_cons_self ..)
      have later := ih (fun other member => plain other (List.mem_cons_of_mem char member))
      rw [likePrefix]
      · simpa using later
      · exact here.1
      · exact here.2

theorem numericBase_plain {subnetBase : String} (numeric : numericBase subnetBase = true) :
    ∀ char ∈ (subnetBase ++ ".").toList, char ≠ '%' ∧ char ≠ '_' := by
  obtain ⟨second, third, front, back, _, digits⟩ := numericBase_groups numeric
  obtain ⟨firstGroup, _, firstDigits, whole⟩ := skipGroup_eq_some.mp front
  obtain ⟨secondGroup, _, secondDigits, middle⟩ := skipGroup_eq_some.mp back
  have digitPlain : ∀ char : Char, char.isDigit = true → char ≠ '%' ∧ char ≠ '_' := by
    intro char digit
    constructor
    · rintro rfl
      exact absurd digit (by decide)
    · rintro rfl
      exact absurd digit (by decide)
  have dotPlain : ('.' : Char) ≠ '%' ∧ ('.' : Char) ≠ '_' := by decide
  intro char member
  rw [String.toList_append, whole, middle] at member
  simp only [List.mem_append, List.mem_cons] at member
  rcases member with (inFirst | rfl | inSecond | rfl | inThird) | inDot
  · exact digitPlain char (firstDigits char inFirst)
  · exact dotPlain
  · exact digitPlain char (secondDigits char inSecond)
  · exact dotPlain
  · exact digitPlain char (digits char inThird)
  · have dot : char = '.' := by simpa using inDot
    exact dot ▸ dotPlain

/-- Under a numeric base no live device has the address that is handed out. -/
theorem allocateNextAddress_fresh {subnetBase allocated : String} {liveIps : List String}
    (numeric : numericBase subnetBase = true)
    (given : allocateNextAddress subnetBase (usedLastOctets subnetBase liveIps) =
      some allocated) :
    allocated ∉ liveIps := by
  obtain ⟨host, free, rfl⟩ := Option.map_eq_some_iff.mp given
  have inRange := List.mem_of_find?_eq_some free
  have unused := List.find?_some free
  rw [decide_eq_true_eq] at unused
  intro live
  apply unused
  apply List.mem_filterMap.mpr
  refine ⟨hostAddress subnetBase host, List.mem_filter.mpr ⟨live, ?_⟩,
    lastOctet_hostAddress numeric inRange⟩
  have split : (hostAddress subnetBase host).toList =
      (subnetBase ++ ".").toList ++ ((toString host).toList ++ ['/', '3', '2']) := by
    simp [hostAddress]
  rw [split]
  exact likePrefix_self (numericBase_plain numeric) _

theorem allocateAddressForDevice_fresh {requestParams : Option SubnetParams}
    {liveIps : List String} {address allocated : String}
    (numeric : numericBase (subnetOf requestParams).1 = true)
    (given : allocateAddressForDevice requestParams liveIps = some (address, allocated)) :
    allocated ∉ liveIps := by
  obtain ⟨found, next, pair⟩ := Option.map_eq_some_iff.mp given
  obtain rfl : found = allocated := (Prod.mk.inj pair).2
  exact allocateNextAddress_fresh numeric next

theorem dot_not_mem_host {host : Nat} (inRange : host ∈ hosts) :
    '.' ∉ (toString host).toList ++ ['/', '3', '2'] := by
  have facts := List.all_eq_true.mp host_digits host inRange
  simp only [Bool.and_eq_true, List.all_eq_true] at facts
  intro member
  rcases List.mem_append.mp member with inHost | inSuffix
  · exact absurd (facts.1.2 '.' inHost) (by decide)
  · exact absurd inSuffix (by decide)

/-- An address determines its base: its last dot comes before the host. -/
theorem hostAddress_base {left right : String} {first second : Nat} (firstHost : first ∈ hosts)
    (secondHost : second ∈ hosts) (same : hostAddress left first = hostAddress right second) :
    left = right := by
  have chars : ∀ (base : String) (host : Nat), (hostAddress base host).toList =
      base.toList ++ '.' :: ((toString host).toList ++ ['/', '3', '2']) := by
    intro base host
    simp [hostAddress]
  have together := congrArg String.toList same
  rw [chars, chars] at together
  have prefixed := List.append_eq_append_iff.mp together
  apply String.toList_inj.mp
  rcases prefixed with ⟨more, longer, rest⟩ | ⟨more, longer, rest⟩
  · cases more with
    | nil => rw [longer, List.append_nil]
    | cons head tail =>
        refine absurd ?_ (dot_not_mem_host firstHost)
        rw [List.cons_append] at rest
        rw [(List.cons.inj rest).2]
        exact List.mem_append_right tail (List.mem_cons_self ..)
  · cases more with
    | nil => rw [longer, List.append_nil]
    | cons head tail =>
        refine absurd ?_ (dot_not_mem_host secondHost)
        rw [List.cons_append] at rest
        rw [(List.cons.inj rest).2]
        exact List.mem_append_right tail (List.mem_cons_self ..)

theorem allocateAddressForDevice_nonempty {requestParams : Option SubnetParams}
    {liveIps : List String} {address allocated : String}
    (given : allocateAddressForDevice requestParams liveIps = some (address, allocated)) :
    allocated ≠ "" := by
  obtain ⟨found, next, pair⟩ := Option.map_eq_some_iff.mp given
  obtain rfl : found = allocated := (Prod.mk.inj pair).2
  obtain ⟨host, _, rfl⟩ := Option.map_eq_some_iff.mp next
  intro empty
  have chars := congrArg (fun text => text.toList.length) empty
  simp [hostAddress] at chars

end VpnSuite.Fleet
