/-
The endpoints that the builder accepts (`_validate_endpoint` and `_is_valid_hostname` in
`core/config_builder.py`).

An endpoint is meant to be a host and a port.  `int` reads more texts than the digits of a port,
the `$` of the label expression also matches before a line break, and the scope id of an IPv6
address may hold any characters.
-/

import VpnSuite.Config.ConfigReading

set_option autoImplicit false

namespace VpnSuite.Config

open Foundations
open Foundations.PythonText
open Foundations.IniText
open VpnSuite.Runtime (decimalValue isDecimal)

/-! ### The grammar -/

/-- Letters, digits and hyphens, neither first nor last a hyphen. -/
structure IsLdhLabel (label : List Char) : Prop where
  nonempty : 1 ≤ label.length
  short : label.length ≤ 63
  chars : ∀ char ∈ label, isAsciiAlphanumeric char = true ∨ char = '-'
  first : label.head? ≠ some '-'
  last : label.getLast? ≠ some '-'

/-- Labels between dots, and possibly one more dot. -/
def IsHostname (host : List Char) : Prop :=
  host.length ≤ 253 ∧ ∃ labels : List (List Char), labels ≠ [] ∧
    (∀ label ∈ labels, IsLdhLabel label) ∧
      (host = ['.'].intercalate labels ∨ host = ['.'].intercalate labels ++ ['.'])

/-- The decimal digits of a number from 1 to 65535. -/
def IsPortText (port : List Char) : Prop :=
  isDecimal port = true ∧ 1 ≤ decimalValue port ∧ decimalValue port ≤ 65535

/-- The three forms of an endpoint with their host and port. -/
inductive IsEndpoint : List Char → List Char → List Char → Prop
  | v6 {host port : List Char} (version : ipVersion host = some 6) (digits : IsPortText port) :
      IsEndpoint ('[' :: (host ++ ']' :: ':' :: port)) host port
  | v4 {host port : List Char} (version : ipVersion host = some 4) (digits : IsPortText port) :
      IsEndpoint (host ++ ':' :: port) host port
  | hostname {host port : List Char} (named : IsHostname host) (digits : IsPortText port) :
      IsEndpoint (host ++ ':' :: port) host port

/-- White space, line breaks among it, a plus sign or an underscore. -/
def isStray (char : Char) : Bool := isSpace char || char == '+' || char == '_'

/-- What validation should do with a text: accept exactly the endpoints, and return nothing
with a stray character, or with a minus sign in its port. -/
structure EndpointLaw (endpoint : String) : Prop where
  accepts : ∀ text, validateEndpoint endpoint = .ok text ↔
    text = strip endpoint ∧ ∃ host port, IsEndpoint text.toList host port
  clean : ∀ text, validateEndpoint endpoint = .ok text → ∀ char ∈ text.toList, isStray char = false

/-! ### The characters of a host -/

theorem isSome_of_mapM {α β : Type} {read : α → Option β} {items : List α}
    (mapped : (items.mapM read).isSome = true) : ∀ item ∈ items, (read item).isSome = true := by
  induction items with
  | nil => exact fun _ absent => absurd absent List.not_mem_nil
  | cons first rest ih =>
      rw [List.mapM_cons] at mapped
      cases here : read first with
      | none =>
          rw [here] at mapped
          cases mapped
      | some value =>
          rw [here] at mapped
          have later : (rest.mapM read).isSome = true := by
            cases rests : rest.mapM read with
            | none =>
                rw [rests] at mapped
                cases mapped
            | some values => rfl
          intro item member
          rcases List.mem_cons.mp member with rfl | inRest
          · rw [here]
            rfl
          · exact ih later item inRest

/-- The characters of an IPv4 address and of a name, a line break apart. -/
def isHostChar (char : Char) : Bool := isAsciiAlphanumeric char || char == '-' || char == '.'

theorem isHostChar_of_digit {char : Char} (digit : char.isDigit = true) :
    isHostChar char = true := by
  have token : isAsciiAlphanumeric char = true := by
    simp only [Char.isDigit, Bool.and_eq_true, decide_eq_true_eq] at digit
    simp only [isAsciiAlphanumeric, Bool.or_eq_true, Bool.and_eq_true, decide_eq_true_eq,
      Char.le_def]
    exact Or.inr digit
  rw [isHostChar, token]
  rfl

theorem isSpace_of_hostChar {char : Char} (known : isHostChar char = true) :
    isSpace char = false := by
  simp only [isHostChar, Bool.or_eq_true, beq_iff_eq] at known
  rcases known with (alphanumeric | rfl) | rfl
  · have token := isPlainChar_of_token char (alphanumeric_token alphanumeric)
    simp only [isPlainChar, Bool.and_eq_true, Bool.not_eq_true'] at token
    exact token.1
  · decide
  · decide

theorem isStray_of_hostChar {char : Char} (known : isHostChar char = true) :
    isStray char = false := by
  have plus : char ≠ '+' := by
    rintro rfl
    exact absurd known (by decide)
  have underscore : char ≠ '_' := by
    rintro rfl
    exact absurd known (by decide)
  rw [isStray, isSpace_of_hostChar known, beq_eq_false_iff_ne.mpr plus,
    beq_eq_false_iff_ne.mpr underscore]
  rfl

theorem parseIpv4_of_version {host : List Char} (version : ipVersion host = some 4) :
    (Runtime.parseIpv4 host).isSome = true := by
  unfold ipVersion at version
  split at version
  · assumption
  · split at version <;> cases version

theorem hostChar_of_ipv4 {host : List Char} (version : ipVersion host = some 4) {char : Char}
    (member : char ∈ host) : isHostChar char = true := by
  have parsed := parseIpv4_of_version version
  unfold Runtime.parseIpv4 at parsed
  split at parsed
  · rcases @mem_splitOn '.' char host member with rfl | ⟨part, listed, inPart⟩
    · decide
    · have octet := isSome_of_mapM parsed part listed
      unfold Runtime.parseOctet at octet
      split at octet
      · rename_i shaped
        simp only [Runtime.isDecimal, Bool.and_eq_true, List.all_eq_true] at shaped
        exact isHostChar_of_digit (shaped.1.1.1.2 char inPart)
      · cases octet
  · cases parsed

theorem isSpace_of_ipv4 {host : List Char} (version : ipVersion host = some 4) {char : Char}
    (member : char ∈ host) : isSpace char = false :=
  isSpace_of_hostChar (hostChar_of_ipv4 version member)

/-- The name without its trailing dot. -/
def undotted (host : List Char) : List Char :=
  if host.getLast? = some '.' then host.dropLast else host

theorem isValidHostname_iff {host : List Char} :
    isValidHostname host = true ↔
      host ≠ [] ∧ host.length ≤ 253 ∧
        ∀ label ∈ (undotted host).splitOn '.', isLabel label = true := by
  simp only [isValidHostname, undotted, Bool.and_eq_true, decide_eq_true_eq, List.all_eq_true,
    and_assoc]

theorem mem_of_mem_undotted {host : List Char} {char : Char} (member : char ∈ undotted host) :
    char ∈ host := by
  unfold undotted at member
  split at member
  · exact List.mem_of_mem_dropLast member
  · exact member

theorem mem_undotted {host : List Char} {char : Char} (member : char ∈ host) :
    char = '.' ∨ char ∈ undotted host := by
  unfold undotted
  split
  · rename_i dotted
    obtain ⟨front, rfl⟩ := List.getLast?_eq_some_iff.mp dotted
    rw [List.mem_append, List.mem_singleton] at member
    rw [List.dropLast_concat]
    exact member.symm
  · exact Or.inr member

theorem isLabelText_iff {label : List Char} : isLabelText label = true ↔ IsLdhLabel label := by
  simp only [isLabelText, Bool.and_eq_true, decide_eq_true_eq, List.all_eq_true, Bool.or_eq_true,
    beq_iff_eq]
  constructor
  · rintro ⟨⟨⟨short, first⟩, last⟩, chars⟩
    obtain ⟨head, atHead, isHead⟩ := Option.any_eq_true .. |>.mp first
    obtain ⟨tail, atTail, isTail⟩ := Option.any_eq_true .. |>.mp last
    refine ⟨List.length_pos_of_mem (List.mem_of_mem_head? atHead), short, chars, ?_, ?_⟩
    · rw [atHead]
      rintro ⟨⟩
      exact absurd isHead (by decide)
    · rw [atTail]
      rintro ⟨⟩
      exact absurd isTail (by decide)
  · rintro ⟨nonempty, short, chars, first, last⟩
    have some : label ≠ [] := List.ne_nil_of_length_pos nonempty
    refine ⟨⟨⟨short, ?_⟩, ?_⟩, chars⟩
    · rw [List.head?_eq_some_head some] at first ⊢
      rw [Option.any_some]
      exact (chars _ (List.head_mem some)).resolve_right (fun dash => first (congrArg _ dash))
    · rw [List.getLast?_eq_some_getLast some] at last ⊢
      rw [Option.any_some]
      exact (chars _ (List.getLast_mem some)).resolve_right (fun dash => last (congrArg _ dash))

/-- A label that is accepted is one, or one with a line break after it. -/
theorem isLabel_iff {label : List Char} :
    isLabel label = true ↔
      IsLdhLabel label ∨ ∃ front, label = front ++ ['\n'] ∧ IsLdhLabel front := by
  rw [isLabel, Bool.or_eq_true, isLabelText_iff, Bool.and_eq_true, decide_eq_true_eq,
    isLabelText_iff]
  apply or_congr_right
  constructor
  · rintro ⟨ended, front⟩
    obtain ⟨chars, rfl⟩ := List.getLast?_eq_some_iff.mp ended
    rw [List.dropLast_concat] at front
    exact ⟨chars, rfl, front⟩
  · rintro ⟨front, rfl, accepted⟩
    rw [List.getLast?_concat, List.dropLast_concat]
    exact ⟨rfl, accepted⟩

theorem hostChar_of_label {label : List Char} (accepted : IsLdhLabel label) {char : Char}
    (member : char ∈ label) : isHostChar char = true := by
  rcases accepted.chars char member with alphanumeric | rfl
  · rw [isHostChar, alphanumeric]
    rfl
  · decide

theorem hostChar_of_hostname {host : List Char} (valid : isValidHostname host = true) {char : Char}
    (member : char ∈ host) : isHostChar char = true ∨ char = '\n' := by
  obtain ⟨_, _, labels⟩ := isValidHostname_iff.mp valid
  rcases mem_undotted member with rfl | inName
  · exact Or.inl (by decide)
  · rcases @mem_splitOn '.' char _ inName with rfl | ⟨label, listed, inLabel⟩
    · exact Or.inl (by decide)
    · rcases isLabel_iff.mp (labels label listed) with accepted | ⟨front, rfl, accepted⟩
      · exact Or.inl (hostChar_of_label accepted inLabel)
      · rcases List.mem_append.mp inLabel with inFront | last
        · exact Or.inl (hostChar_of_label accepted inFront)
        · exact Or.inr (List.mem_singleton.mp last)

/-- A name that holds no line break holds no white space. -/
theorem isSpace_of_hostname {host : List Char} (valid : isValidHostname host = true)
    (unbroken : '\n' ∉ host) {char : Char} (member : char ∈ host) : isSpace char = false := by
  rcases hostChar_of_hostname valid member with known | rfl
  · exact isSpace_of_hostChar known
  · exact absurd member unbroken

/-! ### The halves of an endpoint -/

/-- A host that is accepted without brackets. -/
def AcceptedHost (host : List Char) : Prop := ipVersion host = some 4 ∨ isValidHostname host = true

theorem AcceptedHost.head? {host : List Char} (accepted : AcceptedHost host) :
    ∃ first rest, host = first :: rest ∧ first ≠ '[' := by
  have nonempty : host ≠ [] := by
    rintro rfl
    rcases accepted with version | valid
    · exact absurd version (by decide)
    · exact absurd valid (by decide)
  obtain ⟨first, rest, rfl⟩ := List.exists_cons_of_ne_nil nonempty
  refine ⟨first, rest, rfl, ?_⟩
  rintro rfl
  rcases accepted with version | valid
  · exact absurd (hostChar_of_ipv4 version List.mem_cons_self) (by decide)
  · exact absurd (hostChar_of_hostname valid List.mem_cons_self) (by decide)

theorem endpointParts_eq_ok {chars host port : List Char} :
    endpointParts chars = .ok (host, port) ↔
      (chars = '[' :: (host ++ ']' :: ':' :: port) ∧ ']' ∉ host ∧ ipVersion host = some 6) ∨
        (chars = host ++ ':' :: port ∧ ':' ∉ port ∧ AcceptedHost host) := by
  constructor
  · intro parts
    unfold endpointParts at parts
    split at parts
    · rename_i inside
      split at parts
      · rename_i closed
        obtain ⟨whole, free⟩ := partition_of_mem closed
        split at parts
        · rename_i found rest halves
          split at parts
          · rename_i version
            obtain ⟨rfl, rfl⟩ := Prod.mk.inj (Except.ok.inj parts)
            rw [halves] at whole free
            exact Or.inl ⟨congrArg (List.cons '[') whole, free, version⟩
          · cases parts
        · cases parts
      · cases parts
    · split at parts
      · rename_i colon
        obtain ⟨whole, free⟩ := rpartition_of_mem colon
        dsimp only at parts
        split at parts
        · rename_i accepted
          obtain ⟨rfl, rfl⟩ := Prod.mk.inj (Except.ok.inj parts)
          exact Or.inr ⟨whole, free, accepted⟩
        · cases parts
      · cases parts
  · rintro (⟨rfl, free, version⟩ | ⟨rfl, free, accepted⟩)
    · have closed : ']' ∈ host ++ ']' :: ':' :: port := List.mem_append_right _ List.mem_cons_self
      simp only [endpointParts, closed, if_true, partition_append free, version]
    · have colon : ':' ∈ host ++ ':' :: port := List.mem_append_right _ List.mem_cons_self
      have halves := rpartition_append free host
      obtain ⟨first, rest, rfl, notBracket⟩ := accepted.head?
      rw [List.cons_append] at colon halves ⊢
      rw [endpointParts.eq_2 _ (fun chars bracketed => notBracket (List.cons.inj bracketed).1),
        if_pos colon, halves]
      exact if_pos accepted

theorem host_ne_nil {chars host port : List Char} (parts : endpointParts chars = .ok (host, port)) :
    host ≠ [] := by
  rintro rfl
  rcases endpointParts_eq_ok.mp parts with ⟨_, _, version⟩ | ⟨_, _, accepted⟩
  · exact absurd version (by decide)
  · obtain ⟨first, rest, impossible, _⟩ := accepted.head?
    cases impossible

theorem validateEndpoint_eq_ok {endpoint text : String} :
    validateEndpoint endpoint = .ok text ↔ text = strip endpoint ∧
      ∃ host port, endpointParts text.toList = .ok (host, port) ∧ isPort port = true := by
  constructor
  · intro checked
    obtain rfl := (validateEndpoint_ok checked).1
    refine ⟨rfl, ?_⟩
    unfold validateEndpoint at checked
    split at checked
    · cases checked
    · split at checked
      · cases checked
      · rename_i host port parts
        split at checked
        · cases checked
        · split at checked
          · rename_i isPort
            exact ⟨host, port, parts, isPort⟩
          · cases checked
  · rintro ⟨rfl, host, port, parts, isPort⟩
    have visible : strip endpoint ≠ "" := by
      intro empty
      rw [empty] at parts
      cases parts
    rw [validateEndpoint, if_neg visible, parts]
    simp only [if_neg (host_ne_nil parts), isPort, if_true]

/-! ### Ports -/

theorem isDecimal_iff {chars : List Char} :
    isDecimal chars = true ↔ chars ≠ [] ∧ ∀ char ∈ chars, char.isDigit = true := by
  rw [isDecimal, Bool.and_eq_true, Bool.not_eq_true', List.isEmpty_eq_false_iff, List.all_eq_true]

/-- `int` of decimal digits, of which there may not be too many. -/
theorem intOfChars_decimal {chars : List Char} (decimal : isDecimal chars = true) :
    intOfChars chars =
      if chars.length ≤ maxStrDigits then some (decimalValue chars : Int) else none := by
  obtain ⟨nonempty, digits⟩ := isDecimal_iff.mp decimal
  have stripped : stripChars chars = chars :=
    (stripChars_of_ends
      (fun _ first => isSpace_of_isDigit (digits _ (List.mem_of_mem_head? first)))
      (fun _ last => isSpace_of_isDigit (digits _ (List.mem_of_mem_getLast? last)))).2.2
  have value : unsignedInt chars =
      if chars.length ≤ maxStrDigits then some (decimalValue chars) else none := by
    rw [unsignedInt, numeralDigits_of_ascii nonempty digits]
    dsimp only
    rw [List.length_map, List.foldl_map]
    rfl
  rw [intOfChars_of_plain (fun char member => isSeparatorControl_of_isDigit (digits char member)),
    stripped]
  unfold signedInt
  split
  · exact absurd (digits '-' List.mem_cons_self) (by decide)
  · exact absurd (digits '+' List.mem_cons_self) (by decide)
  · rw [value]
    split <;> rfl

theorem isPort_iff {port : List Char} :
    isPort port = true ↔ ∃ number, intOfChars port = some number ∧ 1 ≤ number ∧ number ≤ 65535 := by
  rw [isPort, Option.any_eq_true]
  simp only [Bool.and_eq_true, decide_eq_true_eq]

/-- Decimal digits are a port exactly when they denote one and are not too many. -/
theorem isPort_decimal {port : List Char} (decimal : isDecimal port = true) :
    isPort port = true ↔ IsPortText port ∧ port.length ≤ maxStrDigits := by
  rw [isPort_iff, intOfChars_decimal decimal, IsPortText]
  constructor
  · rintro ⟨number, read, least, greatest⟩
    split at read
    · rename_i short
      obtain rfl := Option.some.inj read
      exact ⟨⟨decimal, by omega, by omega⟩, short⟩
    · cases read
  · rintro ⟨⟨_, least, greatest⟩, short⟩
    rw [if_pos short]
    exact ⟨_, rfl, by omega, by omega⟩

/-- Neither a colon nor a bracket is part of a port. -/
theorem not_mem_port {port : List Char} (isPort : isPort port = true) :
    ':' ∉ port ∧ ']' ∉ port := by
  obtain ⟨number, read, _⟩ := isPort_iff.mp isPort
  constructor
  · intro member
    exact absurd (mem_intOfChars read member) (by decide)
  · intro member
    exact absurd (mem_intOfChars read member) (by decide)

theorem not_mem_portText {port : List Char} (digits : IsPortText port) :
    ':' ∉ port ∧ ']' ∉ port := by
  have decimal := (isDecimal_iff.mp digits.1).2
  exact ⟨fun member => absurd (decimal _ member) (by decide),
    fun member => absurd (decimal _ member) (by decide)⟩

/-! ### Names -/

/-- An accepted name without a line break is a hostname, and the other way round. -/
theorem isHostname_iff {host : List Char} :
    IsHostname host ↔ isValidHostname host = true ∧ '\n' ∉ host := by
  rw [isValidHostname_iff]
  constructor
  · rintro ⟨short, labels, some, accepted, shape⟩
    have undot : ∀ label ∈ labels, '.' ∉ label := by
      intro label listed member
      rcases (accepted label listed).chars '.' member with alphanumeric | dash
      · exact absurd alphanumeric (by decide)
      · exact absurd dash (by decide)
    have visible : ∀ label ∈ labels, label ≠ [] :=
      fun label listed => List.ne_nil_of_length_pos (accepted label listed).nonempty
    have ended : (['.'].intercalate labels).getLast? ≠ Option.some '.' := by
      rw [getLast?_intercalate ['.'] visible]
      intro dotted
      obtain ⟨label, isLast, atEnd⟩ := Option.bind_eq_some_iff.mp dotted
      exact undot label (List.mem_of_mem_getLast? isLast) (List.mem_of_mem_getLast? atEnd)
    have name : undotted host = ['.'].intercalate labels := by
      rcases shape with rfl | rfl
      · exact if_neg ended
      · rw [undotted, List.getLast?_concat, if_pos rfl, List.dropLast_concat]
    have valid : ∀ label ∈ (undotted host).splitOn '.', isLabel label = true := by
      rw [name, List.splitOn_intercalate '.' undot some]
      exact fun label listed => isLabel_iff.mpr (Or.inl (accepted label listed))
    refine ⟨⟨?_, short, valid⟩, ?_⟩
    · rintro rfl
      exact absurd (valid [] (by decide)) (by decide)
    · intro feed
      rcases mem_undotted feed with impossible | inName
      · exact absurd impossible (by decide)
      · rcases @mem_splitOn '.' '\n' _ inName with impossible | ⟨label, listed, inLabel⟩
        · exact absurd impossible (by decide)
        · rw [name, List.splitOn_intercalate '.' undot some] at listed
          exact absurd (hostChar_of_label (accepted label listed) inLabel) (by decide)
  · rintro ⟨⟨nonempty, short, valid⟩, unbroken⟩
    refine ⟨short, (undotted host).splitOn '.', List.splitOn_ne_nil _ _, ?_, ?_⟩
    · intro label listed
      rcases isLabel_iff.mp (valid label listed) with accepted | ⟨front, rfl, _⟩
      · exact accepted
      · have inName := mem_of_mem_splitOnP listed '\n' (List.mem_append_right _ List.mem_cons_self)
        exact absurd (mem_of_mem_undotted inName) unbroken
    · rw [List.intercalate_splitOn]
      unfold undotted
      split
      · rename_i dotted
        obtain ⟨front, rfl⟩ := List.getLast?_eq_some_iff.mp dotted
        rw [List.dropLast_concat]
        exact Or.inr rfl
      · exact Or.inl rfl

/-! ### When exactly the endpoints are accepted -/

/-- A text that `int` reads as a port. -/
def ReadsPort (port : List Char) : Prop :=
  ∃ number, intOfChars port = some number ∧ 1 ≤ number ∧ number ≤ 65535

/-- The texts of a host that `ipaddress` or the check of names lets through and of a port that
`int` reads. -/
inductive ReadsAs : List Char → List Char → List Char → Prop
  | bracketed {host port : List Char} (version : ipVersion host = some 6) (closed : ']' ∉ host)
      (number : ReadsPort port) : ReadsAs ('[' :: (host ++ ']' :: ':' :: port)) host port
  | plain {host port : List Char} (accepted : AcceptedHost host) (number : ReadsPort port) :
      ReadsAs (host ++ ':' :: port) host port

/-- The condition on the text of an endpoint.  Where it reads as a host and a port, the port is
in digits and the host without stray characters; an IPv6 address holds no bracket, and a port no
more digits than `int` takes. -/
structure EndpointCondition (chars : List Char) : Prop where
  digits : ∀ host port, ReadsAs chars host port → isDecimal port = true
  hosts : ∀ host port, ReadsAs chars host port → ∀ char ∈ host, isStray char = false
  brackets : ∀ host port, chars = '[' :: (host ++ ']' :: ':' :: port) → ipVersion host = some 6 →
    IsPortText port → ']' ∉ host
  short : ∀ host port, IsEndpoint chars host port → port.length ≤ maxStrDigits

theorem readsAs_iff {chars host port : List Char} :
    ReadsAs chars host port ↔ endpointParts chars = .ok (host, port) ∧ isPort port = true := by
  rw [endpointParts_eq_ok]
  constructor
  · intro reads
    cases reads with
    | bracketed version closed number =>
        exact ⟨Or.inl ⟨rfl, closed, version⟩, isPort_iff.mpr number⟩
    | plain accepted number =>
        have valid := isPort_iff.mpr number
        exact ⟨Or.inr ⟨rfl, (not_mem_port valid).1, accepted⟩, valid⟩
  · rintro ⟨⟨rfl, closed, version⟩ | ⟨rfl, _, accepted⟩, valid⟩
    · exact .bracketed version closed (isPort_iff.mp valid)
    · exact .plain accepted (isPort_iff.mp valid)

/-- The port of an endpoint is what follows its last colon. -/
theorem IsEndpoint.colon {chars host port : List Char} (endpoint : IsEndpoint chars host port) :
    (∃ front, chars = front ++ ':' :: port) ∧ IsPortText port := by
  cases endpoint with
  | v6 version digits =>
      exact ⟨⟨'[' :: host ++ [']'], by simp⟩, digits⟩
  | v4 version digits => exact ⟨⟨host, rfl⟩, digits⟩
  | hostname named digits => exact ⟨⟨host, rfl⟩, digits⟩

theorem parts_colon {chars host port : List Char} (parts : endpointParts chars = .ok (host, port)) :
    ∃ front, chars = front ++ ':' :: port := by
  rcases endpointParts_eq_ok.mp parts with ⟨rfl, _⟩ | ⟨rfl, _⟩
  · exact ⟨'[' :: host ++ [']'], by simp⟩
  · exact ⟨host, rfl⟩

theorem port_unique {chars host port other otherPort : List Char}
    (parts : endpointParts chars = .ok (host, port)) (isPort : isPort port = true)
    (endpoint : IsEndpoint chars other otherPort) : otherPort = port := by
  obtain ⟨front, whole⟩ := parts_colon parts
  obtain ⟨⟨otherFront, otherWhole⟩, digits⟩ := endpoint.colon
  have same := otherWhole.symm.trans whole
  have last := rpartition_append (not_mem_portText digits).1 otherFront
  rw [same, rpartition_append (not_mem_port isPort).1 front] at last
  exact (Prod.mk.inj last).2.symm

/-- An endpoint without a bracket in its address is split by the code as it is meant. -/
theorem IsEndpoint.parts {chars host port : List Char} (endpoint : IsEndpoint chars host port)
    (brackets : ∀ host port, chars = '[' :: (host ++ ']' :: ':' :: port) → ipVersion host = some 6 →
      IsPortText port → ']' ∉ host) : endpointParts chars = .ok (host, port) := by
  rw [endpointParts_eq_ok]
  cases endpoint with
  | v6 version digits => exact Or.inl ⟨rfl, brackets host port rfl version digits, version⟩
  | v4 version digits => exact Or.inr ⟨rfl, (not_mem_portText digits).1, Or.inl version⟩
  | hostname named digits =>
      exact Or.inr ⟨rfl, (not_mem_portText digits).1, Or.inr (isHostname_iff.mp named).1⟩

/-- What the code accepts is an endpoint once its port is in digits and its host holds no line
break. -/
theorem isEndpoint_of_parts {chars host port : List Char}
    (parts : endpointParts chars = .ok (host, port)) (isPort : isPort port = true)
    (decimal : isDecimal port = true) (clean : ∀ char ∈ host, isStray char = false) :
    IsEndpoint chars host port := by
  have digits := ((isPort_decimal decimal).mp isPort).1
  rcases endpointParts_eq_ok.mp parts with ⟨rfl, _, version⟩ | ⟨rfl, _, version | valid⟩
  · exact .v6 version digits
  · exact .v4 version digits
  · have unbroken : '\n' ∉ host := fun feed => absurd (clean '\n' feed) (by decide)
    exact .hostname (isHostname_iff.mpr ⟨valid, unbroken⟩) digits

/-- Validation accepts exactly the endpoints, and returns no stray character, exactly under the
condition. -/
theorem endpoint_law_iff (endpoint : String) :
    EndpointLaw endpoint ↔ EndpointCondition (strip endpoint).toList := by
  constructor
  · rintro ⟨accepts, clean⟩
    have returns : ∀ {host port}, endpointParts (strip endpoint).toList = .ok (host, port) →
        isPort port = true → validateEndpoint endpoint = .ok (strip endpoint) :=
      fun parts isPort => validateEndpoint_eq_ok.mpr ⟨rfl, _, _, parts, isPort⟩
    have splits : ∀ {host port}, IsEndpoint (strip endpoint).toList host port →
        ∃ host port, endpointParts (strip endpoint).toList = .ok (host, port) ∧
          isPort port = true :=
      fun isEndpoint => (validateEndpoint_eq_ok.mp
        ((accepts (strip endpoint)).mpr ⟨rfl, _, _, isEndpoint⟩)).2
    refine ⟨?_, ?_, ?_, ?_⟩
    · intro host port reads
      obtain ⟨parts, isPort⟩ := readsAs_iff.mp reads
      obtain ⟨_, other, otherPort, isEndpoint⟩ := (accepts _).mp (returns parts isPort)
      obtain rfl := port_unique parts isPort isEndpoint
      exact isEndpoint.colon.2.1
    · intro host port reads char member
      obtain ⟨parts, isPort⟩ := readsAs_iff.mp reads
      refine clean _ (returns parts isPort) char ?_
      rcases endpointParts_eq_ok.mp parts with ⟨whole, _⟩ | ⟨whole, _⟩
      · rw [whole]
        exact List.mem_cons_of_mem _ (List.mem_append_left _ member)
      · rw [whole]
        exact List.mem_append_left _ member
    · intro host port whole version digits closed
      have isEndpoint : IsEndpoint (strip endpoint).toList host port := whole ▸ .v6 version digits
      obtain ⟨other, otherPort, parts, isPort⟩ := splits isEndpoint
      obtain rfl := port_unique parts isPort isEndpoint
      rcases endpointParts_eq_ok.mp parts with ⟨otherWhole, free, _⟩ | ⟨otherWhole, _, accepted⟩
      · -- both end in the same port, so the addresses are the same
        have same := (List.cons.inj (whole.symm.trans otherWhole)).2
        have sameHost := List.append_cancel_right same
        exact free (sameHost ▸ closed)
      · obtain ⟨first, rest, rfl, notBracket⟩ := accepted.head?
        exact notBracket (List.cons.inj (otherWhole.symm.trans whole)).1
    · intro host port isEndpoint
      obtain ⟨other, otherPort, parts, isPort⟩ := splits isEndpoint
      obtain rfl := port_unique parts isPort isEndpoint
      exact ((isPort_decimal isEndpoint.colon.2.1).mp isPort).2
  · intro condition
    constructor
    · intro text
      rw [validateEndpoint_eq_ok]
      apply and_congr_right
      rintro rfl
      constructor
      · rintro ⟨host, port, parts, isPort⟩
        exact ⟨host, port, isEndpoint_of_parts parts isPort
          (condition.digits host port (readsAs_iff.mpr ⟨parts, isPort⟩))
          (condition.hosts host port (readsAs_iff.mpr ⟨parts, isPort⟩))⟩
      · rintro ⟨host, port, isEndpoint⟩
        refine ⟨host, port, isEndpoint.parts condition.brackets, ?_⟩
        have digits := isEndpoint.colon.2
        exact (isPort_decimal digits.1).mpr ⟨digits, condition.short host port isEndpoint⟩
    · intro text checked char member
      obtain ⟨rfl, host, port, parts, isPort⟩ := validateEndpoint_eq_ok.mp checked
      have reads := readsAs_iff.mpr ⟨parts, isPort⟩
      have inHost := condition.hosts host port reads
      have decimal := (isDecimal_iff.mp (condition.digits host port reads)).2
      have inPort : ∀ char ∈ port, isStray char = false :=
        fun char member => isStray_of_hostChar (isHostChar_of_digit (decimal char member))
      rcases endpointParts_eq_ok.mp parts with ⟨whole, _⟩ | ⟨whole, _⟩
      · rw [whole] at member
        simp only [List.mem_cons, List.mem_append] at member
        rcases member with rfl | member | rfl | rfl | member
        · decide
        · exact inHost char member
        · decide
        · decide
        · exact inPort char member
      · rw [whole] at member
        simp only [List.mem_cons, List.mem_append] at member
        rcases member with member | rfl | member
        · exact inHost char member
        · decide
        · exact inPort char member

/-- A port may have a sign. -/
theorem signed_port_is_accepted : ¬ EndpointLaw "vpn.example.com:+51820" := by
  intro law
  have returned : validateEndpoint "vpn.example.com:+51820" = .ok "vpn.example.com:+51820" := by
    decide +kernel
  exact absurd (law.clean _ returned '+' (by decide)) (by decide)

end VpnSuite.Config
