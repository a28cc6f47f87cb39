/-
Whether a public endpoint is emitted as configured (`services/node_endpoint_utils.py` and its
use by the issue paths).

The code asks `ipaddress` for the host, and takes every text that is no IPv4 address for a
private one: names, and IPv6 addresses, of which it reads what stands before the first colon.
With a default host set, such an endpoint gives way to that host.
-/

import VpnSuite.Config.EndpointGrammar
import VpnSuite.Fleet.SameConfigs

set_option autoImplicit false

namespace VpnSuite.Fleet

open Foundations
open Foundations.PythonText
open Foundations.LinePasses (collapse pass)
open VpnSuite.Config
open IniText (mem_of_mem_splitOnP)
open VpnSuite.ControlPlane (LiveSources)
open VpnSuite.Runtime (parseIpv4)

/-! ### Public and private addresses -/

/-- `IPv4Address.is_global`. -/
def isGlobalIpv4 (octets : List Nat) : Bool :=
  !inIpv4Network octets ([100, 64, 0, 0], 10) && !isPrivateIpv4 octets

def hexDigitValue (char : Char) : Nat :=
  if char.isDigit then char.toNat - 48
  else if 'a' ≤ char then char.toNat - 87
  else char.toNat - 55

/-- The hextets of a part of an IPv6 address, two if it is an address in IPv4 form. -/
def partHextets (part : List Char) : List Nat :=
  match parseIpv4 part with
  | some [first, second, third, fourth] => [256 * first + second, 256 * third + fourth]
  | _ => [part.foldl (fun value char => 16 * value + hexDigitValue char) 0]

/-- The eight hextets of an IPv6 address, its scope id apart. -/
def ipv6Hextets (host : List Char) : List Nat :=
  let parts := (host.takeWhile (fun char => char ≠ '%')).splitOn ':'
  match skipIndices parts with
  | [] => parts.flatMap partHextets
  | skip :: _ =>
      let high := (sideParts (parts.take skip)).flatMap partHextets
      let low := (sideParts (parts.drop (skip + 1))).flatMap partHextets
      high ++ List.replicate (8 - high.length - low.length) 0 ++ low

def ipv6Value (hextets : List Nat) : Nat :=
  (hextets ++ List.replicate (8 - hextets.length) 0).foldl
    (fun value hextet => 65536 * value + hextet) 0

def ipv6PrivateNetworks : List (List Nat × Nat) :=
  [([0, 0, 0, 0, 0, 0, 0, 1], 128), ([0], 128), ([0, 0, 0, 0, 0, 0xffff], 96),
    ([0x64, 0xff9b, 1], 48), ([0x100], 64), ([0x2001], 23), ([0x2001, 0xdb8], 32),
    ([0x2002], 16), ([0x3fff], 20), ([0xfc00], 7), ([0xfe80], 10)]

def ipv6PrivateExceptions : List (List Nat × Nat) :=
  [([0x2001, 1, 0, 0, 0, 0, 0, 1], 128), ([0x2001, 1, 0, 0, 0, 0, 0, 2], 128),
    ([0x2001, 3], 32), ([0x2001, 4, 0x112], 48), ([0x2001, 0x20], 28), ([0x2001, 0x30], 28)]

def inIpv6Network (hextets : List Nat) (network : List Nat × Nat) : Bool :=
  ipv6Value hextets / 2 ^ (128 - network.2) = ipv6Value network.1 / 2 ^ (128 - network.2)

/-- `IPv6Address.ipv4_mapped`. -/
def ipv4Mapped : List Nat → Option (List Nat)
  | [0, 0, 0, 0, 0, 0xffff, high, low] => some [high / 256, high % 256, low / 256, low % 256]
  | _ => none

/-- `IPv6Address.is_private`. -/
def isPrivateIpv6 (hextets : List Nat) : Bool :=
  match ipv4Mapped hextets with
  | some octets => isPrivateIpv4 octets
  | none =>
      ipv6PrivateNetworks.any (inIpv6Network hextets) &&
        !ipv6PrivateExceptions.any (inIpv6Network hextets)

/-- `IPv6Address.is_global`. -/
def isGlobalIpv6 (hextets : List Nat) : Bool :=
  match ipv4Mapped hextets with
  | some octets => isGlobalIpv4 octets
  | none => !isPrivateIpv6 hextets

/-- A private address, or `localhost`. -/
def isPrivateHost (host : List Char) : Bool :=
  match parseIpv4 host with
  | some octets => isPrivateIpv4 octets
  | none => if isIpv6 host then isPrivateIpv6 (ipv6Hextets host) else host = "localhost".toList

/-- A global address, or a name other than `localhost`. -/
def isPublicHost (host : List Char) : Bool :=
  match parseIpv4 host with
  | some octets => isGlobalIpv4 octets
  | none => if isIpv6 host then isGlobalIpv6 (ipv6Hextets host) else host ≠ "localhost".toList

/-! ### What `is_endpoint_private` says -/

theorem head_splitOn_cons {separator char : Char} (different : char ≠ separator)
    (chars : List Char) : ∃ rest, ((char :: chars).splitOn separator).headD [] = char :: rest := by
  have visible : ¬ (char == separator) = true := fun same => different (beq_iff_eq.mp same)
  rw [List.splitOn_cons_eq_if_modifyHead, if_neg visible]
  cases parts : chars.splitOn separator with
  | nil => exact absurd parts (List.splitOn_ne_nil separator chars)
  | cons first others => exact ⟨first, rfl⟩

theorem head_splitOn_of_not_mem {separator : Char} {chars : List Char} (free : separator ∉ chars)
    (rest : List Char) : ((chars ++ separator :: rest).splitOn separator).headD [] = chars := by
  rw [List.splitOn_append_cons_self, List.splitOn_eq_singleton free]
  rfl

theorem hostChar_of_parseIpv4 {host : List Char} {octets : List Nat}
    (read : parseIpv4 host = some octets) {char : Char} (member : char ∈ host) :
    isHostChar char = true := by
  have version : ipVersion host = some 4 := by
    rw [ipVersion, read]
    rfl
  exact hostChar_of_ipv4 version member

theorem colon_of_ipv6 {host : List Char} (version : ipVersion host = some 6) : ':' ∈ host := by
  have number : ∀ address, isIpv6Number address = true → ':' ∈ address := by
    intro address isNumber
    by_contra free
    have parts : address.splitOn ':' = [address] := List.splitOn_eq_singleton free
    have few : hextetParts address = none := by
      rw [hextetParts, parts]
      exact if_pos (by rw [List.length_singleton]; decide)
    rw [isIpv6Number, few] at isNumber
    cases isNumber
  have inHost : ∀ address ∈ host.splitOn '%', ':' ∈ address → ':' ∈ host :=
    fun address listed member => mem_of_mem_splitOnP listed ':' member
  unfold ipVersion at version
  split at version
  · cases version
  · split at version
    · rename_i isAddress
      rw [isIpv6, Bool.and_eq_true] at isAddress
      have form := isAddress.2
      split at form
      · rename_i address alone
        exact inHost address (by rw [alone]; exact List.mem_cons_self) (number address form)
      · rename_i address scope halves
        rw [Bool.and_eq_true] at form
        exact inHost address (by rw [halves]; exact List.mem_cons_self) (number address form.2)
      · cases form
    · cases version

/-- What `_is_private_ip` asks `ipaddress` for. -/
def askedText (host : List Char) : List Char :=
  ((((stripChars host).splitOn '/').headD []).splitOn ':').headD []

/-- Only the text of a public IPv4 address is not called private. -/
theorem isPrivateIp_iff (host : List Char) :
    isPrivateIp (String.ofList host) = true ↔
      ∀ octets, parseIpv4 (askedText host) = some octets → isPrivateIpv4 octets = true := by
  have folded : ((((stripChars host).splitOn '/').headD []).splitOn ':').headD [] =
      askedText host := rfl
  simp only [isPrivateIp, String.toList_ofList, folded]
  split
  · rename_i named
    refine iff_of_true rfl ?_
    have unread : parseIpv4 (askedText host) = none := by
      rcases named with empty | isLocal
      · rw [empty]
        decide
      · rw [isLocal]
        decide
    intro octets read
    cases unread.symm.trans read
  · split
    · rename_i unread
      refine iff_of_true rfl (fun octets read => ?_)
      cases unread.symm.trans read
    · rename_i octets read
      constructor
      · intro isPrivate other again
        obtain rfl := Option.some.inj (read.symm.trans again)
        exact isPrivate
      · intro all
        exact all octets read

theorem askedText_bracket (rest : List Char) : ∃ more, askedText ('[' :: rest) = '[' :: more := by
  obtain ⟨stripped, isStripped⟩ := stripChars_cons_visible (by decide : isSpace '[' = false) rest
  obtain ⟨first, beforeSlash⟩ := head_splitOn_cons (by decide : '[' ≠ '/') stripped
  obtain ⟨second, beforeColon⟩ := head_splitOn_cons (by decide : '[' ≠ ':') first
  exact ⟨second, by rw [askedText, isStripped, beforeSlash, beforeColon]⟩

/-- Of a host without brackets the whole text is asked for. -/
theorem askedText_of_accepted {host : List Char} (accepted : AcceptedHost host) :
    ':' ∉ host ∧ askedText host = stripChars host := by
  have known : ∀ char ∈ host, isHostChar char = true ∨ char = '\n' := by
    intro char member
    rcases accepted with version | valid
    · exact Or.inl (hostChar_of_ipv4 version member)
    · exact hostChar_of_hostname valid member
  have free : ∀ char, isHostChar char = false → char ≠ '\n' → char ∉ host := by
    intro char unknown different member
    rcases known char member with isHost | feed
    · exact Bool.false_ne_true (unknown.symm.trans isHost)
    · exact different feed
  have noSlash : '/' ∉ stripChars host := fun member =>
    free '/' (by decide) (by decide) (stripChars_subset host member)
  have noColon := free ':' (by decide) (by decide)
  refine ⟨noColon, ?_⟩
  rw [askedText, List.splitOn_eq_singleton noSlash, List.headD_cons,
    List.splitOn_eq_singleton (fun member => noColon (stripChars_subset host member)),
    List.headD_cons]

/-- An endpoint is called private unless its host is the text of a public IPv4 address. -/
theorem isEndpointPrivate_iff {endpoint : String} {host port : List Char}
    (parts : endpointParts (strip endpoint).toList = .ok (host, port)) :
    isEndpointPrivate endpoint = true ↔
      ∀ octets, parseIpv4 (stripChars host) = some octets → isPrivateIpv4 octets = true := by
  rw [strip, String.toList_ofList] at parts
  rw [isEndpointPrivate]
  rcases endpointParts_eq_ok.mp parts with ⟨whole, -, version⟩ | ⟨whole, -, accepted⟩
  · obtain ⟨rest, head⟩ := head_splitOn_cons (by decide : '[' ≠ ':') (host ++ ']' :: ':' :: port)
    obtain ⟨more, asked⟩ := askedText_bracket rest
    rw [whole, head, Bool.and_eq_true, isPrivateIp_iff, asked]
    have unread : ∀ octets, parseIpv4 ('[' :: more) ≠ some octets :=
      fun octets read => absurd (hostChar_of_parseIpv4 read List.mem_cons_self) (by decide)
    refine iff_of_true ⟨by simp, fun octets read => absurd read (unread octets)⟩ ?_
    intro octets read
    have colon : ':' ∈ stripChars host := mem_stripChars (colon_of_ipv6 version) (by decide)
    exact absurd (hostChar_of_parseIpv4 read colon) (by decide)
  · obtain ⟨noColon, asked⟩ := askedText_of_accepted accepted
    obtain ⟨first, rest, nonempty, -⟩ := accepted.head?
    rw [whole, head_splitOn_of_not_mem noColon, Bool.and_eq_true, isPrivateIp_iff, asked]
    exact and_iff_right (by rw [nonempty]; simp)

/-- Addresses in IPv4 form, private IPv6 addresses and `localhost`; and what passes as a name but
is a public IPv4 address between line breaks. -/
def RightlyClassified (host : List Char) : Prop :=
  (parseIpv4 host).isSome = true ∨
    (isIpv6 host = true ∧ isPrivateIpv6 (ipv6Hextets host) = true) ∨
    host = "localhost".toList ∨
    ∃ octets, parseIpv4 (stripChars host) = some octets ∧ isPrivateIpv4 octets = false

theorem stripChars_ipv4 {host : List Char} {octets : List Nat}
    (read : parseIpv4 host = some octets) : stripChars host = host := by
  have visible : ∀ char ∈ host, isSpace char = false :=
    fun char member => isSpace_of_hostChar (hostChar_of_parseIpv4 read member)
  exact (stripChars_of_ends (fun char first => visible char (List.mem_of_mem_head? first))
    (fun char last => visible char (List.mem_of_mem_getLast? last))).2.2

theorem not_ipv6_of_ipv4 {host : List Char} {octets : List Nat}
    (read : parseIpv4 (stripChars host) = some octets) (unread : parseIpv4 host = none) :
    isIpv6 host = false := by
  cases isAddress : isIpv6 host with
  | false => rfl
  | true =>
      have version : ipVersion host = some 6 := by
        rw [ipVersion, unread, isAddress]
        rfl
      have colon : ':' ∈ stripChars host := mem_stripChars (colon_of_ipv6 version) (by decide)
      exact absurd (hostChar_of_parseIpv4 read colon) (by decide)

theorem isPrivateHost_ipv6 {host : List Char} (unread : parseIpv4 host = none)
    (isAddress : isIpv6 host = true) :
    isPrivateHost host = isPrivateIpv6 (ipv6Hextets host) := by
  rw [isPrivateHost, unread]
  exact if_pos isAddress

theorem isPrivateHost_name {host : List Char} (unread : parseIpv4 host = none)
    (isName : isIpv6 host = false) :
    isPrivateHost host = true ↔ host = "localhost".toList := by
  rw [isPrivateHost, unread]
  dsimp only
  rw [isName, if_neg Bool.false_ne_true, decide_eq_true_eq]

/-- The code tells private hosts from others exactly for these hosts. -/
theorem classified_iff {endpoint : String} {host port : List Char}
    (parts : endpointParts (strip endpoint).toList = .ok (host, port)) :
    (isEndpointPrivate endpoint = true ↔ isPrivateHost host = true) ↔ RightlyClassified host := by
  rw [isEndpointPrivate_iff parts]
  cases read : parseIpv4 host with
  | some octets =>
      refine iff_of_true ?_ (Or.inl (by rw [read]; rfl))
      rw [stripChars_ipv4 read, isPrivateHost, read]
      constructor
      · intro all
        exact all octets rfl
      · rintro isPrivate _ ⟨⟩
        exact isPrivate
  | none =>
      by_cases asName : ∃ octets, parseIpv4 (stripChars host) = some octets ∧
          isPrivateIpv4 octets = false
      · refine iff_of_true ?_ (Or.inr (Or.inr (Or.inr asName)))
        obtain ⟨octets, inside, isPublic⟩ := asName
        have notLocal : host ≠ "localhost".toList := by
          rintro rfl
          cases inside
        refine iff_of_false ?_ ?_
        · intro all
          exact Bool.false_ne_true (isPublic.symm.trans (all octets inside))
        · rw [isPrivateHost_name read (not_ipv6_of_ipv4 inside read)]
          exact notLocal
      · have isPrivate : ∀ octets, parseIpv4 (stripChars host) = some octets →
            isPrivateIpv4 octets = true := by
          intro octets inside
          by_contra isPublic
          exact asName ⟨octets, inside, by simpa using isPublic⟩
        have notIpv4 : ¬ (parseIpv4 host).isSome = true := by
          rw [read]
          exact Bool.false_ne_true
        rw [iff_true_left isPrivate, RightlyClassified, or_iff_right notIpv4,
          or_iff_left asName]
        cases isAddress : isIpv6 host with
        | true =>
            have notLocal : host ≠ "localhost".toList := by
              rintro rfl
              exact absurd isAddress (by decide)
            rw [isPrivateHost_ipv6 read isAddress, or_iff_left notLocal]
            exact (and_iff_right rfl).symm
        | false =>
            rw [isPrivateHost_name read isAddress]
            exact (or_iff_right (fun both => Bool.false_ne_true both.1)).symm

/-! ### The Endpoint line of a configuration -/

/-- Readers skip white space at the beginning of a line. -/
def isEndpointLine (line : List Char) : Bool :=
  (settingLine "Endpoint" "").toList.isPrefixOf (line.dropWhile isSpace)

/-- No other Endpoint line stands in the text. -/
def EndpointLinesAre (endpoint text : String) : Prop :=
  ∀ line ∈ linesOf text.toList, isEndpointLine line = true →
    line = (settingLine "Endpoint" endpoint).toList

/-- The text has an Endpoint line, and it is that of the endpoint. -/
def ShowsEndpoint (endpoint text : String) : Prop :=
  (settingLine "Endpoint" endpoint).toList ∈ linesOf text.toList ∧ EndpointLinesAre endpoint text

theorem isEndpointLine_iff {line : List Char} :
    isEndpointLine line = true ↔
      ∃ value, line.dropWhile isSpace = (settingLine "Endpoint" value).toList := by
  rw [isEndpointLine, List.isPrefixOf_iff_prefix]
  generalize line.dropWhile isSpace = text
  constructor
  · rintro ⟨value, rfl⟩
    refine ⟨String.ofList value, ?_⟩
    rw [settingLine_toList, settingLine_toList, String.toList_empty, List.append_nil,
      List.append_assoc]
    exact congrArg (fun text => "Endpoint".toList ++ (" = ".toList ++ text))
      String.toList_ofList.symm
  · rintro ⟨value, rfl⟩
    rw [settingLine_toList, settingLine_toList]
    exact ⟨value.toList, by simp⟩

theorem setting_front {key : String} (named : isSettingKey key.toList = true) (value : String) :
    (settingLine key value).toList.dropWhile isSpace = (settingLine key value).toList := by
  rw [isSettingKey, Bool.and_eq_true, Bool.not_eq_true', List.isEmpty_eq_false_iff,
    List.all_eq_true] at named
  obtain ⟨first, rest, isKey⟩ := List.exists_cons_of_ne_nil named.1
  have firstInKey := named.2 first (by rw [isKey]; exact List.mem_cons_self)
  have plainChar := isPlainChar_of_token first (alphanumeric_token firstInKey)
  rw [isPlainChar, Bool.and_eq_true, Bool.not_eq_true'] at plainChar
  rw [settingLine_toList, isKey, List.cons_append, List.dropWhile_cons_of_neg (by
    rw [plainChar.1]
    exact Bool.false_ne_true)]

theorem isEndpointLine_setting (value : String) :
    isEndpointLine (settingLine "Endpoint" value).toList = true :=
  isEndpointLine_iff.mpr ⟨value, setting_front (by decide) value⟩

theorem isEndpointLine_other {key value : String} (named : isSettingKey key.toList = true)
    (other : key ≠ "Endpoint") : isEndpointLine (settingLine key value).toList = false := by
  rw [← Bool.not_eq_true, isEndpointLine_iff, setting_front named]
  rintro ⟨value, same⟩
  rw [isSettingKey, Bool.and_eq_true, List.all_eq_true] at named
  have keyFree : ' ' ∉ key.toList := fun member => absurd (named.2 ' ' member) (by decide)
  rw [settingLine_toList, settingLine_toList] at same
  have sameKey := (separator_inj keyFree (by decide : ' ' ∉ "Endpoint".toList) same).1
  exact other (String.toList_inj.mp sameKey)

theorem visible_of_endpoint {line : List Char} (isEndpoint : isEndpointLine line = true) :
    line ≠ [] := by
  rintro rfl
  exact absurd isEndpoint (by decide)

section Lines

variable {endpoint : String}

theorem endpointLinesAre_of_none {text : String}
    (none : (linesOf text.toList).all (fun line => !isEndpointLine line) = true) :
    EndpointLinesAre endpoint text := by
  intro line member isEndpoint
  have notEndpoint := List.all_eq_true.mp none line member
  rw [isEndpoint] at notEndpoint
  cases notEndpoint

theorem endpointLinesAre_other {key value : String} (named : isSettingKey key.toList = true)
    (other : key ≠ "Endpoint") (unbroken : '\n' ∉ value.toList) :
    EndpointLinesAre endpoint (settingLine key value) := by
  have keyUnbroken : '\n' ∉ key.toList := by
    rw [isSettingKey, Bool.and_eq_true, List.all_eq_true] at named
    exact fun member => absurd (named.2 _ member) (by decide)
  refine endpointLinesAre_of_none ?_
  rw [linesOf_setting keyUnbroken unbroken, List.all_cons, isEndpointLine_other named other]
  rfl

theorem mem_lines_join {lines : List String} (some : lines ≠ []) {line : List Char}
    (visible : line ≠ []) :
    line ∈ linesOf (join "\n" lines ++ "\n").toList ↔
      ∃ text ∈ lines, line ∈ linesOf text.toList := by
  rw [linesOf_join some, List.mem_append, List.mem_singleton, or_iff_left visible,
    List.mem_flatMap]

theorem endpointLinesAre_join {lines : List String} (some : lines ≠ []) :
    EndpointLinesAre endpoint (join "\n" lines ++ "\n") ↔
      ∀ text ∈ lines, EndpointLinesAre endpoint text := by
  constructor
  · intro all text listed line member isEndpoint
    exact all line ((mem_lines_join some (visible_of_endpoint isEndpoint)).mpr
      ⟨text, listed, member⟩) isEndpoint
  · intro each line member isEndpoint
    obtain ⟨text, listed, inText⟩ :=
      (mem_lines_join some (visible_of_endpoint isEndpoint)).mp member
    exact each text listed line inText isEndpoint

/-- Of a configuration only the address, the middle and the endpoint matter. -/
theorem endpointLinesAre_layout {values : ClientValues} (wellFormed : values.WellFormed)
    (middle : List String) (shown : String) {keepalive : String}
    (plainKeepalive : isPlainValue keepalive.toList = true) :
    EndpointLinesAre endpoint (join "\n" (layout middle shown keepalive values) ++ "\n") ↔
      EndpointLinesAre endpoint (settingLine "Address" values.address) ∧
        (∀ line ∈ middle, EndpointLinesAre endpoint line) ∧
        EndpointLinesAre endpoint (settingLine "Endpoint" shown) := by
  have privateKey : EndpointLinesAre endpoint (settingLine "PrivateKey" values.privateKey) :=
    endpointLinesAre_other (by decide) (by decide) (plain_unbroken wellFormed.privateKey)
  have publicKey : EndpointLinesAre endpoint (settingLine "PublicKey" values.publicKey) :=
    endpointLinesAre_other (by decide) (by decide) (plain_unbroken wellFormed.publicKey)
  have presharedKey : EndpointLinesAre endpoint (settingLine "PresharedKey" values.presharedKey) :=
    endpointLinesAre_other (by decide) (by decide) (plain_unbroken wellFormed.presharedKey)
  have allowedIps : EndpointLinesAre endpoint (settingLine "AllowedIPs" values.allowedIps) :=
    endpointLinesAre_other (by decide) (by decide) wellFormed.allowedIps
  have keepaliveLine : EndpointLinesAre endpoint (settingLine "PersistentKeepalive" keepalive) :=
    endpointLinesAre_other (by decide) (by decide) (plain_unbroken plainKeepalive)
  have header : EndpointLinesAre endpoint "[Interface]" := endpointLinesAre_of_none (by decide)
  have blank : EndpointLinesAre endpoint "" := endpointLinesAre_of_none (by decide)
  have peer : EndpointLinesAre endpoint "[Peer]" := endpointLinesAre_of_none (by decide)
  rw [endpointLinesAre_join (layout_ne_nil middle shown keepalive values)]
  simp only [layout, List.forall_mem_append, List.forall_mem_cons]
  constructor
  · rintro ⟨⟨_, _, address, _⟩, middleLines, _, _, _, endpointLine, _⟩
    exact ⟨address, middleLines, endpointLine⟩
  · rintro ⟨address, middleLines, endpointLine⟩
    exact ⟨⟨header, privateKey, address, fun _ absent => by cases absent⟩, middleLines, blank,
      peer, publicKey, endpointLine, allowedIps, keepaliveLine, presharedKey,
      fun _ absent => by cases absent⟩

/-- The first line of an emitted endpoint is an Endpoint line. -/
theorem first_of_endpointLinesAre {shown : String} {first more : List Char}
    (split : shown.toList = first ++ '\n' :: more) (free : '\n' ∉ first)
    (only : EndpointLinesAre endpoint (settingLine "Endpoint" shown)) :
    first = endpoint.toList := by
  have firstFree : '\n' ∉ (String.ofList first).toList := by
    rw [String.toList_ofList]
    exact free
  have lines : linesOf (settingLine "Endpoint" shown).toList =
      linesOf (settingLine "Endpoint" (String.ofList first)).toList ++ linesOf more := by
    rw [← linesOf_append, settingLine_toList "Endpoint" (String.ofList first), List.append_assoc,
      List.append_assoc, String.toList_ofList (l := first), ← split, ← settingLine_toList]
  have listed : (settingLine "Endpoint" (String.ofList first)).toList ∈
      linesOf (settingLine "Endpoint" shown).toList := by
    rw [lines, linesOf_setting (by decide) firstFree]
    exact List.mem_cons_self
  have same := settingLine_injective (only _ listed (isEndpointLine_setting _))
  rw [← same, String.toList_ofList]

theorem endpointLinesAre_mtu {mtu : Option Int} {line : String} (member : line ∈ mtuLines mtu) :
    EndpointLinesAre endpoint line := by
  obtain ⟨value, plain, rfl⟩ := mtuLines_cases member
  exact endpointLinesAre_other (by decide) (by decide) (plain_unbroken plain)

/-- Of the lines between the address and the key only the DNS and the signatures matter. -/
theorem endpointLinesAre_middle {obf normalized : Obfuscation}
    (isNormal : NormalisedFrom obf normalized) (link : LinkSettings) (mtu : Option Int) :
    (∀ line ∈ middleLines link mtu normalized, EndpointLinesAre endpoint line) ↔
      EndpointLinesAre endpoint (settingLine "DNS" (shownDns link)) ∧
        ∀ line ∈ signatureLines obf, EndpointLinesAre endpoint line := by
  rw [middleLines, List.forall_mem_cons]
  apply and_congr_right
  intro _
  constructor
  · intro all line member
    exact all line (List.mem_append_right _ (signatureLines_subset isNormal member))
  · intro signatures line member
    rcases List.mem_append.mp member with inMtu | inObf
    · exact endpointLinesAre_mtu inMtu
    · rcases obfuscationLines_cases isNormal inObf with
        signature | ⟨key, emitted, value, plain, rfl⟩
      · exact signatures line signature
      · have other : key ≠ "Endpoint" := by
          rintro rfl
          exact absurd emitted (by decide)
        exact endpointLinesAre_other (emitted_named emitted) other (plain_unbroken plain)

end Lines

/-! ### What sanitising leaves of the Endpoint lines -/

theorem prefix_dropWhile {α : Type} {keep : α → Bool} {front whole : List α}
    (leads : front <+: whole) : front.dropWhile keep <+: whole.dropWhile keep := by
  obtain ⟨back, rfl⟩ := leads
  rw [List.dropWhile_append]
  split
  · rename_i empty
    rw [List.isEmpty_iff.mp empty]
    exact List.nil_prefix
  · exact List.prefix_append _ _

theorem prefix_withoutComment (line : List Char) :
    (withoutComment line).dropWhile isSpace <+: line.dropWhile isSpace := by
  have content : (line.rdropWhile isSpace).dropWhile isSpace <+: line.dropWhile isSpace :=
    prefix_dropWhile (List.rdropWhile_prefix isSpace line)
  unfold withoutComment
  dsimp only
  split
  · refine List.IsPrefix.trans ?_ content
    have kept := (List.rdropWhile_prefix isSpace _).trans (List.takeWhile_prefix
      (l := (line.rdropWhile isSpace).dropWhile isSpace) (fun char => !isCommentMark char))
    have visible := @prefix_dropWhile _ isSpace _ _ kept
    rw [List.dropWhile_idempotent] at visible
    exact visible
  · exact content

/-- What is cleaned to an Endpoint line is one. -/
theorem isEndpointLine_cleaned {raw line : List Char} (cleaned : cleanLine raw = some line)
    (isEndpoint : isEndpointLine line = true) : isEndpointLine raw = true := by
  obtain rfl | rfl | rfl | ⟨rfl, -⟩ := cleanLine_cases cleaned
  · exact absurd isEndpoint (by decide)
  · exact absurd isEndpoint (by decide)
  · exact absurd isEndpoint (by decide)
  · rw [isEndpointLine, List.isPrefixOf_iff_prefix] at isEndpoint ⊢
    exact isEndpoint.trans (prefix_withoutComment raw)

/-- A cleaned Endpoint line holds no comment mark. -/
theorem unmarked_of_cleaned {endpoint : String} {raw : List Char}
    (cleaned : cleanLine raw = some (settingLine "Endpoint" endpoint).toList) :
    endpoint.toList.any isCommentMark = false := by
  have isEndpoint := isEndpointLine_setting endpoint
  have ofRest : (settingLine "Endpoint" endpoint).toList = withoutComment raw := by
    obtain empty | header | header | ⟨rest, -⟩ := cleanLine_cases cleaned
    · exact absurd empty (visible_of_endpoint isEndpoint)
    · rw [header] at isEndpoint
      exact absurd isEndpoint (by decide)
    · rw [header] at isEndpoint
      exact absurd isEndpoint (by decide)
    · exact rest
  have unmarked := (withoutComment_spec raw).2
  rw [← ofRest, setting_front (by decide), settingLine_toList, List.any_append, List.any_append,
    Bool.or_eq_false_iff, Bool.or_eq_false_iff] at unmarked
  exact unmarked.2.2

/-- An Endpoint line without a comment mark is left alone. -/
theorem cleanLine_endpoint {endpoint : String} (nonempty : endpoint ≠ "")
    (stripped : strip endpoint = endpoint) (unmarked : endpoint.toList.any isCommentMark = false) :
    cleanLine (settingLine "Endpoint" endpoint).toList =
      some (settingLine "Endpoint" endpoint).toList := by
  have someValue : endpoint.toList ≠ [] := fun empty => nonempty (String.toList_eq_nil_iff.mp empty)
  have trimmed : endpoint.toList.rdropWhile isSpace = endpoint.toList := by
    have ends := stripChars_trimmed endpoint.toList
    have chars := congrArg String.toList stripped
    rw [strip, String.toList_ofList] at chars
    rwa [chars] at ends
  rw [settingLine_toList]
  exact cleanLine_visible_setting (by decide) someValue unmarked trimmed

/-- The lines of a text that is sanitised twice. -/
theorem mem_sanitized_twice {text : String} {rest : List (List Char)}
    (headed : linesOf text.toList = interfaceHeader :: rest) {line : List Char}
    (visible : line ≠ []) :
    line ∈ linesOf (sanitizeAwgConf (sanitizeAwgConf text)).toList ↔
      ∃ raw ∈ linesOf text.toList, cleanLine raw = some line := by
  have once := linesOf_sanitizeAwgConf headed
  obtain ⟨others, again⟩ : ∃ others, pass [] cleanLine (linesOf text.toList) =
      interfaceHeader :: others := by
    rw [headed]
    have headerVisible : interfaceHeader ≠ [] := by decide
    exact LinePasses.pass_cons headerVisible (by decide) rest
  rw [linesOf_sanitizeAwgConf (once.trans again), once, LinePasses.mem_pass visible,
    List.mem_filterMap]
  constructor
  · rintro ⟨middle, inPass, cleaned⟩
    have middleVisible : middle ≠ [] := by
      rintro rfl
      exact visible (Option.some.inj cleaned).symm
    obtain ⟨raw, isRaw, first⟩ := List.mem_filterMap.mp
      ((LinePasses.mem_pass middleVisible _).mp inPass)
    obtain rfl := Option.some.inj ((cleanLine_idempotent raw middle first).symm.trans cleaned)
    exact ⟨raw, isRaw, first⟩
  · rintro ⟨raw, isRaw, first⟩
    exact ⟨line, (LinePasses.mem_pass visible _).mpr (List.mem_filterMap.mpr ⟨raw, isRaw, first⟩),
      cleanLine_idempotent raw line first⟩

/-- Sanitising leaves the endpoint of a text alone exactly if it holds no comment mark. -/
theorem shows_sanitized_iff {text endpoint : String} {rest : List (List Char)}
    (headed : linesOf text.toList = interfaceHeader :: rest) (nonempty : endpoint ≠ "")
    (stripped : strip endpoint = endpoint) (shows : ShowsEndpoint endpoint text) :
    ShowsEndpoint endpoint (sanitizeAwgConf (sanitizeAwgConf text)) ↔
      endpoint.toList.any isCommentMark = false := by
  have visible := visible_of_endpoint (isEndpointLine_setting endpoint)
  constructor
  · rintro ⟨listed, -⟩
    obtain ⟨raw, -, cleaned⟩ := (mem_sanitized_twice headed visible).mp listed
    exact unmarked_of_cleaned cleaned
  · intro unmarked
    have stays := cleanLine_endpoint nonempty stripped unmarked
    refine ⟨(mem_sanitized_twice headed visible).mpr ⟨_, shows.1, stays⟩, ?_⟩
    intro line listed isEndpoint
    obtain ⟨raw, isRaw, cleaned⟩ :=
      (mem_sanitized_twice headed (visible_of_endpoint isEndpoint)).mp listed
    rw [shows.2 raw isRaw (isEndpointLine_cleaned cleaned isEndpoint)] at cleaned
    exact (Option.some.inj (stays.symm.trans cleaned)).symm

/-! ### The endpoint of a call -/

theorem length_stripChars (chars : List Char) : (stripChars chars).length ≤ chars.length := by
  have trimmed := (prefix_stripChars chars).length_le
  have dropped := (List.dropWhile_suffix (p := isSpace) (l := chars)).length_le
  exact le_trans trimmed dropped

/-- If an accepted text goes on after an endpoint, its port holds that of the endpoint. -/
theorem continued_port {shown endpoint more host port : List Char}
    (parts : endpointParts shown = .ok (host, port)) (valid : isPort port = true)
    (whole : shown = endpoint ++ '\n' :: more)
    (accepted : ∃ halves, endpointParts (stripChars endpoint) = .ok halves) :
    ∃ front last, endpoint = front ++ ':' :: last ∧ ':' ∉ last ∧ port = last ++ '\n' :: more := by
  obtain ⟨⟨askedHost, askedPort⟩, asked⟩ := accepted
  have noColon := (not_mem_port valid).1
  rcases endpointParts_eq_ok.mp parts with ⟨bracketed, closed, -⟩ | ⟨plain, -, isHost⟩
  · cases endpoint with
    | nil => cases asked
    | cons first rest =>
        rw [List.cons_append] at whole
        obtain ⟨rfl, tails⟩ := List.cons.inj (bracketed.symm.trans whole)
        obtain ⟨stripped, isStripped⟩ :=
          stripChars_cons_visible (by decide : isSpace '[' = false) rest
        have inRest : ']' ∈ rest := by
          rcases endpointParts_eq_ok.mp asked with ⟨form, -⟩ | ⟨form, -, isHost⟩
          · have inside : ']' ∈ stripChars ('[' :: rest) := by
              rw [form]
              exact List.mem_cons_of_mem _ (List.mem_append_right _ List.mem_cons_self)
            rcases List.mem_cons.mp (stripChars_subset _ inside) with impossible | member
            · exact absurd impossible (by decide)
            · exact member
          · obtain ⟨other, others, rfl, different⟩ := isHost.head?
            rw [isStripped] at form
            exact absurd (List.cons.inj form).1.symm different
        obtain ⟨split, free⟩ := partition_of_mem inRest
        generalize (partition ']' rest).1 = before at split free
        generalize (partition ']' rest).2 = after at split
        rw [split, List.append_assoc, List.cons_append] at tails
        obtain ⟨rfl, ends⟩ := separator_inj closed free tails
        cases after with
        | nil => exact absurd (List.cons.inj ends).1 (by decide)
        | cons mark last =>
            obtain ⟨rfl, rfl⟩ := List.cons.inj ends
            refine ⟨'[' :: (host ++ [']']), last, by rw [split]; simp, ?_, rfl⟩
            exact fun member => noColon (List.mem_append_left _ member)
  · obtain ⟨askedFront, colon⟩ := parts_colon asked
    have inEndpoint : ':' ∈ endpoint := by
      refine stripChars_subset endpoint ?_
      rw [colon]
      exact List.mem_append_right _ List.mem_cons_self
    obtain ⟨split, free⟩ := partition_of_mem inEndpoint
    generalize (partition ':' endpoint).1 = front at split free
    generalize (partition ':' endpoint).2 = last at split
    have tails := plain.symm.trans whole
    rw [split, List.append_assoc, List.cons_append] at tails
    obtain ⟨rfl, rfl⟩ := separator_inj (askedText_of_accepted isHost).1 free tails
    exact ⟨host, last, split, fun member => noColon (List.mem_append_left _ member), rfl⟩

/-- The port is what stands after the last colon. -/
theorem endpointPort_eq {endpoint : String} {front last : List Char}
    (split : endpoint.toList = front ++ ':' :: last) (free : ':' ∉ last) :
    (endpointPort endpoint).toList = stripChars last := by
  have colon : ':' ∈ endpoint.toList := by
    rw [split]
    exact List.mem_append_right _ List.mem_cons_self
  rw [endpointPort, if_pos colon, String.toList_ofList, split, List.splitOn_append_cons_self,
    List.splitOn_eq_singleton free, List.getLastD_concat]

/-- A stripped host and a stripped port need no stripping together. -/
theorem strip_hostPort {host port : List Char} (nonempty : stripChars host ≠ []) :
    stripChars (stripChars host ++ ':' :: stripChars port) =
      stripChars host ++ ':' :: stripChars port := by
  refine (stripChars_of_ends ?_ ?_).2.2
  · intro char atHead
    obtain ⟨first, rest, stripped⟩ := List.exists_cons_of_ne_nil nonempty
    rw [stripped] at atHead
    obtain rfl := Option.some.inj atHead
    exact isSpace_of_stripChars_cons stripped
  · intro char atEnd
    rw [List.getLast?_append_of_ne_nil _ (List.cons_ne_nil _ _)] at atEnd
    by_cases empty : stripChars port = []
    · rw [empty] at atEnd
      obtain rfl := Option.some.inj atEnd
      decide
    · rw [List.getLast?_cons_of_ne_nil empty] at atEnd
      exact isSpace_of_trimmed (stripChars_trimmed port) atEnd

theorem endpoint_split {endpoint : List Char}
    (accepted : ∃ halves, endpointParts (stripChars endpoint) = .ok halves) :
    ∃ front last, endpoint = front ++ ':' :: last ∧ ':' ∉ last := by
  obtain ⟨⟨host, port⟩, parts⟩ := accepted
  obtain ⟨front, colon⟩ := parts_colon parts
  have inside : ':' ∈ endpoint := by
    refine stripChars_subset endpoint ?_
    rw [colon]
    exact List.mem_append_right _ List.mem_cons_self
  obtain ⟨split, free⟩ := rpartition_of_mem inside
  exact ⟨_, _, split, free⟩

section Shown

variable {settings : IssueSettings} {sources : LiveSources} {answers : RuntimeAnswers}
  {server : IssueServer} {endpoint : String}
  (stored : server.vpnEndpoint = some endpoint)
  (accepted : ∃ halves, endpointParts (stripChars endpoint.toList) = .ok halves)

include stored accepted

/-- The endpoint of the row is emitted, or the default host with its port. -/
theorem shownEndpoint_cases :
    shownEndpoint settings sources answers server =
      if isEndpointPrivate endpoint = true ∧ settings.defaultHost ≠ "" then
        settings.defaultHost ++ ":" ++ endpointPort endpoint
      else strip endpoint := by
  obtain ⟨front, last, split, free⟩ := endpoint_split accepted
  have nonempty : endpoint ≠ "" := by
    rintro rfl
    simp at split
  have chosen : chosenEndpoint settings sources answers server = .str endpoint := by
    rw [chosenEndpoint, stored, Option.bind_some, orNone, if_neg nonempty]
  rw [shownEndpoint, clientEndpoint, chosen]
  dsimp only
  rw [if_neg nonempty]
  split
  · rename_i replaced
    have hostChars : settings.defaultHost.toList = stripChars settings.vpnDefaultHost.toList := by
      rw [IssueSettings.defaultHost, strip, String.toList_ofList]
    have someHost : stripChars settings.vpnDefaultHost.toList ≠ [] := by
      rw [← hostChars]
      exact fun empty => replaced.2 (String.toList_eq_nil_iff.mp empty)
    have text : (settings.defaultHost ++ ":" ++ endpointPort endpoint).toList =
        stripChars settings.vpnDefaultHost.toList ++ ':' :: stripChars last := by
      rw [String.toList_append, String.toList_append, hostChars, endpointPort_eq split free,
        List.append_assoc]
      rfl
    rw [Option.getD_some, strip, text, strip_hostPort someHost, ← text, String.ofList_toList]
  · rfl

/-- What is emitted does not go on after the endpoint of the row. -/
theorem shownEndpoint_not_continued {more : List Char}
    (emitted : ∃ host port,
      endpointParts (shownEndpoint settings sources answers server).toList = .ok (host, port) ∧
        isPort port = true) :
    (shownEndpoint settings sources answers server).toList ≠ endpoint.toList ++ '\n' :: more := by
  intro whole
  obtain ⟨host, port, parts, valid⟩ := emitted
  obtain ⟨front, last, split, free, continued⟩ := continued_port parts valid whole accepted
  have replaced := @shownEndpoint_cases settings sources answers _ _ stored accepted
  have longer := congrArg List.length whole
  rw [List.length_append, List.length_cons] at longer
  split_ifs at replaced
  · obtain ⟨ahead, colon⟩ := parts_colon parts
    rw [replaced, String.toList_append, String.toList_append, endpointPort_eq split free,
      List.append_assoc] at colon
    have portFree : ':' ∉ stripChars last := fun member => free (stripChars_subset last member)
    have samePort := (last_separator_inj portFree (not_mem_port valid).1 colon).2
    have shorter := length_stripChars last
    rw [samePort, continued, List.length_append, List.length_cons] at shorter
    omega
  · have shorter := length_stripChars endpoint.toList
    rw [replaced, strip, String.toList_ofList] at longer
    omega

/-- The emitted Endpoint line is that of the row exactly when the emitted endpoint is, and
stands in one line. -/
theorem endpointLinesAre_shown
    (emitted : ∃ host port,
      endpointParts (shownEndpoint settings sources answers server).toList = .ok (host, port) ∧
        isPort port = true) :
    EndpointLinesAre endpoint
        (settingLine "Endpoint" (shownEndpoint settings sources answers server)) ↔
      shownEndpoint settings sources answers server = endpoint ∧ '\n' ∉ endpoint.toList := by
  constructor
  · intro only
    by_cases broken : '\n' ∈ (shownEndpoint settings sources answers server).toList
    · obtain ⟨split, free⟩ := partition_of_mem broken
      rw [first_of_endpointLinesAre split free only] at split
      exact absurd split (shownEndpoint_not_continued stored accepted emitted)
    · have first := only _ (by
        rw [linesOf_setting (by decide) broken]
        exact List.mem_cons_self) (isEndpointLine_setting _)
      have same := settingLine_injective first
      exact ⟨same, same ▸ broken⟩
  · rintro ⟨same, unbroken⟩ line member _
    rw [same, linesOf_setting (by decide) unbroken] at member
    exact List.mem_singleton.mp member

end Shown

/-! ### The configurations of a call -/

/-- All configurations of a call show the endpoint. -/
structure ConfigsShow (endpoint : String) (configs : ClientConfigs) : Prop where
  awg : ShowsEndpoint endpoint configs.awg
  wgObf : ShowsEndpoint endpoint configs.wgObf
  wg : ShowsEndpoint endpoint configs.wg

theorem clientDns_ne_empty {server : IssueServer} {dns : String}
    (read : clientDns server = .ok dns) : dns ≠ "" := by
  have default : defaultDns ≠ "" := by decide
  have chosen : ∀ text, (do
      let text ← text
      if text = "" then .ok defaultDns
      else if strip (String.ofList (text.toList.filter (fun char => char ≠ ' '))) =
          "1.1.1.1,1.0.0.1" then .ok defaultDns
      else .ok text : Except ProfileError String) = .ok dns → dns ≠ "" := by
    intro text returned
    obtain ⟨text, -, step⟩ := bind_eq_ok.mp returned
    split_ifs at step with empty usual
    · exact Except.ok.inj step ▸ default
    · exact Except.ok.inj step ▸ default
    · exact Except.ok.inj step ▸ empty
  unfold clientDns at read
  dsimp only at read
  split at read
  · split at read
    · exact chosen _ read
    · exact chosen _ read
  · exact Except.ok.inj read ▸ default

theorem linkSettings_dns {server : IssueServer} {link : LinkSettings}
    (linked : linkSettings server = .ok link) : link.dns ≠ "" := by
  obtain ⟨dns, read, step⟩ := bind_eq_ok.mp linked
  obtain ⟨mtu, -, step⟩ := bind_eq_ok.mp step
  obtain ⟨keepalive, -, made⟩ := bind_eq_ok.mp step
  obtain rfl := Except.ok.inj made
  exact clientDns_ne_empty read

section Call

variable {settings : IssueSettings} {sources : LiveSources} {answers : RuntimeAnswers}
  {server : IssueServer} {endpoint serverKey allowedIps : String} {link : LinkSettings}
  {obf : Obfuscation} {keys : ClientKeys} {configs : ClientConfigs}

/-- The two obfuscated configurations differ in the DNS that is not used. -/
theorem builtConfigs_wgObf (linked : linkSettings server = .ok link)
    (built : builtConfigs settings sources answers server serverKey allowedIps link obf keys =
      .ok configs) : configs.wgObf = configs.awg := by
  unfold builtConfigs at built
  split at built
  · cases built
  · rename_i result returned
    obtain rfl := Except.ok.inj built
    obtain ⟨awg, awgBuilt, step⟩ := bind_eq_ok.mp returned
    obtain ⟨wgObf, wgObfBuilt, step⟩ := bind_eq_ok.mp step
    obtain ⟨wg, _, step⟩ := bind_eq_ok.mp step
    obtain rfl := Except.ok.inj step
    have given : ∀ default, orDefault (some link.dns) default = link.dns :=
      fun default => if_neg (linkSettings_dns linked)
    simp only [buildAmneziaClientConfig, ConfigRequest.interface, configRequest, given] at awgBuilt
    simp only [buildWgObfuscatedConfig, ConfigRequest.interface, configRequest, given]
      at wgObfBuilt
    exact Except.ok.inj (wgObfBuilt.symm.trans awgBuilt)

/-- The emitted endpoint is accepted. -/
theorem builtConfigs_endpoint
    (built : builtConfigs settings sources answers server serverKey allowedIps link obf keys =
      .ok configs) :
    ∃ host port,
      endpointParts (shownEndpoint settings sources answers server).toList = .ok (host, port) ∧
        isPort port = true := by
  unfold builtConfigs at built
  split at built
  · cases built
  · rename_i result returned
    obtain ⟨awg, awgBuilt, -⟩ := bind_eq_ok.mp returned
    obtain ⟨_, _, checked, -⟩ := buildConfig_ok awgBuilt
    obtain ⟨shown, accepted⟩ := validateEndpoint_eq_ok.mp checked.endpoint
    rw [shown] at accepted
    exact accepted

/-- A configuration shows the endpoint of the row exactly when that is what is emitted, and
nothing else in it is an Endpoint line. -/
theorem shows_layout_iff (stored : server.vpnEndpoint = some endpoint)
    (accepted : ∃ halves, endpointParts (stripChars endpoint.toList) = .ok halves)
    (emitted : ∃ host port,
      endpointParts (shownEndpoint settings sources answers server).toList = .ok (host, port) ∧
        isPort port = true)
    {values : ClientValues} (wellFormed : values.WellFormed) (middle : List String)
    (keepalive : Int) :
    ShowsEndpoint endpoint (join "\n" (layout middle
        (shownEndpoint settings sources answers server) (toString keepalive) values) ++ "\n") ↔
      EndpointLinesAre endpoint (settingLine "Address" values.address) ∧
        (∀ line ∈ middle, EndpointLinesAre endpoint line) ∧
        shownEndpoint settings sources answers server = endpoint ∧ '\n' ∉ endpoint.toList := by
  have tokens := toString_tokens keepalive
  rw [ShowsEndpoint, endpointLinesAre_layout wellFormed middle _
    (isPlainValue_of_tokens tokens.1 tokens.2), endpointLinesAre_shown stored accepted emitted]
  refine and_iff_right_of_imp ?_
  rintro ⟨-, -, same, unbroken⟩
  rw [mem_lines_join (layout_ne_nil _ _ _ _)
    (visible_of_endpoint (isEndpointLine_setting endpoint))]
  refine ⟨settingLine "Endpoint" endpoint, by simp [layout, same], ?_⟩
  rw [linesOf_setting (by decide) unbroken]
  exact List.mem_cons_self

theorem configsShow_iff (stored : server.vpnEndpoint = some endpoint)
    (accepted : ∃ halves, endpointParts (stripChars endpoint.toList) = .ok halves)
    (tunnel : allowedIps = "0.0.0.0/0" ∨ allowedIps = fullTunnel)
    (linked : linkSettings server = .ok link)
    (built : builtConfigs settings sources answers server serverKey allowedIps link obf keys =
      .ok configs) :
    ConfigsShow endpoint configs ↔
      EndpointLinesAre endpoint (settingLine "Address" (clientAddress keys)) ∧
        (EndpointLinesAre endpoint (settingLine "DNS" (shownDns link)) ∧
          ∀ line ∈ signatureLines obf, EndpointLinesAre endpoint line) ∧
        shownEndpoint settings sources answers server = endpoint ∧ '\n' ∉ endpoint.toList := by
  have emitted := builtConfigs_endpoint built
  have sameObf := builtConfigs_wgObf linked built
  obtain ⟨normalized, call⟩ := builtConfigs_layout tunnel built
  have isNormal := normalizedObfuscation_ok (selectAwgProfile_obfuscates (some obf)) call.isNormal
  have awg := shows_layout_iff stored accepted emitted call.wellFormed
    (middleLines link (effectiveMtu (selectAwgProfile (some obf)) (some link.mtu)) normalized)
    link.keepalive
  have wg := shows_layout_iff stored accepted emitted call.wellFormed
    (middleLines link (effectiveMtu .wireguardUniversal (some link.mtu)) Dict.empty) link.keepalive
  rw [← call.awg, endpointLinesAre_middle isNormal] at awg
  rw [← call.wg] at wg
  refine Iff.trans ?_ awg
  constructor
  · exact fun shows => shows.awg
  · intro shows
    refine ⟨shows, sameObf ▸ shows, ?_⟩
    obtain ⟨address, ⟨dns, -⟩, shown⟩ := awg.mp shows
    refine wg.mpr ⟨address, ?_, shown⟩
    intro line member
    rcases List.mem_cons.mp member with rfl | later
    · exact dns
    · rcases List.mem_append.mp later with inMtu | inObf
      · exact endpointLinesAre_mtu inMtu
      · obtain ⟨key, -, value, stored, -⟩ := mem_obfuscationLines.mp inObf
        cases stored

/-- The first configuration begins with its header. -/
theorem builtConfigs_headed (tunnel : allowedIps = "0.0.0.0/0" ∨ allowedIps = fullTunnel)
    (built : builtConfigs settings sources answers server serverKey allowedIps link obf keys =
      .ok configs) : ∃ rest, linesOf configs.awg.toList = interfaceHeader :: rest := by
  obtain ⟨normalized, call⟩ := builtConfigs_layout tunnel built
  rw [call.awg, linesOf_join (layout_ne_nil _ _ _ _)]
  exact ⟨_, rfl⟩

/-- The configurations of an administrative issue show the endpoint exactly when the ones that
were built do, and the endpoint holds no comment mark. -/
theorem configsShow_sanitized_iff (nonempty : endpoint ≠ "") (stripped : strip endpoint = endpoint)
    (tunnel : allowedIps = "0.0.0.0/0" ∨ allowedIps = fullTunnel)
    (linked : linkSettings server = .ok link)
    (built : builtConfigs settings sources answers server serverKey allowedIps link obf keys =
      .ok configs) :
    ConfigsShow endpoint { configs with awg := sanitizeAwgConf (sanitizeAwgConf configs.awg) } ↔
      ConfigsShow endpoint configs ∧ endpoint.toList.any isCommentMark = false := by
  have sameObf := builtConfigs_wgObf linked built
  obtain ⟨rest, headed⟩ := builtConfigs_headed tunnel built
  constructor
  · rintro ⟨awg, wgObf, wg⟩
    dsimp only at awg wgObf wg
    have shows : ShowsEndpoint endpoint configs.awg := sameObf ▸ wgObf
    exact ⟨⟨shows, wgObf, wg⟩, (shows_sanitized_iff headed nonempty stripped shows).mp awg⟩
  · rintro ⟨⟨awg, wgObf, wg⟩, unmarked⟩
    exact ⟨(shows_sanitized_iff headed nonempty stripped awg).mpr unmarked, wgObf, wg⟩

end Call

/-! ### When exactly a public endpoint is emitted -/

section Law

variable {settings : IssueSettings} {sources : LiveSources} {answers : RuntimeAnswers}
  {server : IssueServer} {endpoint shown : String} {host port : List Char}
  {issued admin rotated : ClientKeys} {first second third : ClientConfigs}

/-- The endpoint is one clean line and is not replaced, and no line of the addresses, the DNS or
the signatures is taken for another Endpoint line. -/
structure EmittedAsConfigured (settings : IssueSettings) (sources : LiveSources)
    (answers : RuntimeAnswers) (server : IssueServer) (endpoint : String) (host : List Char)
    (issued admin rotated : ClientKeys) : Prop where
  unreplaced : (parseIpv4 host).isSome = true ∨ settings.defaultHost = "" ∨
    settings.defaultHost ++ ":" ++ endpointPort endpoint = endpoint
  stripped : strip endpoint = endpoint
  oneLine : '\n' ∉ endpoint.toList
  unmarked : endpoint.toList.any isCommentMark = false
  addresses : ∀ keys ∈ [issued, admin, rotated],
    EndpointLinesAre endpoint (settingLine "Address" (clientAddress keys))
  dns : ∀ link, linkSettings server = .ok link →
    EndpointLinesAre endpoint (settingLine "DNS" (shownDns link))
  signatures : ∀ obf, clientObfuscation settings sources answers server = .ok obf →
    ∀ line ∈ signatureLines obf, EndpointLinesAre endpoint line

/-- A public host in one line is called private unless it is in IPv4 form. -/
theorem isEndpointPrivate_public (parts : endpointParts (strip endpoint).toList = .ok (host, port))
    (isPublic : isPublicHost host = true) (oneLine : '\n' ∉ (strip endpoint).toList) :
    isEndpointPrivate endpoint = true ↔ ¬ (parseIpv4 host).isSome = true := by
  rw [isEndpointPrivate_iff parts]
  cases read : parseIpv4 host with
  | some octets =>
      refine iff_of_false ?_ (fun unread => unread rfl)
      intro all
      rw [isPublicHost, read] at isPublic
      rw [stripChars_ipv4 read] at all
      have isGlobal : isGlobalIpv4 octets = true := isPublic
      rw [isGlobalIpv4, all octets read, Bool.not_true, Bool.and_false] at isGlobal
      cases isGlobal
  | none =>
      refine iff_of_true ?_ (fun absent => by cases absent)
      intro octets inside
      rcases endpointParts_eq_ok.mp parts with ⟨-, -, version⟩ | ⟨whole, -, version | named⟩
      · have colon : ':' ∈ stripChars host := mem_stripChars (colon_of_ipv6 version) (by decide)
        exact absurd (hostChar_of_parseIpv4 inside colon) (by decide)
      · have form := parseIpv4_of_version version
        rw [read] at form
        cases form
      · have visible : ∀ char ∈ host, isSpace char = false := by
          intro char member
          refine isSpace_of_hostname named (fun feed => oneLine ?_) member
          rw [whole]
          exact List.mem_append_left _ feed
        rw [(stripChars_of_ends (fun char atHead => visible char (List.mem_of_mem_head? atHead))
          (fun char atEnd => visible char (List.mem_of_mem_getLast? atEnd))).2.2, read] at inside
        cases inside

/-- The emitted endpoint is that of the row exactly when that is stripped and not replaced. -/
theorem shownEndpoint_eq_iff (stored : server.vpnEndpoint = some endpoint)
    (parts : endpointParts (strip endpoint).toList = .ok (host, port))
    (isPublic : isPublicHost host = true) (oneLine : '\n' ∉ endpoint.toList) :
    shownEndpoint settings sources answers server = endpoint ↔
      strip endpoint = endpoint ∧ ((parseIpv4 host).isSome = true ∨ settings.defaultHost = "" ∨
        settings.defaultHost ++ ":" ++ endpointPort endpoint = endpoint) := by
  have accepted : ∃ halves, endpointParts (stripChars endpoint.toList) = .ok halves := by
    rw [strip, String.toList_ofList] at parts
    exact ⟨_, parts⟩
  have strippedLine : '\n' ∉ (strip endpoint).toList := by
    rw [strip, String.toList_ofList]
    exact fun member => oneLine (stripChars_subset _ member)
  have isPrivate := isEndpointPrivate_public parts isPublic strippedLine
  have emitted := @shownEndpoint_cases settings sources answers _ _ stored accepted
  constructor
  · intro same
    have stripped : strip endpoint = endpoint := by
      rw [← same, shownEndpoint, strip_strip]
    refine ⟨stripped, ?_⟩
    by_cases noHost : settings.defaultHost = ""
    · exact Or.inr (Or.inl noHost)
    · by_cases form : (parseIpv4 host).isSome = true
      · exact Or.inl form
      · rw [if_pos ⟨isPrivate.mpr form, noHost⟩] at emitted
        exact Or.inr (Or.inr (emitted.symm.trans same))
  · rintro ⟨stripped, unreplaced⟩
    rw [emitted]
    split
    · rename_i replaced
      rcases unreplaced with form | noHost | same
      · exact absurd form (isPrivate.mp replaced.1)
      · exact absurd noHost replaced.2
      · exact same
    · exact stripped

/-- Issued for a server with a public endpoint, all configurations show it exactly when it is
emitted as configured. -/
theorem emitted_iff (stored : server.vpnEndpoint = some endpoint)
    (parts : endpointParts (strip endpoint).toList = .ok (host, port))
    (isPublic : isPublicHost host = true)
    (issue : issueConfigs settings sources answers server issued = .ok first)
    (adminIssue : adminIssueConfigs settings sources answers server admin = .ok second)
    (rotate : rotateConfigs settings sources answers server rotated = .ok third) :
    (ConfigsShow endpoint first ∧ ConfigsShow endpoint second ∧ ConfigsShow endpoint third) ↔
      EmittedAsConfigured settings sources answers server endpoint host issued admin rotated := by
  have accepted : ∃ halves, endpointParts (stripChars endpoint.toList) = .ok halves := by
    rw [strip, String.toList_ofList] at parts
    exact ⟨_, parts⟩
  have nonempty : endpoint ≠ "" := by
    obtain ⟨front, last, split, -⟩ := endpoint_split accepted
    rintro rfl
    simp at split
  obtain ⟨issueKey, link, obf, _, linked, obfuscated, issueBuilt⟩ := issueConfigs_ok issue
  obtain ⟨adminKey, sameLink, sameObf, raw, _, linkedAgain, obfuscatedAgain, adminBuilt, rfl⟩ :=
    adminIssueConfigs_ok adminIssue
  obtain rfl := Except.ok.inj (linked.symm.trans linkedAgain)
  obtain rfl := Except.ok.inj (obfuscated.symm.trans obfuscatedAgain)
  obtain ⟨rotateKey, sameLink, sameObf, _, linkedThird, obfuscatedThird, rotateBuilt⟩ :=
    rotateConfigs_ok rotate
  obtain rfl := Except.ok.inj (linked.symm.trans linkedThird)
  obtain rfl := Except.ok.inj (obfuscated.symm.trans obfuscatedThird)
  have tunnel := allowedIpsFullTunnel_cases server
  have firstShows := configsShow_iff stored accepted tunnel linked issueBuilt
  have rawShows := configsShow_iff stored accepted tunnel linked adminBuilt
  have thirdShows := configsShow_iff stored accepted (Or.inr rfl) linked rotateBuilt
  constructor
  · rintro ⟨issueShows, adminShows, rotateShows⟩
    obtain ⟨issueAddress, ⟨dns, signatures⟩, same, oneLine⟩ := firstShows.mp issueShows
    obtain ⟨stripped, unreplaced⟩ :=
      (shownEndpoint_eq_iff stored parts isPublic oneLine).mp same
    obtain ⟨rawShown, unmarked⟩ :=
      (configsShow_sanitized_iff nonempty stripped tunnel linked adminBuilt).mp adminShows
    refine ⟨unreplaced, stripped, oneLine, unmarked, ?_, ?_, ?_⟩
    · simp only [List.forall_mem_cons]
      exact ⟨issueAddress, (rawShows.mp rawShown).1, (thirdShows.mp rotateShows).1,
        fun _ absent => by cases absent⟩
    · intro other linkedOther
      obtain rfl := Except.ok.inj (linked.symm.trans linkedOther)
      exact dns
    · intro other obfuscatedOther
      obtain rfl := Except.ok.inj (obfuscated.symm.trans obfuscatedOther)
      exact signatures
  · intro condition
    have same : shownEndpoint settings sources answers server = endpoint :=
      (shownEndpoint_eq_iff stored parts isPublic condition.oneLine).mpr
        ⟨condition.stripped, condition.unreplaced⟩
    have lines := condition.addresses
    simp only [List.forall_mem_cons] at lines
    obtain ⟨issueAddress, adminAddress, rotateAddress, -⟩ := lines
    have dns := condition.dns link linked
    have signatures := condition.signatures obf obfuscated
    have rawShown := rawShows.mpr ⟨adminAddress, ⟨dns, signatures⟩, same, condition.oneLine⟩
    exact ⟨firstShows.mpr ⟨issueAddress, ⟨dns, signatures⟩, same, condition.oneLine⟩,
      (configsShow_sanitized_iff nonempty condition.stripped tunnel linked adminBuilt).mpr
        ⟨rawShown, condition.unmarked⟩,
      thirdShows.mpr ⟨rotateAddress, ⟨dns, signatures⟩, same, condition.oneLine⟩⟩

/-- The host that validation finds in an endpoint. -/
def endpointHost (endpoint : String) : List Char :=
  match endpointParts (strip endpoint).toList with
  | .ok (host, _) => host
  | .error _ => []

/-- A public endpoint that is accepted is emitted by the three calls exactly when it is emitted as
configured; and the code calls an accepted endpoint private as it should exactly for the hosts
that are rightly classified. -/
theorem public_endpoint_iff (stored : server.vpnEndpoint = some endpoint)
    (accepted : validateEndpoint endpoint = .ok shown)
    (issue : issueConfigs settings sources answers server issued = .ok first)
    (adminIssue : adminIssueConfigs settings sources answers server admin = .ok second)
    (rotate : rotateConfigs settings sources answers server rotated = .ok third) :
    (isPublicHost (endpointHost endpoint) = true →
        ((ConfigsShow endpoint first ∧ ConfigsShow endpoint second ∧ ConfigsShow endpoint third) ↔
          EmittedAsConfigured settings sources answers server endpoint (endpointHost endpoint) issued
            admin rotated)) ∧
      ((isEndpointPrivate endpoint = true ↔ isPrivateHost (endpointHost endpoint) = true) ↔
        RightlyClassified (endpointHost endpoint)) := by
  obtain ⟨rfl, host, port, parts, -⟩ := validateEndpoint_eq_ok.mp accepted
  have sameHost : endpointHost endpoint = host := by rw [endpointHost, parts]
  rw [sameHost]
  exact ⟨fun isPublic => emitted_iff stored parts isPublic issue adminIssue rotate,
    classified_iff parts⟩

end Law

/-! ### Endpoints of a server -/

/-- The node of the samples, at the endpoint. -/
def serverAt (endpoint : String) : IssueServer :=
  { sampleIssueServer [] false with vpnEndpoint := some endpoint }

/-- An IPv4 address is emitted, whatever the default host. -/
theorem ipv4_endpoint_is_emitted :
    ∃ first second third,
      issueConfigs sampleIssueSettings sampleLiveSources sampleAnswers (serverAt "8.8.8.8:51820")
        (sampleClientKeys "10.8.1.2/32") = .ok first ∧
      adminIssueConfigs sampleIssueSettings sampleLiveSources sampleAnswers
        (serverAt "8.8.8.8:51820") (sampleClientKeys "10.8.1.3/32") = .ok second ∧
      rotateConfigs sampleIssueSettings sampleLiveSources sampleAnswers
        (serverAt "8.8.8.8:51820") (sampleClientKeys "10.8.1.4/32") = .ok third ∧
      ConfigsShow "8.8.8.8:51820" first ∧ ConfigsShow "8.8.8.8:51820" second ∧
      ConfigsShow "8.8.8.8:51820" third := by
  obtain ⟨first, issue⟩ := ok_of_isSome (by decide +kernel :
    (issueConfigs sampleIssueSettings sampleLiveSources sampleAnswers (serverAt "8.8.8.8:51820")
      (sampleClientKeys "10.8.1.2/32")).toOption.isSome = true)
  obtain ⟨second, adminIssue⟩ := ok_of_isSome (by decide +kernel :
    (adminIssueConfigs sampleIssueSettings sampleLiveSources sampleAnswers
      (serverAt "8.8.8.8:51820") (sampleClientKeys "10.8.1.3/32")).toOption.isSome = true)
  obtain ⟨third, rotate⟩ := ok_of_isSome (by decide +kernel :
    (rotateConfigs sampleIssueSettings sampleLiveSources sampleAnswers
      (serverAt "8.8.8.8:51820") (sampleClientKeys "10.8.1.4/32")).toOption.isSome = true)
  have accepted : validateEndpoint "8.8.8.8:51820" = .ok "8.8.8.8:51820" := by decide +kernel
  refine ⟨first, second, third, issue, adminIssue, rotate, ?_⟩
  refine ((public_endpoint_iff rfl accepted issue adminIssue rotate).1 (by decide +kernel)).mpr ?_
  have addresses : ∀ text : String, '\n' ∉ text.toList →
      EndpointLinesAre "8.8.8.8:51820" (settingLine "Address" text) :=
    fun text unbroken => endpointLinesAre_other (by decide) (by decide) unbroken
  have dns : (linkSettings (serverAt "8.8.8.8:51820")).toOption.all (fun link =>
      decide ('\n' ∉ (shownDns link).toList)) = true := by decide +kernel
  have signatures : (clientObfuscation sampleIssueSettings sampleLiveSources sampleAnswers
      (serverAt "8.8.8.8:51820")).toOption.all (fun obf => signatureLines obf = []) = true := by
    decide +kernel
  refine ⟨by decide +kernel, by decide +kernel, by decide, by decide, ?_, ?_, ?_⟩
  · simp only [List.forall_mem_cons]
    exact ⟨addresses _ (by decide +kernel), addresses _ (by decide +kernel),
      addresses _ (by decide +kernel), fun _ absent => by cases absent⟩
  · intro link linked
    rw [linked] at dns
    exact endpointLinesAre_other (by decide) (by decide) (of_decide_eq_true dns)
  · intro obf obfuscated line member
    rw [obfuscated] at signatures
    rw [of_decide_eq_true signatures] at member
    cases member

/-- A name gives way to the default host, and an IPv6 address is called private. -/
theorem public_endpoint_is_replaced :
    (∃ first second third,
      issueConfigs sampleIssueSettings sampleLiveSources sampleAnswers
        (serverAt "node-1.example.net:51820") (sampleClientKeys "10.8.1.2/32") = .ok first ∧
      adminIssueConfigs sampleIssueSettings sampleLiveSources sampleAnswers
        (serverAt "node-1.example.net:51820") (sampleClientKeys "10.8.1.3/32") = .ok second ∧
      rotateConfigs sampleIssueSettings sampleLiveSources sampleAnswers
        (serverAt "node-1.example.net:51820") (sampleClientKeys "10.8.1.4/32") = .ok third ∧
      ¬ (ConfigsShow "node-1.example.net:51820" first ∧
        ConfigsShow "node-1.example.net:51820" second ∧
        ConfigsShow "node-1.example.net:51820" third)) ∧
      validateEndpoint "[2606:4700::1111]:51820" = .ok "[2606:4700::1111]:51820" ∧
      isPublicHost (endpointHost "[2606:4700::1111]:51820") = true ∧
      isPrivateHost (endpointHost "[2606:4700::1111]:51820") = false ∧
      isEndpointPrivate "[2606:4700::1111]:51820" = true := by
  obtain ⟨first, issue⟩ := ok_of_isSome (by decide +kernel :
    (issueConfigs sampleIssueSettings sampleLiveSources sampleAnswers
      (serverAt "node-1.example.net:51820")
      (sampleClientKeys "10.8.1.2/32")).toOption.isSome = true)
  obtain ⟨second, adminIssue⟩ := ok_of_isSome (by decide +kernel :
    (adminIssueConfigs sampleIssueSettings sampleLiveSources sampleAnswers
      (serverAt "node-1.example.net:51820")
      (sampleClientKeys "10.8.1.3/32")).toOption.isSome = true)
  obtain ⟨third, rotate⟩ := ok_of_isSome (by decide +kernel :
    (rotateConfigs sampleIssueSettings sampleLiveSources sampleAnswers
      (serverAt "node-1.example.net:51820")
      (sampleClientKeys "10.8.1.4/32")).toOption.isSome = true)
  refine ⟨⟨first, second, third, issue, adminIssue, rotate, ?_⟩, by decide +kernel,
    by decide +kernel, by decide +kernel, by decide +kernel⟩
  intro shows
  have parts : endpointParts (strip "node-1.example.net:51820").toList =
      .ok ("node-1.example.net".toList, "51820".toList) := by decide +kernel
  have condition := (emitted_iff rfl parts (by decide +kernel) issue adminIssue rotate).mp shows
  exact absurd condition.unreplaced (by decide +kernel)

end VpnSuite.Fleet
