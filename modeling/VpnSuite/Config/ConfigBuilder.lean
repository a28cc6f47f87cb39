/-
The builder of client configurations (`backend/app/core/config_builder.py`).

`buildConfig` checks every field, then writes the lines of the `[Interface]` and the `[Peer]`
section.  The checks of the fields are all made before it raises; the texts of their errors
are collected.  Obfuscation parameters come as JSON values, and the normalised ones are again
such a dict.
-/

import VpnSuite.Config.IpAddress
import VpnSuite.Foundations.OrderedDict

set_option autoImplicit false

namespace VpnSuite.Config

open Foundations
open Foundations.PythonText

/-! ### Fields -/

inductive ConfigProfile where
  | wireguardUniversal
  | awgLegacyOrBasic
  | awg20Asc
  | mobileOptimized
  deriving DecidableEq, Repr

structure InterfaceFields where
  privateKey : String
  address : String
  dns : Option String
  mtu : Option Int
  deriving DecidableEq, Repr

/-- The builder reads no more of an endpoint than its text. -/
structure PeerFields where
  publicKey : String
  endpoint : String
  allowedIps : String
  persistentKeepalive : Int
  presharedKey : Option String
  deriving DecidableEq, Repr

def defaultMtuMobile : Int := 1200

def defaultDns : String := "1.1.1.1, 1.0.0.1, 8.8.8.8, 8.8.4.4"

/-! ### Keys -/

def wgKeyB64MinLen : Nat := 43

def wgKeyB64MaxLen : Nat := 44

def isBase64Char (char : Char) : Bool := isAsciiAlphanumeric char || char == '+' || char == '/'

/-- How many bytes `b64decode(text, validate=True)` makes of so many data characters with so
many `=` after them. -/
def base64DecodedLength (data padding : Nat) : Option Nat :=
  match data % 4, padding with
  | 0, _ => some (data / 4 * 3)
  | 2, 2 => some (data / 4 * 3 + 1)
  | 3, 1 => some (data / 4 * 3 + 2)
  | _, _ => none

/-- `_validate_key_b64`. -/
def validateKeyB64 (key name : String) : Except String String :=
  let chars := stripChars key.toList
  let data := chars.takeWhile isBase64Char
  let padding := chars.dropWhile isBase64Char
  if key = "" then .error (name ++ " is empty or invalid")
  else if chars.length < wgKeyB64MinLen ∨ wgKeyB64MaxLen < chars.length then
    .error (name ++ " length " ++ toString chars.length ++ " invalid (expected " ++
      toString wgKeyB64MinLen ++ "-" ++ toString wgKeyB64MaxLen ++ ")")
  else if data = [] ∨ padding.any (fun char => char ≠ '=') then
    .error (name ++ " contains invalid base64 characters")
  else
    match base64DecodedLength data.length (padding.length + (4 - chars.length % 4) % 4) with
    | none => .error (name ++ " base64 decode failed")
    | some length =>
        if length = 32 then .ok (String.ofList chars)
        else .error (name ++ " decoded length invalid (expected 32 bytes)")

/-! ### Endpoints -/

/-- `[A-Za-z0-9](?:[A-Za-z0-9-]{0,61}[A-Za-z0-9])?`. -/
def isLabelText (chars : List Char) : Bool :=
  chars.length ≤ 63 && chars.head?.any isAsciiAlphanumeric &&
    chars.getLast?.any isAsciiAlphanumeric &&
    chars.all (fun char => isAsciiAlphanumeric char || char == '-')

/-- The label expression ends in `$`, which also matches before a last line break. -/
def isLabel (chars : List Char) : Bool :=
  isLabelText chars || (chars.getLast? = some '\n' && isLabelText chars.dropLast)

/-- `_is_valid_hostname`. -/
def isValidHostname (host : List Char) : Bool :=
  let name := if host.getLast? = some '.' then host.dropLast else host
  host ≠ [] && host.length ≤ 253 && (name.splitOn '.').all isLabel

/-- The host and the port of an endpoint, the host checked. -/
def endpointParts : List Char → Except String (List Char × List Char)
  | '[' :: chars =>
      if ']' ∈ chars then
        match partition ']' chars with
        | (host, ':' :: port) =>
            if ipVersion host = some 6 then .ok (host, port)
            else .error "Endpoint IPv6 address invalid"
        | _ => .error "Endpoint must be host:port"
      else .error "Endpoint IPv6 must be in [addr]:port form"
  | chars =>
      if ':' ∈ chars then
        let (host, port) := rpartition ':' chars
        if ipVersion host = some 4 ∨ isValidHostname host then .ok (host, port)
        else .error "Endpoint host invalid"
      else .error "Endpoint must be host:port"

def isPort (chars : List Char) : Bool :=
  (intOfChars chars).any (fun port => 1 ≤ port && port ≤ 65535)

/-- `_validate_endpoint`; the error of a port out of range is caught and replaced. -/
def validateEndpoint (endpoint : String) : Except String String :=
  if strip endpoint = "" then
    .error "Endpoint (vpn_endpoint) required; set server.vpn_endpoint or client_endpoint"
  else
    match endpointParts (strip endpoint).toList with
    | .error error => .error error
    | .ok (host, port) =>
        if host = [] then .error "Endpoint host is empty"
        else if isPort port then .ok (strip endpoint)
        else .error "Endpoint port must be numeric"

/-! ### Addresses -/

/-- `_validate_address`. -/
def validateAddress (address : String) : Except String String :=
  if strip address = "" then .error "Address (Interface) required; client tunnel IP/CIDR"
  else if '/' ∉ (strip address).toList then .error "Address must be CIDR (e.g. 10.8.1.2/32)"
  else if isIpNetwork (strip address).toList then .ok (strip address)
  else .error "Address must be valid CIDR (e.g. 10.8.1.2/32)"

/-- `_validate_allowed_ips`. -/
def validateAllowedIps (allowedIps : String) : Except String String :=
  let items := (allowedIps.toList.splitOn ',').map stripChars
  if strip allowedIps = "" then .error "AllowedIPs required"
  else if items.any List.isEmpty then .error "AllowedIPs contains empty item"
  else
    match items.find? (fun item => !isIpNetwork item) with
    | some item => .error ("AllowedIPs invalid CIDR: " ++ String.ofList item)
    | none => .ok (join ", " (items.map String.ofList))

/-! ### Obfuscation parameters -/

/-- A dict of obfuscation parameters. -/
abbrev Obfuscation := Dict String Json

def awgLegacyKeys : List String :=
  ["I1", "I2", "I3", "I4", "I5", "S1", "S2", "Jc", "Jmin", "Jmax"]

def awgAscKeys : List String :=
  ["I1", "I2", "I3", "I4", "I5", "S1", "S2", "S3", "S4", "Jc", "Jmin", "Jmax", "H1", "H2", "H3",
    "H4"]

def awgEmitOrder : List String :=
  ["Jc", "Jmin", "Jmax", "S1", "S2", "S3", "S4", "H1", "H2", "H3", "H4", "I1", "I2", "I3", "I4",
    "I5"]

def headerKeys : List String := ["H1", "H2", "H3", "H4"]

def signatureKeys : List String := ["I1", "I2", "I3", "I4", "I5"]

/-- The value of a key that is neither absent nor `None`. -/
def setValue (obf : Obfuscation) (key : String) : Option Json :=
  match obf.get? key with
  | none => none
  | some .null => none
  | some value => some value

/-- The keys in turn, with the values of those that have one. -/
def collect {α : Type} (value : String → Except String (Option α)) :
    List String → Except String (List (String × α))
  | [] => .ok []
  | key :: rest => do
      let found ← value key
      let others ← collect value rest
      .ok (match found with
        | none => others
        | some present => (key, present) :: others)

/-- The text of the `ValueError` of `int(text)`. -/
def intErrorText (chars : List Char) : String :=
  match numeralDigits chars with
  | some digits =>
      "Exceeds the limit (" ++ toString maxStrDigits ++
        " digits) for integer string conversion: value has " ++ toString digits.length ++
        " digits; use sys.set_int_max_str_digits() to increase the limit"
  | none => "invalid literal for int() with base 10: '" ++ String.ofList chars ++ "'"

/-- `int(text)` of a stripped text. -/
def readInt (chars : List Char) : Except String Int :=
  match intOfChars chars with
  | none => .error (intErrorText chars)
  | some value => .ok value

def isSignedDigits (chars : List Char) : Bool := textIsDigit (chars.dropWhile (fun char => char == '-'))

/-- `_parse_int`. -/
def parseInt (value : Json) (name : String) : Except String Int :=
  let refused : Except String Int := .error (name ++ " must be integer")
  match value with
  | .bool _ => refused
  | .str text =>
      if isSignedDigits (stripChars text.toList) then
        match intOfChars text.toList with
        | none => refused
        | some number => .ok number
      else refused
  | other =>
      match other.toInt with
      | .error _ => refused
      | .ok number => .ok number

/-- A header: the least and the greatest value, and how it is written. -/
structure HeaderRange where
  low : Int
  high : Int
  rendered : String
  deriving DecidableEq, Repr

/-- `_parse_h_value`. -/
def parseHValue (value : Json) (name : String) : Except String HeaderRange :=
  let refused : Except String HeaderRange := .error (name ++ " must be integer or range")
  match value with
  | .int number => .ok ⟨number, number, toString number⟩
  | .str text =>
      let chars := stripChars text.toList
      if isSignedDigits chars then do
        let number ← readInt chars
        .ok ⟨number, number, toString number⟩
      else if '-' ∈ chars then
        let left := stripChars (partition '-' chars).1
        let right := stripChars (partition '-' chars).2
        if textIsDigit left ∧ textIsDigit right then do
          let low ← readInt left
          let high ← readInt right
          .ok ⟨low, high, toString low ++ "-" ++ toString high⟩
        else refused
      else refused
  | _ => refused

/-- `I1` to `I5`. -/
def readSignature (obf : Obfuscation) (key : String) : Except String (Option String) :=
  match setValue obf key with
  | none => .ok none
  | some (.str text) =>
      if strip text = "" then .error (key ++ " must be non-empty string") else .ok (some (strip text))
  | some _ => .error (key ++ " must be non-empty string")

/-- A number that is set and positive, checked for its key. -/
def readNumber (check : String → Int → Except String Unit) (obf : Obfuscation) (key : String) :
    Except String (Option Int) :=
  match setValue obf key with
  | none => .ok none
  | some value => do
      let number ← parseInt value key
      if number ≤ 0 then .ok none
      else do
        check key number
        .ok (some number)

/-- `_validate_s1_s2` of the values that are there. -/
def validateS1S2 (numbers : List (String × Int)) : Except String Unit :=
  match numbers.lookup "S1", numbers.lookup "S2" with
  | some s1, some s2 =>
      if s1 + 56 = s2 then
        .error ("AmneziaWG kernel requires S1+56 ≠ S2; got S1=" ++ toString s1 ++ " S2=" ++
          toString s2)
      else .ok ()
  | _, _ => .ok ()

/-- `_validate_jmin_jmax` of the values that are there. -/
def validateJminJmax (numbers : List (String × Int)) : Except String Unit :=
  match numbers.lookup "Jmin", numbers.lookup "Jmax" with
  | some jmin, some jmax =>
      if jmax < jmin then
        .error ("Jmin (" ++ toString jmin ++ ") must be <= Jmax (" ++ toString jmax ++ ")")
      else .ok ()
  | _, _ => .ok ()

def numberEntries (numbers : List (String × Int)) : List (String × Json) :=
  numbers.map (fun entry => (entry.1, .int entry.2))

def textEntries (texts : List (String × String)) : List (String × Json) :=
  texts.map (fun entry => (entry.1, .str entry.2))

/-! ### The legacy profile -/

/-- A header that the legacy profile passes over. -/
def isBlankHeader : Json → Bool
  | .null => true
  | .str text => strip text = "" ∨ strip text = "0"
  | value => value.asInt?.any (fun number => number ≤ 0)

def isLegacyEntry (entry : String × Json) : Bool :=
  entry.1 ∈ awgLegacyKeys || (entry.1 ∈ headerKeys && isBlankHeader entry.2)

def checkLegacyNumber (key : String) (number : Int) : Except String Unit :=
  let refused : Except String Unit := .error (key ++ " out of range for legacy profile")
  if key = "Jc" ∧ ¬ (0 ≤ number ∧ number ≤ 10) then refused
  else if (key = "Jmin" ∨ key = "Jmax") ∧ ¬ (64 ≤ number ∧ number ≤ 1024) then refused
  else if (key = "S1" ∨ key = "S2") ∧ ¬ (0 ≤ number ∧ number ≤ 64) then refused
  else .ok ()

def checkKeys (accepts : String × Json → Bool) (obf : Obfuscation) : Except String Unit :=
  match obf.entries.find? (fun entry => !accepts entry) with
  | some entry => .error ("unsupported_key:" ++ entry.1)
  | none => .ok ()

/-- `_normalize_obfuscation_legacy`. -/
def normalizeObfuscationLegacy (obf : Obfuscation) : Except String Obfuscation := do
  checkKeys isLegacyEntry obf
  let numbers ← collect (readNumber checkLegacyNumber obf) ["Jc", "Jmin", "Jmax", "S1", "S2"]
  let signatures ← collect (readSignature obf) signatureKeys
  validateS1S2 numbers
  validateJminJmax numbers
  .ok (Dict.ofList (numberEntries numbers ++ textEntries signatures))

/-! ### The AWG 2.0 profile -/

def checkAwg2Number (mtu : Option Int) (key : String) (number : Int) : Except String Unit :=
  let baseMtu := if mtu.getD 0 = 0 then 1280 else mtu.getD 0
  if key = "Jc" ∧ ¬ (1 ≤ number ∧ number ≤ 128) then
    .error "Jc out of range for awg_2_0_asc profile"
  else if (key = "Jmin" ∨ key = "Jmax") ∧ ¬ (1 ≤ number ∧ number ≤ 1280) then
    .error (key ++ " out of range for awg_2_0_asc profile")
  else if key = "S1" ∧ max 0 (baseMtu - 148) < number then
    .error "S1 exceeds MTU-derived maximum"
  else if key = "S2" ∧ max 0 (baseMtu - 92) < number then
    .error "S2 exceeds MTU-derived maximum"
  else .ok ()

/-- `h_max`. -/
def headerMax : Int := 4294967295

/-- `H1` to `H4`. -/
def readHeader (obf : Obfuscation) (key : String) : Except String (Option HeaderRange) :=
  match setValue obf key with
  | none => .ok none
  | some value => do
      let range ← parseHValue value key
      if range.high ≤ 0 then .ok none
      else if headerMax < range.low ∨ headerMax < range.high then
        .error (key ++ " out of range for awg_2_0_asc profile (got '" ++ range.rendered ++
          "', max " ++ toString headerMax ++ ")")
      else if range.high < range.low then .error (key ++ " range invalid")
      else .ok (some range)

def HeaderRange.overlaps (left right : HeaderRange) : Bool :=
  max left.low right.low ≤ min left.high right.high

def checkOverlaps : List (String × HeaderRange) → Except String Unit
  | [] => .ok ()
  | header :: rest =>
      match rest.find? (fun other => header.2.overlaps other.2) with
      | some other => .error (header.1 ++ " and " ++ other.1 ++ " ranges overlap")
      | none => checkOverlaps rest

/-- `_normalize_obfuscation_awg2`. -/
def normalizeObfuscationAwg2 (obf : Obfuscation) (mtu : Option Int) :
    Except String Obfuscation := do
  checkKeys (fun entry => entry.1 ∈ awgAscKeys) obf
  let numbers ← collect (readNumber (checkAwg2Number mtu) obf)
    ["Jc", "Jmin", "Jmax", "S1", "S2", "S3", "S4"]
  let signatures ← collect (readSignature obf) signatureKeys
  let headers ← collect (readHeader obf) headerKeys
  checkOverlaps headers
  validateS1S2 numbers
  validateJminJmax numbers
  .ok (Dict.ofList (numberEntries numbers ++ textEntries signatures ++
    textEntries (headers.map (fun header => (header.1, header.2.rendered)))))

/-! ### `build_config` -/

def errorsOf {α : Type} : Except String α → List String
  | .error error => [error]
  | .ok _ => []

def textOf : Except String String → String
  | .error _ => ""
  | .ok text => text

/-- A `ValueError` of a single field. -/
def asConfigError {α : Type} : Except String α → Except (List String) α
  | .error error => .error [error]
  | .ok value => .ok value

def isPresent (obfuscation : Option Obfuscation) : Bool :=
  obfuscation.any (fun obf => !obf.entries.isEmpty)

/-- The texts of all errors, in the order of the checks. -/
def fieldErrors (interface : InterfaceFields) (peer : PeerFields) (profile : ConfigProfile)
    (obfuscation : Option Obfuscation) : List String :=
  errorsOf (validateKeyB64 interface.privateKey "PrivateKey") ++
    errorsOf (validateAddress interface.address) ++
    errorsOf (validateKeyB64 peer.publicKey "PublicKey") ++
    errorsOf (validateEndpoint peer.endpoint) ++
    errorsOf (validateAllowedIps peer.allowedIps) ++
    if profile = .wireguardUniversal ∧ isPresent obfuscation then
      ["obfuscation not allowed in wireguard_universal profile"]
    else []

def settingLine (key value : String) : String := key ++ " = " ++ value

def dnsText (dns : Option String) : String :=
  match dns.bind orNone with
  | none => defaultDns
  | some text => strip text

def effectiveMtu (profile : ConfigProfile) (mtu : Option Int) : Option Int :=
  if profile = .mobileOptimized ∧ mtu.all (fun value => value ≤ 0) then some defaultMtuMobile
  else mtu

def mtuLines (mtu : Option Int) : List String :=
  ((mtu.filter (fun value => 0 < value)).map (fun value =>
    settingLine "MTU" (toString value))).toList

def normalizedObfuscation (profile : ConfigProfile) (obfuscation : Option Obfuscation)
    (mtu : Option Int) : Except String Obfuscation :=
  match obfuscation, profile with
  | none, _ => .ok Dict.empty
  | some _, .wireguardUniversal => .ok Dict.empty
  | some obf, .awgLegacyOrBasic =>
      if obf.entries.isEmpty then .ok Dict.empty else normalizeObfuscationLegacy obf
  | some obf, _ =>
      if obf.entries.isEmpty then .ok Dict.empty else normalizeObfuscationAwg2 obf mtu

def obfuscationLines (obf : Obfuscation) : List String :=
  awgEmitOrder.filterMap (fun key =>
    (obf.get? key).map (fun value => settingLine key value.toText))

def presharedKeyLines (presharedKey : Option String) : Except String (List String) :=
  match presharedKey.bind orNone with
  | none => .ok []
  | some key => (validateKeyB64 key "PresharedKey").map (fun text =>
      [settingLine "PresharedKey" text])

/-- The fields as the checks return them. -/
structure CheckedFields where
  privateKey : String
  address : String
  publicKey : String
  endpoint : String
  allowedIps : String
  deriving DecidableEq, Repr

def checkedFields (interface : InterfaceFields) (peer : PeerFields) : CheckedFields :=
  { privateKey := textOf (validateKeyB64 interface.privateKey "PrivateKey")
    address := textOf (validateAddress interface.address)
    publicKey := textOf (validateKeyB64 peer.publicKey "PublicKey")
    endpoint := textOf (validateEndpoint peer.endpoint)
    allowedIps := textOf (validateAllowedIps peer.allowedIps) }

def configLines (fields : CheckedFields) (dns : String) (mtu : Option Int) (obf : Obfuscation)
    (keepalive : Int) (presharedKey : List String) : List String :=
  ["[Interface]",
    settingLine "PrivateKey" fields.privateKey,
    settingLine "Address" fields.address,
    settingLine "DNS" dns] ++
  mtuLines mtu ++ obfuscationLines obf ++
  ["",
    "[Peer]",
    settingLine "PublicKey" fields.publicKey,
    settingLine "Endpoint" fields.endpoint,
    settingLine "AllowedIPs" fields.allowedIps,
    settingLine "PersistentKeepalive" (toString keepalive)] ++
  presharedKey

/-- `build_config`; an error is the list of texts of a `ConfigValidationError`. -/
def buildConfig (interface : InterfaceFields) (peer : PeerFields) (profile : ConfigProfile)
    (obfuscation : Option Obfuscation) : Except (List String) String :=
  if fieldErrors interface peer profile obfuscation ≠ [] then
    .error (fieldErrors interface peer profile obfuscation)
  else do
    let mtu := effectiveMtu profile interface.mtu
    let obf ← asConfigError (normalizedObfuscation profile obfuscation mtu)
    let presharedKey ← asConfigError (presharedKeyLines peer.presharedKey)
    let lines := configLines (checkedFields interface peer) (dnsText interface.dns) mtu obf
      peer.persistentKeepalive presharedKey
    .ok (join "\n" lines ++ "\n")

end VpnSuite.Config
