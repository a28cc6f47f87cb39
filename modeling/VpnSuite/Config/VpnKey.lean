/-
`vpn://` keys: a JSON document, packed, and the one made from an AWG configuration.

`zlib` and `json.loads` are parameters: the code relies only on their undoing `compress` and
`dumps`.  The configuration is the text of the builder, read again by `configparser`.
-/

import VpnSuite.Config.EndpointGrammar
import VpnSuite.Foundations.ByteTexts
import VpnSuite.Foundations.ConfigParser
import VpnSuite.Foundations.JsonText

set_option autoImplicit false

namespace VpnSuite.Config

open Foundations
open Foundations.PythonText
open Foundations.IniText
open Foundations.ByteTexts
open Foundations.ConfigParser (ParserError readString getOption)

/-! ### Packing -/

/-- `zlib.compress` at level 9, `zlib.decompress` and `json.loads`; `none` is their error. -/
structure KeyLibrary where
  compress : List UInt8 → List UInt8
  decompress : List UInt8 → Option (List UInt8)
  loads : String → Option JsonDoc

/-- `json.loads` reads back what `json.dumps` wrote. -/
def KeyLibrary.Reloads (library : KeyLibrary) (document : JsonDoc) : Prop :=
  library.loads document.dumps = some document

inductive VpnKeyError where
  | structError
  | parserError (error : ParserError)
  | valueError (message : String)
  deriving DecidableEq, Repr

def keyMagic : Nat := 0x07C00100

/-- `_build_amnezia_qr_pack`; a length that does not fit its word is a `struct.error`. -/
def buildAmneziaQrPack (library : KeyLibrary) (data : List UInt8) :
    Except VpnKeyError (List UInt8) :=
  let compressed := library.compress data
  if compressed.length + 4 < 2 ^ 32 ∧ data.length < 2 ^ 32 then
    .ok (packWord 4 keyMagic ++ packWord 4 (compressed.length + 4) ++ packWord 4 data.length ++
      compressed)
  else .error .structError

def keyPrefix : List Char := "vpn://".toList

def encodeAmneziaVpnKey (library : KeyLibrary) (config : List (String × JsonDoc)) :
    Except VpnKeyError String := do
  let packed ← buildAmneziaQrPack library (utf8Bytes (JsonDoc.object config).dumps)
  .ok (String.ofList (keyPrefix ++ withoutPadding (base64Encode packed)))

/-- The bytes of a key: the scheme taken off, the padding put back. -/
def keyBytes (key : String) : Option (List UInt8) :=
  if keyPrefix.isPrefixOf key.toList then
    base64Decode (padded (key.toList.drop keyPrefix.length))
  else none

/-- A header of three words before a body that inflates to the document. -/
structure PackHolds (library : KeyLibrary) (raw plain : List UInt8) (document : JsonDoc) :
    Prop where
  header : 12 ≤ raw.length
  magic : wordValue (raw.take 4) = keyMagic
  totalLen : wordValue ((raw.drop 4).take 4) = (raw.drop 8).length
  plainLen : wordValue ((raw.drop 8).take 4) = plain.length
  body : library.decompress (raw.drop 12) = some plain
  document : (utf8Text plain).bind library.loads = some document

def KeyCarries (library : KeyLibrary) (key : String) (document : JsonDoc) : Prop :=
  ∃ raw plain, keyBytes key = some raw ∧ PackHolds library raw plain document

/-- The lengths of a document fit their words. -/
def Fits (library : KeyLibrary) (document : JsonDoc) : Prop :=
  (library.compress (utf8Bytes document.dumps)).length < 2 ^ 32 - 4 ∧
    (utf8Bytes document.dumps).length < 2 ^ 32

/-! ### The document of a configuration -/

/-- `section.get(key, "").strip()`. -/
def settingText (parsed : Dict String (Dict String String)) (name key : String) : String :=
  strip ((getOption parsed name key).getD "")

/-- `^\d{1,3}(?:\.\d{1,3}){3}$` of a stripped text. -/
def isIpv4Shaped (text : String) : Bool :=
  (text.toList.splitOn '.').length = 4 &&
    (text.toList.splitOn '.').all (fun part =>
      1 ≤ part.length && part.length ≤ 3 && part.all (fun char => (digitValue? char).isSome))

/-- The stripped, visible items of a list. -/
def visibleItems (items : List (List Char)) : List String :=
  ((items.map stripChars).filter (fun item => item ≠ [])).map String.ofList

/-- `re.split(r",\s*", text)`. -/
def splitCommas (chars : List Char) : List (List Char) :=
  match chars.splitOn ',' with
  | [] => []
  | first :: rest => first :: rest.map (fun item => item.dropWhile isSpace)

def awgKeys : List String :=
  ["Jc", "Jmin", "Jmax", "S1", "S2", "S3", "S4", "I1", "I2", "I3", "I4", "I5", "H1", "H2", "H3",
    "H4"]

def defaultPort : String := "51820"

/-- The host and the port text around the last colon. -/
def hostAndPort (endpoint : String) : String × String :=
  if endpoint = "" then ("", defaultPort)
  else if ':' ∈ endpoint.toList then
    let parts := rpartition ':' endpoint.toList
    (String.ofList (stripChars parts.1),
      orDefault (some (String.ofList (stripChars parts.2))) defaultPort)
  else (strip endpoint, defaultPort)

/-- What is read from a configuration. -/
structure AwgConf where
  privateKey : String
  address : String
  dns : List String
  mtu : String
  awgExtras : List (String × String)
  publicKey : String
  presharedKey : String
  host : String
  portText : String
  allowedIps : List String
  persistentKeepalive : String
  deriving DecidableEq, Repr

def readAwgConf (parsed : Dict String (Dict String String)) : AwgConf :=
  let endpoint := hostAndPort (settingText parsed "Peer" "Endpoint")
  { privateKey := settingText parsed "Interface" "PrivateKey"
    address := settingText parsed "Interface" "Address"
    dns := (visibleItems ((settingText parsed "Interface" "DNS").toList.splitOn ',')).filter
      isIpv4Shaped
    mtu := orDefault (some (settingText parsed "Interface" "MTU")) "0"
    awgExtras := awgKeys.filterMap (fun key =>
      (orNone (settingText parsed "Interface" key)).map (fun value => (key, value)))
    publicKey := settingText parsed "Peer" "PublicKey"
    presharedKey := settingText parsed "Peer" "PresharedKey"
    host := endpoint.1
    portText := endpoint.2
    allowedIps := visibleItems (splitCommas (settingText parsed "Peer" "AllowedIPs").toList)
    persistentKeepalive := orDefault (some (settingText parsed "Peer" "PersistentKeepalive")) "0" }

theorem readAwgConf_mtu (parsed : Dict String (Dict String String)) :
    (readAwgConf parsed).mtu = orDefault (some (settingText parsed "Interface" "MTU")) "0" := by
  rw [readAwgConf]

theorem readAwgConf_keepalive (parsed : Dict String (Dict String String)) :
    (readAwgConf parsed).persistentKeepalive =
      orDefault (some (settingText parsed "Peer" "PersistentKeepalive")) "0" := by
  rw [readAwgConf]

/-- `int(port_str)`, and 0 for what is no number. -/
def AwgConf.port (conf : AwgConf) : Int := (intOfChars conf.portText.toList).getD 0

/-- What `last_config_obj` has besides the parameters. -/
def AwgConf.lastFields (conf : AwgConf) (confText : String) : List (String × JsonDoc) :=
  [("allowed_ips", .list (conf.allowedIps.map .str)),
    ("client_ip", .str conf.address),
    ("client_priv_key", .str conf.privateKey),
    ("config", .str confText),
    ("hostName", .str conf.host),
    ("mtu", .str conf.mtu),
    ("persistent_keep_alive", .str conf.persistentKeepalive),
    ("port", .int conf.port),
    ("psk_key", .str conf.presharedKey),
    ("server_pub_key", .str conf.publicKey)]

/-- The names of these fields; none is that of a parameter. -/
def lastNames : List String :=
  ["allowed_ips", "client_ip", "client_priv_key", "config", "hostName", "mtu",
    "persistent_keep_alive", "port", "psk_key", "server_pub_key"]

/-- `last_config_obj`. -/
def AwgConf.lastConfig (conf : AwgConf) (confText : String) : JsonDoc :=
  .object (conf.awgExtras.map (fun entry => (entry.1, .str entry.2)) ++ conf.lastFields confText)

def AwgConf.hasExtra (conf : AwgConf) (key : String) : Bool := key ∈ conf.awgExtras.map Prod.fst

/-- The container: the port that stands for 0 is the text of the port. -/
def AwgConf.container (conf : AwgConf) (confText : String) : JsonDoc :=
  .object ([("isThirdPartyConfig", .bool true),
      ("last_config", .str (conf.lastConfig confText).dumps),
      ("port", .str (if conf.port = 0 then conf.portText else toString conf.port))] ++
    (if conf.hasExtra "S3" && conf.hasExtra "S4" then [("protocol_version", .str "2")] else []) ++
    [("transport_proto", .str "udp")])

/-- `amnezia_json`. -/
def AwgConf.amneziaJson (conf : AwgConf) (confText : String) : List (String × JsonDoc) :=
  [("containers", .list [.object [("awg", conf.container confText),
      ("container", .str "amnezia-awg")]]),
    ("defaultContainer", .str "amnezia-awg"),
    ("description", .str "vpn-suite"),
    ("dns1", .str (conf.dns[0]?.getD "")),
    ("dns2", .str (conf.dns[1]?.getD "")),
    ("hostName", .str conf.host)]

/-- The sections of a configuration text, both of them there. -/
def parseAwgConf (confText : String) : Except VpnKeyError AwgConf :=
  match readString confText with
  | .error error => .error (.parserError error)
  | .ok parsed =>
      if "Interface" ∉ parsed.keys ∨ "Peer" ∉ parsed.keys then
        .error (.valueError "AWG config must contain [Interface] and [Peer] sections")
      else .ok (readAwgConf parsed)

def encodeAwgConfVpnKey (library : KeyLibrary) (confText : String) : Except VpnKeyError String := do
  let conf ← parseAwgConf confText
  encodeAmneziaVpnKey library (conf.amneziaJson confText)

/-- The fields of the last configuration and of its container, as the lines have them. -/
structure DescribesLines (interfaceLines peerLines : List (String × String)) (text : String)
    (container last : JsonDoc) : Prop where
  config : last.get? "config" = some (.str text)
  privateKey : last.get? "client_priv_key" = (interfaceLines.lookup "PrivateKey").map .str
  clientIp : last.get? "client_ip" = (interfaceLines.lookup "Address").map .str
  publicKey : last.get? "server_pub_key" = (peerLines.lookup "PublicKey").map .str
  presharedKey : last.get? "psk_key" =
    some (.str ((peerLines.lookup "PresharedKey").getD ""))
  allowedIps : ∃ items, last.get? "allowed_ips" = some (.list (items.map .str)) ∧
    peerLines.lookup "AllowedIPs" = some (join ", " items) ∧
    ∀ item ∈ items, item ≠ "" ∧ ',' ∉ item.toList
  mtu : last.get? "mtu" = some (.str ((interfaceLines.lookup "MTU").getD "0"))
  keepalive : last.get? "persistent_keep_alive" =
    (peerLines.lookup "PersistentKeepalive").map .str
  endpoint : ∃ host portText port, last.get? "hostName" = some (.str host) ∧
    last.get? "port" = some (.int port) ∧ container.get? "port" = some (.str (toString port)) ∧
    peerLines.lookup "Endpoint" = some (host ++ ":" ++ portText) ∧
    ':' ∉ portText.toList ∧ intOfChars portText.toList = some port
  parameters : ∀ key ∈ awgEmitOrder,
    last.get? key = (interfaceLines.lookup key).map .str
  protocol : container.get? "protocol_version" =
    if (interfaceLines.lookup "S3").isSome ∧ (interfaceLines.lookup "S4").isSome then
      some (.str "2")
    else none

/-- A decoded key describes a built text, which consists of the lines it is compared with. -/
structure KeyDescribes (library : KeyLibrary) (interface : InterfaceFields) (peer : PeerFields)
    (profile : ConfigProfile) (obfuscation : Option Obfuscation) (text : String)
    (document : JsonDoc) : Prop where
  lines : text.toList =
    endedLines (sectionLines (builtSections interface peer profile obfuscation))
  fields : ∃ containers entry container lastText last,
    document.get? "containers" = some containers ∧ containers.item? 0 = some entry ∧
    entry.get? "awg" = some container ∧ container.get? "last_config" = some (.str lastText) ∧
    library.loads lastText = some last ∧
    DescribesLines (interfaceEntries interface peer profile obfuscation)
      (peerEntries interface peer) text container last

/-! ### A packed document -/

section Packed

variable {library : KeyLibrary}
  (inflates : ∀ data, library.decompress (library.compress data) = some data)

include inflates

/-- The three words of the header are read where they were written. -/
theorem packHolds {document : JsonDoc} (reloads : library.Reloads document)
    (fits : Fits library document) {raw : List UInt8}
    (packed : buildAmneziaQrPack library (utf8Bytes document.dumps) = .ok raw) :
    PackHolds library raw (utf8Bytes document.dumps) document := by
  have body := inflates (utf8Bytes document.dumps)
  obtain ⟨fitsTotal, fitsPlain⟩ := fits
  unfold buildAmneziaQrPack at packed
  generalize library.compress (utf8Bytes document.dumps) = compressed at body fitsTotal packed
  dsimp only at packed
  rw [if_pos ⟨by omega, fitsPlain⟩] at packed
  obtain rfl := Except.ok.inj packed
  obtain ⟨first, second, third, rest, after⟩ := threeWords_append (length_packWord 4 keyMagic)
    (length_packWord 4 (compressed.length + 4))
    (length_packWord 4 (utf8Bytes document.dumps).length) compressed
  constructor
  · simp only [List.length_append, length_packWord]
    omega
  · rw [first, wordValue_packWord (by decide)]
  · rw [second, wordValue_packWord (by omega), after]
  · rw [third, wordValue_packWord (by omega)]
  · rw [rest, body]
  · rw [utf8Text_utf8Bytes, Option.bind_some]
    exact reloads

theorem encodeAmneziaVpnKey_carries {config : List (String × JsonDoc)}
    (reloads : library.Reloads (.object config)) (fits : Fits library (.object config)) :
    ∃ key, encodeAmneziaVpnKey library config = .ok key ∧
      KeyCarries library key (.object config) := by
  cases packed : buildAmneziaQrPack library (utf8Bytes (JsonDoc.object config).dumps) with
  | error error =>
      obtain ⟨fitsTotal, fitsPlain⟩ := fits
      unfold buildAmneziaQrPack at packed
      dsimp only at packed
      rw [if_pos ⟨by omega, fitsPlain⟩] at packed
      cases packed
  | ok raw =>
      refine ⟨String.ofList (keyPrefix ++ withoutPadding (base64Encode raw)), ?_, raw, _, ?_,
        packHolds inflates reloads fits packed⟩
      · rw [encodeAmneziaVpnKey, packed]
        rfl
      · rw [keyBytes, String.toList_ofList, if_pos (by simp), List.drop_left,
          padded_withoutPadding, base64Decode_base64Encode]

end Packed

/-! ### Lists and endpoints -/

theorem stripChars_dropWhile (chars : List Char) :
    stripChars (chars.dropWhile isSpace) = stripChars chars := by
  rw [stripChars, stripChars, List.dropWhile_idempotent]

theorem splitOn_joined {rest : List (List Char)} (first : List Char)
    (free : ∀ item ∈ first :: rest, ',' ∉ item) :
    (", ".toList.intercalate (first :: rest)).splitOn ',' =
      first :: rest.map (fun item => ' ' :: item) := by
  induction rest generalizing first with
  | nil =>
      rw [List.intercalate_singleton]
      exact List.splitOn_eq_singleton (free first List.mem_cons_self)
  | cons second others ih =>
      have shape : ", ".toList.intercalate (first :: second :: others) =
          first ++ ',' :: (' ' :: ", ".toList.intercalate (second :: others)) := by
        rw [List.intercalate_cons_of_ne_nil (List.cons_ne_nil _ _), List.append_assoc]
        rfl
      have later := ih second (fun item member => free item (List.mem_cons_of_mem first member))
      rw [shape, List.splitOn_append_cons_self,
        List.splitOn_eq_singleton (free first List.mem_cons_self),
        List.splitOn_cons_eq_if_modifyHead, if_neg (by decide), later]
      rfl

/-- A list without commas in its items is taken apart again. -/
theorem visibleItems_joined {items : List (List Char)} (some : items ≠ [])
    (stripped : ∀ item ∈ items, item ≠ [] ∧ stripChars item = item)
    (free : ∀ item ∈ items, ',' ∉ item) :
    visibleItems (splitCommas (", ".toList.intercalate items)) = items.map String.ofList := by
  obtain ⟨first, rest, rfl⟩ := List.exists_cons_of_ne_nil some
  have again : (splitCommas (", ".toList.intercalate (first :: rest))).map stripChars =
      first :: rest := by
    rw [splitCommas, splitOn_joined first free]
    dsimp only
    rw [List.map_cons, (stripped first List.mem_cons_self).2, List.map_map, List.map_map]
    refine congrArg (List.cons first) ((List.map_congr_left ?_).trans (List.map_id rest))
    intro item member
    rw [Function.comp_apply, Function.comp_apply, stripChars_dropWhile, stripChars,
      List.dropWhile_cons_of_pos (by decide)]
    exact (stripped item (List.mem_cons_of_mem first member)).2
  rw [visibleItems, again, List.filter_eq_self.mpr]
  intro item member
  simpa using (stripped item member).1

theorem comma_notMem_allowedItems {allowedIps : String} {item : List Char}
    (member : item ∈ allowedItems allowedIps) : ',' ∉ item := by
  obtain ⟨part, listed, rfl⟩ := List.mem_map.mp member
  intro inItem
  have inPart := stripChars_subset part inItem
  have free := unbroken_of_mem_splitOnP listed ',' inPart
  cases free

/-- A checked endpoint is a host and a port around its last colon. -/
theorem validateEndpoint_parts {endpoint text : String}
    (checked : validateEndpoint endpoint = .ok text) (unbroken : '\n' ∉ text.toList) :
    ∃ host portText port, text.toList = host ++ ':' :: portText ∧ ':' ∉ portText ∧
      stripChars host = host ∧ intOfChars portText = some port ∧ 1 ≤ port := by
  obtain ⟨_, host, port, parts, valid⟩ := validateEndpoint_eq_ok.mp checked
  obtain ⟨number, read, least, _⟩ := isPort_iff.mp valid
  have noColon := (not_mem_port valid).1
  rcases endpointParts_eq_ok.mp parts with ⟨bracketed, _⟩ | ⟨whole, _, accepted⟩
  · refine ⟨'[' :: host ++ [']'], port, number, by rw [bracketed]; simp, noColon, ?_, read, least⟩
    refine (stripChars_of_ends ?_ ?_).2.2
    · intro char atHead
      obtain rfl := Option.some.inj atHead
      decide
    · intro char atEnd
      rw [List.getLast?_concat] at atEnd
      obtain rfl := Option.some.inj atEnd
      decide
  · have visible : ∀ char ∈ host, isSpace char = false := by
      intro char member
      rcases accepted with version | named
      · exact isSpace_of_ipv4 version member
      · refine isSpace_of_hostname named ?_ member
        intro feed
        exact unbroken (by rw [whole]; exact List.mem_append_left _ feed)
    exact ⟨host, port, number, whole, noColon, (stripChars_of_ends
      (fun char atHead => visible char (List.mem_of_mem_head? atHead))
      (fun char atEnd => visible char (List.mem_of_mem_getLast? atEnd))).2.2, read, least⟩

/-! ### A built text, read again -/

theorem lookup_filterMap {α : Type} (get : String → Option α) (keys : List String)
    (key : String) :
    (keys.filterMap (fun name => (get name).map (fun value => (name, value)))).lookup key =
      if key ∈ keys then get key else none := by
  induction keys with
  | nil => rfl
  | cons first rest ih =>
      rw [List.filterMap_cons]
      cases here : get first with
      | none =>
          rw [Option.map_none]
          dsimp only
          rw [ih]
          by_cases same : key = first
          · subst same
            rw [here]
            simp
          · simp [same]
      | some value =>
          rw [Option.map_some]
          dsimp only
          rw [Dict.lookup_cons_eq, ih]
          by_cases same : key = first
          · subst same
            rw [here]
            simp
          · simp [same]

theorem orNone_getD {found : Option String} (visible : ∀ value, found = some value → value ≠ "") :
    orNone (found.getD "") = found := by
  cases found with
  | none => rfl
  | some value => rw [Option.getD_some, orNone, if_neg (visible value rfl)]

theorem orDefault_getD {found : Option String} (default : String)
    (visible : ∀ value, found = some value → value ≠ "") :
    orDefault (some (found.getD "")) default = found.getD default := by
  cases found with
  | none => rfl
  | some value => rw [Option.getD_some, orDefault, if_neg (visible value rfl), Option.getD_some]

theorem settingText_eq {parsed : Dict String (Dict String String)} {name : String}
    {entries : List (String × String)}
    (read : ∀ key, getOption parsed name key = entries.lookup key)
    (stripped : ∀ entry ∈ entries, stripChars entry.2.toList = entry.2.toList) (key : String) :
    settingText parsed name key = (entries.lookup key).getD "" := by
  rw [settingText, read]
  cases found : entries.lookup key with
  | none => rfl
  | some value =>
      rw [Option.getD_some, strip, stripped _ (mem_of_lookup found), String.ofList_toList]

theorem interfaceHeader_titled : (ConfigParser.sectionHeader interfaceHeader).isSome = true ∧
    String.ofList ((ConfigParser.sectionHeader interfaceHeader).getD []) = "Interface" := by
  decide

theorem peerHeader_titled : (ConfigParser.sectionHeader peerHeader).isSome = true ∧
    String.ofList ((ConfigParser.sectionHeader peerHeader).getD []) = "Peer" := by
  decide

section BuiltKey

variable {interface : InterfaceFields} {peer : PeerFields} {profile : ConfigProfile}
  {obfuscation : Option Obfuscation} {text : String}
  (built : buildConfig interface peer profile obfuscation = .ok text)

include built

theorem emitted_visible {key : String} {value : Json}
    (present : (emittedObfuscation interface profile obfuscation).get? key = some value) :
    value.toText ≠ "" := by
  obtain ⟨obf, presharedKey, _, normalized, _, _⟩ := buildConfig_ok built
  have emitted : emittedObfuscation interface profile obfuscation = obf := by
    rw [emittedObfuscation, normalized]
  rw [emitted] at present
  cases obfuscation with
  | none =>
      obtain rfl := Except.ok.inj normalized
      cases present
  | some source =>
      by_cases universal : profile = .wireguardUniversal
      · subst universal
        obtain rfl := Except.ok.inj normalized
        cases present
      · rcases (normalizedObfuscation_ok universal normalized).entries key value present with
          plain | ⟨_, raw, _, visible, rfl⟩
        · have nonempty := ((isPlainValue_iff _).mp plain).1
          rintro empty
          rw [empty] at nonempty
          exact nonempty rfl
        · exact visible

/-- The optional settings of the interface are never empty. -/
theorem interfaceEntry_visible {key value : String} (optional : key ∈ "MTU" :: awgEmitOrder)
    (found : (interfaceEntries interface peer profile obfuscation).lookup key = some value) :
    value ≠ "" := by
  have listed := mem_of_lookup found
  rw [interfaceEntries, List.append_assoc] at listed
  rcases List.mem_append.mp listed with fixed | parameters
  · simp only [List.mem_cons, Prod.mk.injEq, List.not_mem_nil, or_false] at fixed
    rcases fixed with ⟨rfl, _⟩ | ⟨rfl, _⟩ | ⟨rfl, _⟩ <;> exact absurd optional (by decide)
  · rcases List.mem_append.mp parameters with mtu | parameter
    · obtain ⟨number, _, same⟩ := Option.map_eq_some_iff.mp (Option.mem_toList.mp mtu)
      obtain ⟨rfl, rfl⟩ := Prod.mk.inj same
      intro empty
      exact (toString_tokens number).1 (by rw [empty]; rfl)
    · obtain ⟨name, _, present⟩ := List.mem_filterMap.mp parameter
      obtain ⟨shown, stored, same⟩ := Option.map_eq_some_iff.mp present
      obtain ⟨rfl, rfl⟩ := Prod.mk.inj same
      exact emitted_visible built stored

theorem builtSections_parseable :
    ∀ part ∈ builtSections interface peer profile obfuscation, ConfigParser.Parseable part := by
  have keys : settingKeys.all (fun key => ConfigParser.isOptionKey key.toList) = true := by decide
  have distinct : settingKeys.Nodup := by decide
  have subset := (settingKeys_of_entries interface peer profile obfuscation)
  have writable := builtSections_writable built
  have once := distinct.sublist subset
  rw [List.map_append] at once
  intro part member
  have stripped : ∀ entry ∈ part.entries, stripChars entry.2.toList = entry.2.toList :=
    fun entry listed => (writable part member entry listed).2
  have named : ∀ entry ∈ part.entries, ConfigParser.isOptionKey entry.1.toList = true := by
    intro entry listed
    exact List.all_eq_true.mp keys entry.1 (settingKeys_of_listed member listed)
  simp only [builtSections, List.mem_cons, List.not_mem_nil, or_false] at member
  rcases member with rfl | rfl
  · exact ⟨interfaceHeader_titled.1, named, stripped, once.of_append_left⟩
  · exact ⟨peerHeader_titled.1, named, stripped, once.of_append_right⟩

/-- The sections of a built text are read back option by option. -/
theorem built_readString
    (clean : ∀ value ∈ openValues interface peer obfuscation, isClean lineFeeds value = true) :
    ∃ parsed, readString text = .ok parsed ∧ "Interface" ∈ parsed.keys ∧ "Peer" ∈ parsed.keys ∧
      (∀ key, getOption parsed "Interface" key =
        (interfaceEntries interface peer profile obfuscation).lookup key) ∧
      ∀ key, getOption parsed "Peer" key = (peerEntries interface peer).lookup key := by
  have unbroken : ∀ line ∈ sectionLines (builtSections interface peer profile obfuscation),
      '\n' ∉ line := by
    intro line member feed
    have isBreak := sectionLines_unbroken (builtSections_writable built)
      ((entries_clean_iff built lineFeeds).mpr clean) line member '\n' feed
    rw [lineFeeds.feed] at isBreak
    cases isBreak
  have titles : (builtSections interface peer profile obfuscation).map ConfigParser.title =
      ["Interface", "Peer"] := by
    simp only [builtSections, List.map_cons, List.map_nil, ConfigParser.title,
      interfaceHeader_titled.2, peerHeader_titled.2]
  obtain ⟨parsed, read, sections⟩ := ConfigParser.readString_written
    (builtSections_parseable built) (by rw [titles]; decide) unbroken (built_toList built)
  obtain ⟨interfacePresent, interfaceRead⟩ := sections _ List.mem_cons_self
  obtain ⟨peerPresent, peerRead⟩ := sections _ (List.mem_cons_of_mem _ List.mem_cons_self)
  simp only [ConfigParser.title, interfaceHeader_titled.2] at interfacePresent interfaceRead
  simp only [ConfigParser.title, peerHeader_titled.2] at peerPresent peerRead
  exact ⟨parsed, read, interfacePresent, peerPresent, interfaceRead, peerRead⟩

end BuiltKey

/-! ### The fields of the key -/

theorem lookup_map_str (entries : List (String × String)) (key : String) :
    (entries.map (fun entry => (entry.1, JsonDoc.str entry.2))).lookup key =
      (entries.lookup key).map .str := by
  induction entries with
  | nil => rfl
  | cons entry rest ih =>
      rw [List.map_cons, Dict.lookup_cons_eq, Dict.lookup_cons_eq, ih]
      split <;> rfl

theorem hasExtra_eq (conf : AwgConf) (key : String) :
    conf.hasExtra key = (conf.awgExtras.lookup key).isSome := by
  cases found : conf.awgExtras.lookup key with
  | none =>
      rw [List.lookup_eq_none_iff] at found
      simp only [AwgConf.hasExtra, List.mem_map, decide_eq_false_iff_not, Option.isSome_none]
      rintro ⟨entry, listed, rfl⟩
      simpa using found entry listed
  | some value =>
      simp only [AwgConf.hasExtra, Option.isSome_some, decide_eq_true_eq]
      exact List.mem_map_of_mem (mem_of_lookup found)

section Fields

variable (parsed : Dict String (Dict String String))

theorem lookup_awgExtras (key : String) :
    (readAwgConf parsed).awgExtras.lookup key =
      if key ∈ awgKeys then orNone (settingText parsed "Interface" key) else none := by
  dsimp only [readAwgConf]
  exact lookup_filterMap (fun name => orNone (settingText parsed "Interface" name)) awgKeys key

theorem get?_lastConfig (text key : String) :
    ((readAwgConf parsed).lastConfig text).get? key =
      ((if key ∈ awgKeys then orNone (settingText parsed "Interface" key) else none).map
        JsonDoc.str).or (((readAwgConf parsed).lastFields text).lookup key) := by
  rw [AwgConf.lastConfig, JsonDoc.get?, List.lookup_append, lookup_map_str, lookup_awgExtras]

end Fields

section Described

variable {interface : InterfaceFields} {peer : PeerFields} {profile : ConfigProfile}
  {obfuscation : Option Obfuscation} {text : String}
  (built : buildConfig interface peer profile obfuscation = .ok text)
  (clean : ∀ value ∈ openValues interface peer obfuscation, isClean lineFeeds value = true)
  {parsed : Dict String (Dict String String)}
  (interfaceRead : ∀ key, settingText parsed "Interface" key =
    ((interfaceEntries interface peer profile obfuscation).lookup key).getD "")
  (peerRead : ∀ key, settingText parsed "Peer" key =
    ((peerEntries interface peer).lookup key).getD "")

include built interfaceRead in
/-- A parameter of the key is the parameter of the text. -/
theorem extra_eq {key : String} (isKey : key ∈ awgKeys) :
    orNone (settingText parsed "Interface" key) =
      (interfaceEntries interface peer profile obfuscation).lookup key := by
  have ordered : awgKeys.all (fun key => key ∈ "MTU" :: awgEmitOrder) = true := by decide
  rw [interfaceRead]
  apply orNone_getD
  intro value found
  exact interfaceEntry_visible built (by simpa using List.all_eq_true.mp ordered key isKey) found

include built clean peerRead in
theorem endpoint_eq :
    ∃ host portText port, (peerEntries interface peer).lookup "Endpoint" =
        some (host ++ ":" ++ portText) ∧ ':' ∉ portText.toList ∧
      intOfChars portText.toList = some port ∧ port ≠ 0 ∧ (readAwgConf parsed).host = host ∧
      (readAwgConf parsed).port = port := by
  obtain ⟨_, _, checked, _, _, _⟩ := buildConfig_ok built
  have isEndpoint : (peerEntries interface peer).lookup "Endpoint" =
      some (checkedFields interface peer).endpoint := rfl
  have setting := peerRead "Endpoint"
  rw [isEndpoint, Option.getD_some] at setting
  have unbroken : '\n' ∉ (checkedFields interface peer).endpoint.toList := by
    have isOpen := (isClean_iff lineFeeds _).mp
      (clean (stripChars peer.endpoint.toList) (by simp [openValues]))
    rw [(stripped_of_strip (validateEndpoint_ok checked.endpoint).1).1]
    intro feed
    have isBreak := (isOpen '\n' feed).1
    rw [lineFeeds.feed] at isBreak
    cases isBreak
  obtain ⟨host, portText, port, whole, noColon, hostStripped, read, positive⟩ :=
    validateEndpoint_parts checked.endpoint unbroken
  have visible : stripChars portText ≠ [] := by
    intro empty
    replace read := (intOfChars_eq_some.mp read).2
    rw [empty] at read
    cases read
  have halves : hostAndPort (settingText parsed "Peer" "Endpoint") =
      (String.ofList host, String.ofList (stripChars portText)) := by
    have nonempty : (checkedFields interface peer).endpoint ≠ "" :=
      (validateEndpoint_ok checked.endpoint).2
    rw [setting, hostAndPort, if_neg nonempty, if_pos (by rw [whole]; simp), whole]
    dsimp only
    rw [rpartition_append noColon, hostStripped, orDefault, if_neg]
    simpa using visible
  refine ⟨String.ofList host, String.ofList portText, port, ?_, ?_, ?_, by omega, ?_, ?_⟩
  · rw [isEndpoint]
    apply congrArg some
    apply String.toList_inj.mp
    rw [whole]
    simp
  · rwa [String.toList_ofList]
  · rw [String.toList_ofList]
    exact read
  · rw [readAwgConf, halves]
  · have again : intOfChars (stripChars portText) = some port := by
      obtain ⟨plain, signed⟩ := intOfChars_eq_some.mp read
      rw [intOfChars_eq_some, stripChars_idempotent]
      exact ⟨fun char member => plain char (stripChars_subset _ member), signed⟩
    rw [AwgConf.port, readAwgConf, halves, String.toList_ofList, again, Option.getD_some]

include built peerRead in
theorem allowedIps_eq :
    ∃ items, (readAwgConf parsed).allowedIps = items ∧
      (peerEntries interface peer).lookup "AllowedIPs" = some (join ", " items) ∧
      ∀ item ∈ items, item ≠ "" ∧ ',' ∉ item.toList := by
  obtain ⟨whole, stripped⟩ := built_allowedIps built
  have isList : (peerEntries interface peer).lookup "AllowedIPs" =
      some (checkedFields interface peer).allowedIps := rfl
  have setting := peerRead "AllowedIPs"
  rw [isList, Option.getD_some] at setting
  have some : allowedItems peer.allowedIps ≠ [] := by
    rw [allowedItems, Ne, List.map_eq_nil_iff]
    exact List.splitOn_ne_nil ',' _
  refine ⟨(allowedItems peer.allowedIps).map String.ofList, ?_, ?_, ?_⟩
  · rw [readAwgConf, setting, whole]
    exact visibleItems_joined some stripped (fun item member => comma_notMem_allowedItems member)
  · rw [isList, join, List.map_map]
    apply congrArg Option.some
    apply String.toList_inj.mp
    rw [whole, String.toList_ofList]
    simp [Function.comp_def]
  · intro item member
    obtain ⟨chars, listed, rfl⟩ := List.mem_map.mp member
    rw [String.toList_ofList]
    exact ⟨by simpa using (stripped chars listed).1, comma_notMem_allowedItems listed⟩

include built clean interfaceRead peerRead in
theorem describesLines :
    DescribesLines (interfaceEntries interface peer profile obfuscation)
      (peerEntries interface peer) text ((readAwgConf parsed).container text)
      ((readAwgConf parsed).lastConfig text) := by
  obtain ⟨host, portText, port, endpointLine, noColon, isNumber, nonzero, isHost, isPort⟩ :=
    endpoint_eq built clean peerRead
  obtain ⟨items, isItems, itemsLine, plain⟩ := allowedIps_eq built peerRead
  have fixed : ∀ {key : String}, key ∉ awgKeys → ((readAwgConf parsed).lastConfig text).get? key =
      ((readAwgConf parsed).lastFields text).lookup key := by
    intro key other
    rw [get?_lastConfig, if_neg other]
    rfl
  have shown : ∀ key value, (interfaceEntries interface peer profile obfuscation).lookup key =
      some value → settingText parsed "Interface" key = value := by
    intro key value found
    rw [interfaceRead, found, Option.getD_some]
  have peerShown : ∀ key value, (peerEntries interface peer).lookup key = some value →
      settingText parsed "Peer" key = value := by
    intro key value found
    rw [peerRead, found, Option.getD_some]
  constructor
  · exact fixed (by decide)
  · rw [fixed (by decide)]
    exact congrArg (fun value => some (JsonDoc.str value)) (shown "PrivateKey" _ rfl)
  · rw [fixed (by decide)]
    exact congrArg (fun value => some (JsonDoc.str value)) (shown "Address" _ rfl)
  · rw [fixed (by decide)]
    exact congrArg (fun value => some (JsonDoc.str value)) (peerShown "PublicKey" _ rfl)
  · rw [fixed (by decide)]
    exact congrArg (fun value => some (JsonDoc.str value)) (peerRead "PresharedKey")
  · refine ⟨items, ?_, itemsLine, plain⟩
    rw [fixed (by decide), ← isItems]
    rfl
  · have visible : ∀ value, (interfaceEntries interface peer profile obfuscation).lookup "MTU" =
        some value → value ≠ "" :=
      fun value found => interfaceEntry_visible built List.mem_cons_self found
    rw [fixed (by decide), ← orDefault_getD "0" visible, ← interfaceRead,
      ← readAwgConf_mtu parsed]
    rfl
  · have text : orDefault (some (settingText parsed "Peer" "PersistentKeepalive")) "0" =
        toString peer.persistentKeepalive := by
      rw [peerShown "PersistentKeepalive" _ rfl, orDefault, if_neg]
      intro empty
      exact (toString_tokens peer.persistentKeepalive).1 (by rw [empty]; rfl)
    rw [fixed (by decide)]
    exact congrArg (fun value => some (JsonDoc.str value))
      ((readAwgConf_keepalive parsed).trans text)
  · refine ⟨host, portText, port, ?_, ?_, ?_, endpointLine, noColon, isNumber⟩
    · rw [fixed (by decide), ← isHost]
      rfl
    · rw [fixed (by decide), ← isPort]
      rfl
    · rw [AwgConf.container, isPort, if_neg nonzero]
      rfl
  · intro key ordered
    have isKey : awgEmitOrder.all (fun key => key ∈ awgKeys) = true := by decide
    have member : key ∈ awgKeys := by simpa using List.all_eq_true.mp isKey key ordered
    have other : ((readAwgConf parsed).lastFields text).lookup key = none := by
      rw [List.lookup_eq_none_iff]
      intro entry listed
      have names : entry.1 ∈ lastNames := List.mem_map_of_mem listed
      have apart : awgKeys.all (fun key => lastNames.all (fun name => key ≠ name)) = true := by
        decide
      simpa using List.all_eq_true.mp (List.all_eq_true.mp apart key member) entry.1 names
    rw [get?_lastConfig, if_pos member, extra_eq built interfaceRead member, other, Option.or_none]
  · have emitted : ∀ key ∈ awgKeys, (readAwgConf parsed).hasExtra key =
        ((interfaceEntries interface peer profile obfuscation).lookup key).isSome := by
      intro key isKey
      rw [hasExtra_eq, lookup_awgExtras, if_pos isKey, extra_eq built interfaceRead isKey]
    rw [AwgConf.container, emitted "S3" (by decide), emitted "S4" (by decide)]
    cases (interfaceEntries interface peer profile obfuscation).lookup "S3" with
    | none => rfl
    | some _ =>
        cases (interfaceEntries interface peer profile obfuscation).lookup "S4" with
        | none => rfl
        | some _ => rfl

end Described

/-- A key decodes to what was encoded, and the key of a built text to what its lines say. -/
theorem vpn_key_decodes (library : KeyLibrary)
    (inflates : ∀ data, library.decompress (library.compress data) = some data) :
    (∀ config, library.Reloads (.object config) → Fits library (.object config) →
      ∃ key, encodeAmneziaVpnKey library config = .ok key ∧
        KeyCarries library key (.object config)) ∧
    ∀ interface peer profile obfuscation text,
      buildConfig interface peer profile obfuscation = .ok text →
      (∀ value ∈ openValues interface peer obfuscation, isClean lineFeeds value = true) →
      ∃ conf, parseAwgConf text = .ok conf ∧
        (library.Reloads (conf.lastConfig text) →
          library.Reloads (.object (conf.amneziaJson text)) →
          Fits library (.object (conf.amneziaJson text)) →
          ∃ key, encodeAwgConfVpnKey library text = .ok key ∧
            KeyCarries library key (.object (conf.amneziaJson text)) ∧
            KeyDescribes library interface peer profile obfuscation text
              (.object (conf.amneziaJson text))) := by
  refine ⟨fun config reloads fits => encodeAmneziaVpnKey_carries inflates reloads fits, ?_⟩
  intro interface peer profile obfuscation text built clean
  obtain ⟨parsed, read, hasInterface, hasPeer, interfaceOptions, peerOptions⟩ :=
    built_readString built clean
  have writable := builtSections_writable built
  have interfaceRead := settingText_eq interfaceOptions
    (fun entry listed => (writable _ List.mem_cons_self entry listed).2)
  have peerRead := settingText_eq peerOptions
    (fun entry listed => (writable _ (List.mem_cons_of_mem _ List.mem_cons_self) entry listed).2)
  have parsedConf : parseAwgConf text = .ok (readAwgConf parsed) := by
    rw [parseAwgConf, read]
    dsimp only
    rw [if_neg (not_or.mpr ⟨not_not_intro hasInterface, not_not_intro hasPeer⟩)]
  refine ⟨readAwgConf parsed, parsedConf, ?_⟩
  intro reloadsLast reloads fits
  obtain ⟨key, encoded, carries⟩ := encodeAmneziaVpnKey_carries inflates reloads fits
  refine ⟨key, ?_, carries, built_toList built, ?_⟩
  · rw [encodeAwgConfVpnKey, parsedConf]
    exact encoded
  · exact ⟨_, _, _, _, _, rfl, rfl, rfl, rfl, reloadsLast,
      describesLines built clean interfaceRead peerRead⟩

/-! ### A key -/

def keyInterface : InterfaceFields :=
  ⟨"AAAAAAAAAAAAAAAAAAAAAAAAAAAAAAAAAAAAAAAAAAA=", "10.8.1.2/32", some "1.1.1.1", none⟩

def keyPeer : PeerFields :=
  ⟨"AAAAAAAAAAAAAAAAAAAAAAAAAAAAAAAAAAAAAAAAAAA=", "vpn.example.com:51820", "0.0.0.0/0, ::/0", 15,
    none⟩

def keyParameters : Obfuscation := Dict.ofList [("S3", .int 1), ("S4", .int 2)]

def keyLines : List (List Char) :=
  ["[Interface]".toList,
    settingChars ("PrivateKey", "AAAAAAAAAAAAAAAAAAAAAAAAAAAAAAAAAAAAAAAAAAA="),
    settingChars ("Address", "10.8.1.2/32"),
    settingChars ("DNS", "1.1.1.1"),
    settingChars ("S3", "1"),
    settingChars ("S4", "2"),
    [],
    "[Peer]".toList,
    settingChars ("PublicKey", "AAAAAAAAAAAAAAAAAAAAAAAAAAAAAAAAAAAAAAAAAAA="),
    settingChars ("Endpoint", "vpn.example.com:51820"),
    settingChars ("AllowedIPs", "0.0.0.0/0, ::/0"),
    settingChars ("PersistentKeepalive", "15")]

def keyText : String := String.ofList (endedLines keyLines)

def keyConf : AwgConf where
  privateKey := "AAAAAAAAAAAAAAAAAAAAAAAAAAAAAAAAAAAAAAAAAAA="
  address := "10.8.1.2/32"
  dns := ["1.1.1.1"]
  mtu := "0"
  awgExtras := [("S3", "1"), ("S4", "2")]
  publicKey := "AAAAAAAAAAAAAAAAAAAAAAAAAAAAAAAAAAAAAAAAAAA="
  presharedKey := ""
  host := "vpn.example.com"
  portText := "51820"
  allowedIps := ["0.0.0.0/0", "::/0"]
  persistentKeepalive := "15"

def smallObject : List (String × JsonDoc) := [("v", .int 1)]

def smallBytes : List UInt8 := utf8Bytes (JsonDoc.object smallObject).dumps

def keyBytesPlain : List UInt8 := utf8Bytes (JsonDoc.object (keyConf.amneziaJson keyText)).dumps

/-- What `zlib.compress` makes of the two documents. -/
def smallPacked : List UInt8 :=
  [120, 218, 171, 86, 42, 83, 178, 50, 172, 5, 0, 8, 147, 2, 30]

def keyPacked : List UInt8 :=
  ([120, 218, 157, 83, 81, 107, 227, 48, 12, 254, 43, 197, 207, 89, 214, 166, 43, 140, 192, 30,
    198, 238, 30, 198, 96, 20, 122, 111, 117, 9, 94, 162, 222, 204, 28, 219, 216, 78, 118, 189,
    210, 255, 62, 73, 238, 186, 49, 24, 108, 139, 243, 32, 125, 250, 36, 125, 72, 246, 94, 180,
    206, 38, 165, 45, 132, 40, 234, 245, 94, 168, 231, 191, 162, 222, 11, 29, 255, 60, 234, 208,
    45, 85, 72, 187, 27, 103, 183, 26, 209, 20, 6, 40, 132, 81, 49, 53, 237, 17, 18, 123, 41, 86,
    115, 41, 106, 41, 102, 82, 20, 232, 92, 176, 83, 177, 163, 140, 113, 207, 208, 53, 218, 71,
    68, 215, 82, 76, 75, 62, 231, 83, 14, 215, 53, 25, 27, 180, 90, 163, 193, 38, 228, 229, 74,
    211, 242, 178, 156, 149, 213, 249, 60, 151, 57, 70, 125, 208, 99, 243, 4, 59, 230, 92, 127,
    253, 187, 202, 69, 88, 49, 231, 174, 111, 109, 130, 176, 85, 45, 108, 164, 180, 75, 44, 171,
    18, 220, 193, 110, 114, 53, 249, 86, 89, 105, 175, 187, 46, 64, 140, 152, 248, 94, 179, 180,
    191, 238, 87, 132, 149, 124, 208, 95, 205, 201, 37, 227, 2, 13, 98, 224, 191, 94, 2, 4, 86,
    48, 60, 24, 221, 254, 72, 192, 111, 219, 121, 167, 109, 194, 204, 209, 219, 18, 254, 169,
    222, 27, 40, 91, 215, 215, 139, 217, 101, 53, 37, 141, 121, 9, 183, 75, 146, 121, 90, 64, 49,
    225, 233, 99, 115, 92, 188, 142, 9, 7, 124, 7, 224, 149, 209, 35, 144, 214, 5, 105, 164, 185,
    61, 186, 152, 238, 85, 15, 60, 185, 15, 61, 152, 208, 167, 129, 99, 121, 167, 254, 84, 14,
    87, 5, 190, 225, 130, 121, 171, 139, 76, 112, 33, 161, 207, 234, 200, 141, 79, 167, 157, 114,
    60, 66, 24, 33, 52, 126, 120, 248, 225, 174, 15, 162, 224, 38, 120, 57, 185, 9, 185, 193, 37,
    215, 58, 211, 140, 164, 206, 89, 12, 85, 8, 167, 160, 108, 36, 106, 195, 4, 68, 135, 206,
    139, 67, 241, 246, 36, 16, 82, 189, 133, 255, 90, 157, 209, 187, 56, 108, 10, 209, 193, 86,
    13, 38, 221, 124, 66, 33, 66, 108, 131, 246, 41, 247, 193, 137, 157, 197, 65, 39, 160, 136,
    141, 51, 132, 142, 215, 34, 3, 21, 2, 104, 189, 78, 57, 103, 188, 159, 177, 56, 188, 0, 28,
    132, 30, 177] : List Nat).map
    UInt8.ofNat

def keyDocuments : List JsonDoc :=
  [.object smallObject, keyConf.lastConfig keyText, .object (keyConf.amneziaJson keyText)]

/-- The library on these documents; other data are stored behind a zero. -/
def keyLibrary : KeyLibrary where
  compress data :=
    if data = smallBytes then smallPacked else if data = keyBytesPlain then keyPacked else 0 :: data
  decompress packed :=
    if packed = smallPacked then some smallBytes
    else if packed = keyPacked then some keyBytesPlain
    else if packed.head? = some 0 then some packed.tail
    else none
  loads text := keyDocuments.find? (fun document => document.dumps = text)

/-- What the packed documents and the text of the key are, evaluated once. -/
theorem keySample_checks :
    (smallPacked ≠ keyPacked ∧ smallPacked.head? ≠ some 0 ∧ keyPacked.head? ≠ some 0) ∧
    (smallPacked.length < 2 ^ 32 - 4 ∧ keyPacked.length < 2 ^ 32 - 4) ∧
    (keyDocuments.map JsonDoc.dumpChars).Nodup ∧
    (buildConfig keyInterface keyPeer .awg20Asc (some keyParameters)).toOption.isSome = true ∧
    sectionLines (builtSections keyInterface keyPeer .awg20Asc (some keyParameters)) =
      keyLines := by
  decide +kernel

theorem packed_differ : smallPacked ≠ keyPacked ∧ smallPacked.head? ≠ some 0 ∧
    keyPacked.head? ≠ some 0 :=
  keySample_checks.1

theorem keyLibrary_inflates (data : List UInt8) :
    keyLibrary.decompress (keyLibrary.compress data) = some data := by
  obtain ⟨differ, smallHead, keyHead⟩ := packed_differ
  by_cases isSmall : data = smallBytes
  · simp only [keyLibrary, if_pos isSmall, if_true]
    rw [isSmall]
  · by_cases isKey : data = keyBytesPlain
    · simp only [keyLibrary, if_neg isSmall, if_pos isKey, if_neg (Ne.symm differ), if_true]
      rw [isKey]
    · have notSmall : 0 :: data ≠ smallPacked := by
        intro same
        rw [← same] at smallHead
        exact smallHead rfl
      have notKey : 0 :: data ≠ keyPacked := by
        intro same
        rw [← same] at keyHead
        exact keyHead rfl
      simp only [keyLibrary, if_neg isSmall, if_neg isKey, if_neg notSmall, if_neg notKey,
        List.head?_cons, if_true, List.tail_cons]

theorem find?_dumps {documents : List JsonDoc} (distinct : (documents.map JsonDoc.dumps).Nodup)
    {document : JsonDoc} (member : document ∈ documents) :
    documents.find? (fun other => other.dumps = document.dumps) = some document := by
  induction documents with
  | nil => exact absurd member List.not_mem_nil
  | cons first rest ih =>
      rw [List.map_cons, List.nodup_cons] at distinct
      rcases List.mem_cons.mp member with rfl | later
      · exact List.find?_cons_of_pos (by simp)
      · have different : first.dumps ≠ document.dumps :=
          fun same => distinct.1 (same ▸ List.mem_map_of_mem later)
        rw [List.find?_cons_of_neg (by simpa using different)]
        exact ih distinct.2 later

theorem keyLibrary_reloads : ∀ document ∈ keyDocuments, keyLibrary.Reloads document := by
  have different := keySample_checks.2.2.1
  have distinct := different.map (fun left right same => String.ofList_injective same)
  rw [List.map_map] at distinct
  intro document member
  exact find?_dumps distinct member

theorem keyText_built : buildConfig keyInterface keyPeer .awg20Asc (some keyParameters) =
    .ok keyText := by
  have isBuilt : (buildConfig keyInterface keyPeer .awg20Asc
      (some keyParameters)).toOption.isSome = true := keySample_checks.2.2.2.1
  cases built : buildConfig keyInterface keyPeer .awg20Asc (some keyParameters) with
  | error errors =>
      rw [built] at isBuilt
      cases isBuilt
  | ok text =>
      have lines : sectionLines (builtSections keyInterface keyPeer .awg20Asc
          (some keyParameters)) = keyLines := keySample_checks.2.2.2.2
      apply congrArg Except.ok
      rw [← String.toList_inj, built_toList built, lines, keyText, String.toList_ofList]

theorem keyText_parsed : parseAwgConf keyText = .ok keyConf := by
  have isParsed : (parseAwgConf keyText).toOption = some keyConf := by
    rw [parseAwgConf, readString, keyText, String.toList_ofList]
    decide +kernel
  cases parsed : parseAwgConf keyText with
  | error error =>
      rw [parsed] at isParsed
      cases isParsed
  | ok conf =>
      rw [parsed] at isParsed
      exact congrArg Except.ok (Option.some.inj isParsed)

/-- The document is short: the texts in it are lists of characters again before they count. -/
theorem keyDocument_short :
    4 * (JsonDoc.object (keyConf.amneziaJson keyText)).dumpChars.length < 2 ^ 32 := by
  simp only [AwgConf.amneziaJson, AwgConf.container, AwgConf.lastConfig, AwgConf.lastFields,
    List.cons_append, List.nil_append, List.map_cons, List.map_nil, if_true, keyConf, JsonDoc.dumps,
    JsonDoc.dumpChars, JsonDoc.dumpMembers, JsonDoc.dumpItems, JsonDoc.quoted, keyText,
    String.toList_ofList]
  decide +kernel

theorem keyLibrary_fits : Fits keyLibrary (.object smallObject) ∧
    Fits keyLibrary (.object (keyConf.amneziaJson keyText)) := by
  have compressed : ∀ data, data = smallBytes ∨ data = keyBytesPlain →
      (keyLibrary.compress data).length < 2 ^ 32 - 4 := by
    intro data known
    have bounds := keySample_checks.2.1
    dsimp only [keyLibrary]
    by_cases small : data = smallBytes
    · rw [if_pos small]
      exact bounds.1
    · rw [if_neg small, if_pos (known.resolve_left small)]
      exact bounds.2
  refine ⟨⟨compressed smallBytes (Or.inl rfl), ?_⟩, compressed keyBytesPlain (Or.inr rfl), ?_⟩
  · decide +kernel
  · exact Nat.lt_of_le_of_lt (length_utf8Bytes_le _) keyDocument_short

/-- A small object and the key of a text with both `S3` and `S4`. -/
theorem sample_key_decodes :
    (∃ key, encodeAmneziaVpnKey keyLibrary smallObject = .ok key ∧
      KeyCarries keyLibrary key (.object smallObject)) ∧
    ∃ key, encodeAwgConfVpnKey keyLibrary keyText = .ok key ∧
      KeyCarries keyLibrary key (.object (keyConf.amneziaJson keyText)) ∧
      KeyDescribes keyLibrary keyInterface keyPeer .awg20Asc (some keyParameters) keyText
        (.object (keyConf.amneziaJson keyText)) := by
  obtain ⟨small, configured⟩ := vpn_key_decodes keyLibrary keyLibrary_inflates
  have clean : ∀ value ∈ openValues keyInterface keyPeer (some keyParameters),
      isClean lineFeeds value = true := by
    decide +kernel
  have reloads := keyLibrary_reloads
  simp only [keyDocuments, List.mem_cons, List.not_mem_nil, or_false, forall_eq_or_imp,
    forall_eq] at reloads
  obtain ⟨reloadsSmall, reloadsLast, reloadsKey⟩ := reloads
  obtain ⟨conf, parsed, described⟩ := configured keyInterface keyPeer .awg20Asc
    (some keyParameters) keyText keyText_built clean
  obtain rfl := Except.ok.inj (keyText_parsed.symm.trans parsed)
  exact ⟨small smallObject reloadsSmall keyLibrary_fits.1,
    described reloadsLast reloadsKey keyLibrary_fits.2⟩

end VpnSuite.Config
