/-
What the issue paths make of a server and its first profile
(`services/issue_service.py`, `services/admin_issue_service.py`,
`services/node_endpoint_utils.py`).

`issue_device`, `admin_issue_peer` and `admin_rotate_peer` each derive endpoint, DNS, MTU,
keepalive, preshared key and obfuscation from the row, the profile, the settings and what the
node answers.  The derivations are the same text; they differ in the server key, in the
AllowedIPs, in the order of the steps and in the sanitising of the result.

The values generated for a call and its address are its inputs.
-/

import VpnSuite.Config.AmneziaConfig
import VpnSuite.Config.Sanitize
import VpnSuite.ControlPlane.LiveKey

set_option autoImplicit false

namespace VpnSuite.Fleet

open Foundations
open Foundations.PythonText
open VpnSuite.Config
open VpnSuite.ControlPlane (LiveSources NodeMetadata ServerKeyError ServerRow adminServerKey
  issueServerKey sampleKey)
open VpnSuite.Runtime (parseIpv4)

/-! ### Rows, settings and answers -/

structure ServerProfile where
  mtu : Option Int
  requestParams : Option RequestParams
  disableIpv6OnUnstableRoute : Bool

/-- A server with the first of its profiles. -/
structure IssueServer where
  row : ServerRow
  vpnEndpoint : Option String
  presharedKey : Option String
  firstProfile : Option ServerProfile

structure IssueSettings where
  fleet : FleetSettings
  vpnDefaultHost : String
  deriving DecidableEq, Repr

/-- What the adapter answers when it is asked for the node and for the node's obfuscation
parameters, or the text of its exception. -/
structure RuntimeAnswers where
  node : Except String (Option NodeMetadata)
  obfuscation : Except String (Option Obfuscation)

/-- What is generated or allocated for one call. -/
structure ClientKeys where
  privateKey : String
  generatedPresharedKey : String
  address : String
  generated : generatedPresharedKey ≠ ""

/-! ### Reading `request_params` -/

def IssueServer.params (server : IssueServer) : RequestParams :=
  (server.firstProfile.bind ServerProfile.requestParams).getD Dict.empty

/-- `params.get(first) or params.get(second)`. -/
def getOr (params : RequestParams) (first second : String) : Json :=
  let value := (params.get? first).getD .null
  if value.truthy then value else (params.get? second).getD .null

/-- `int(value)`, its `TypeError` and `ValueError` passed over. -/
def lenientInt (value : Json) : Except ProfileError (Option Int) :=
  match value with
  | .null => .ok none
  | present =>
      match present.toInt with
      | .ok number => .ok (some number)
      | .error .overflowError => .error (.badInt .overflowError)
      | .error _ => .ok none

/-- `",".join(value)`. -/
def joinWithCommas : Json → Except ProfileError String
  | .str text => .ok (join "," (text.toList.map (fun char => String.ofList [char])))
  | .list items _ =>
      match items.mapM (fun item => match item with
        | .str text => some text
        | _ => none) with
      | some texts => .ok (join "," texts)
      | none => .error .badJoin
  | .dict entries _ => .ok (join "," (entries.map Prod.fst))
  | _ => .error .badJoin

/-! ### The endpoint -/

/-- `_is_private_ip`; a text without a colon is no IPv6 address. -/
def isPrivateIp (ip : String) : Bool :=
  let addr := (((stripChars ip.toList).splitOn '/').headD []).splitOn ':' |>.headD []
  if addr = [] ∨ addr = "localhost".toList then true
  else
    match parseIpv4 addr with
    | none => true
    | some octets => isPrivateIpv4 octets

/-- `is_endpoint_private`. -/
def isEndpointPrivate (endpoint : String) : Bool :=
  let host := ((stripChars endpoint.toList).splitOn ':').headD []
  host ≠ [] && isPrivateIp (String.ofList host)

/-- `get_endpoint_from_runtime`, once the node is found. -/
def endpointFromNode (defaultHost : String) (node : NodeMetadata) : Option String :=
  match node.listenPort with
  | none => none
  | some port =>
      if port = 0 then none
      else
        match node.endpointIp.bind orNone with
        | some ip =>
            if isPrivateIp ip then
              (orNone defaultHost).map (fun host => host ++ ":" ++ toString port)
            else some (ip ++ ":" ++ toString port)
        | none => (orNone defaultHost).map (fun host => host ++ ":" ++ toString port)

def endpointPort (endpoint : String) : String :=
  if ':' ∈ endpoint.toList then
    String.ofList (stripChars ((endpoint.toList.splitOn ':').getLastD []))
  else "45790"

section Derivation

variable (settings : IssueSettings) (sources : LiveSources) (answers : RuntimeAnswers)
  (server : IssueServer)

def IssueSettings.defaultHost : String := strip settings.vpnDefaultHost

/-- The endpoint of the row, of the profile, or of the node if there is an adapter. -/
def chosenEndpoint : Json :=
  match server.vpnEndpoint.bind orNone with
  | some endpoint => .str endpoint
  | none =>
      let configured := (server.params.get? "client_endpoint").getD .null
      if configured.truthy then configured
      else
        match sources.adapter, answers.node with
        | some _, .ok (some node) =>
            match endpointFromNode settings.defaultHost node with
            | some endpoint => .str endpoint
            | none => configured
        | _, _ => configured

/-- A private endpoint gives way to the default host; other texts are passed on. -/
def clientEndpoint : Option String :=
  match chosenEndpoint settings sources answers server with
  | .str endpoint =>
      if endpoint = "" then none
      else if isEndpointPrivate endpoint ∧ settings.defaultHost ≠ "" then
        some (settings.defaultHost ++ ":" ++ endpointPort endpoint)
      else some endpoint
  | value => if value.truthy then some value.toText else none

/-! ### DNS, MTU and keepalive -/

def clientDns : Except ProfileError String :=
  let requested := (server.params.get? "dns").getD .null
  if requested.truthy then do
    let dns ← match requested with
      | .str text => .ok text
      | value => joinWithCommas value
    if dns = "" then .ok defaultDns
    else if strip (String.ofList (dns.toList.filter (fun char => char ≠ ' '))) =
        "1.1.1.1,1.0.0.1" then .ok defaultDns
    else .ok dns
  else .ok defaultDns

def clientMtu : Except ProfileError Int := do
  let mtu ← match server.firstProfile.bind ServerProfile.mtu with
    | some mtu => .ok (some mtu)
    | none => lenientInt (getOr server.params "mtu" "amnezia_mtu")
  .ok ((mtu.filter (fun value => 0 < value)).getD 1200)

def clientKeepalive : Except ProfileError Int := do
  let requested ← lenientInt (getOr server.params "persistent_keepalive" "amnezia_keepalive")
  .ok (match requested with
    | none => 10
    | some seconds => max 10 (min 60 seconds))

structure LinkSettings where
  dns : String
  mtu : Int
  keepalive : Int
  deriving DecidableEq, Repr

def linkSettings : Except ProfileError LinkSettings := do
  let dns ← clientDns server
  let mtu ← clientMtu server
  let keepalive ← clientKeepalive server
  .ok ⟨dns, mtu, keepalive⟩

/-! ### Obfuscation and preshared key -/

/-- `{**base, **other}`. -/
def mergeObfuscation (base other : Obfuscation) : Obfuscation :=
  other.entries.foldl (fun merged entry => merged.set entry.1 entry.2) base

/-- The parameters of the node, if it reports all headers, over those of the profile. -/
def withNodeObfuscation (base : Obfuscation) (reported : Option Obfuscation) :
    Except ProfileError Obfuscation :=
  match reported with
  | none => .ok base
  | some obf =>
      if headerKeys.all (fun key => (setValue obf key).isSome) then do
        let _ ← headerKeys.mapM (fun key => readInteger ((obf.get? key).getD .null))
        .ok (mergeObfuscation base obf)
      else .ok base

/-- What the node reports; an exception of the adapter counts as no report. -/
def reportedObfuscation : Option Obfuscation :=
  match sources.adapter, answers.obfuscation with
  | some _, .ok reported => reported
  | _, _ => none

def clientObfuscation : Except ProfileError Obfuscation := do
  let base ← getObfuscationParams (requestParamsWithServerH settings.fleet.nodeMode
    (server.firstProfile.bind ServerProfile.requestParams))
  withNodeObfuscation base (reportedObfuscation sources answers)

/-- The key of the profile, of the row, or the generated one. -/
def clientPresharedKey (generated : String) : String :=
  let requested := getOr server.params "preshared_key" "amnezia_preshared_key"
  let chosen :=
    if requested.truthy then requested
    else
      match server.presharedKey.bind orNone with
      | some key => .str key
      | none => requested
  match chosen with
  | .str key => (orNone (strip key)).getD generated
  | _ => generated

/-! ### The configurations -/

def fullTunnel : String := "0.0.0.0/0, ::/0"

def IssueServer.disablesIpv6 : Bool :=
  server.firstProfile.any ServerProfile.disableIpv6OnUnstableRoute

def allowedIpsFullTunnel : String := if server.disablesIpv6 then "0.0.0.0/0" else fullTunnel

/-- The arguments of `build_all_configs`. -/
def configRequest (serverKey allowedIps : String) (link : LinkSettings) (obf : Obfuscation)
    (keys : ClientKeys) : ConfigRequest :=
  { serverPublicKey := serverKey
    clientPrivateKey := keys.privateKey
    endpoint := clientEndpoint settings sources answers server
    allowedIps := allowedIps
    dns := some link.dns
    persistentKeepalive := link.keepalive
    obfuscation := some obf
    mtu := some link.mtu
    address := some keys.address
    presharedKey := some (clientPresharedKey server keys.generatedPresharedKey) }

def builtConfigs (serverKey allowedIps : String) (link : LinkSettings) (obf : Obfuscation)
    (keys : ClientKeys) : Except ProfileError ClientConfigs :=
  match buildAllConfigs (configRequest settings sources answers server serverKey allowedIps link
    obf keys) with
  | .error errors => .error (.validation errors)
  | .ok configs => .ok configs

inductive ConfigError where
  | serverKey (error : ServerKeyError)
  | profile (error : ProfileError)
  deriving DecidableEq, Repr

def fromKey {α : Type} : Except ServerKeyError α → Except ConfigError α
  | .error error => .error (.serverKey error)
  | .ok value => .ok value

def fromProfile {α : Type} : Except ProfileError α → Except ConfigError α
  | .error error => .error (.profile error)
  | .ok value => .ok value

theorem fromKey_eq_ok {α : Type} {result : Except ServerKeyError α} {value : α} :
    fromKey result = .ok value ↔ result = .ok value := by
  cases result with
  | error error => simp [fromKey]
  | ok value => simp [fromKey]

theorem fromProfile_eq_ok {α : Type} {result : Except ProfileError α} {value : α} :
    fromProfile result = .ok value ↔ result = .ok value := by
  cases result with
  | error error => simp [fromProfile]
  | ok value => simp [fromProfile]

/-- The configurations of `issue_device`. -/
def issueConfigs (keys : ClientKeys) : Except ConfigError ClientConfigs := do
  let serverKey ← fromKey (issueServerKey settings.fleet sources server.row)
  let obf ← fromProfile (clientObfuscation settings sources answers server)
  let link ← fromProfile (linkSettings server)
  fromProfile (builtConfigs settings sources answers server serverKey
    (allowedIpsFullTunnel server) link obf keys)

/-- The configurations of `admin_issue_peer`, which sanitises the first of them twice. -/
def adminIssueConfigs (keys : ClientKeys) : Except ConfigError ClientConfigs := do
  let serverKey ← fromKey (adminServerKey settings.fleet sources server.row)
  let link ← fromProfile (linkSettings server)
  let obf ← fromProfile (clientObfuscation settings sources answers server)
  let configs ← fromProfile (builtConfigs settings sources answers server serverKey
    (allowedIpsFullTunnel server) link obf keys)
  .ok { configs with awg := sanitizeAwgConf (sanitizeAwgConf configs.awg) }

/-- The configurations of `admin_rotate_peer`. -/
def rotateConfigs (keys : ClientKeys) : Except ConfigError ClientConfigs := do
  let serverKey ← fromKey (adminServerKey settings.fleet sources server.row)
  let link ← fromProfile (linkSettings server)
  let obf ← fromProfile (clientObfuscation settings sources answers server)
  fromProfile (builtConfigs settings sources answers server serverKey fullTunnel link obf keys)

end Derivation

/-! ### A server on a node -/

theorem sampleKey_nonempty : sampleKey ≠ "" := by decide

def sampleIssueSettings : IssueSettings := ⟨⟨.real, .docker, false⟩, "vpn.example.com"⟩

/-- The adapter finds the node under its id and reports no obfuscation of its own. -/
def sampleLiveSources : LiveSources :=
  ⟨.error "disabled", some (.ok (some ⟨"node-1", some sampleKey, some 45790, none⟩)), 0, 0⟩

def sampleAnswers : RuntimeAnswers := ⟨.ok none, .ok none⟩

def sampleIssueServer (params : List (String × Json)) (ipv4Only : Bool) : IssueServer :=
  { row := ⟨"node-1", none, none, none⟩
    vpnEndpoint := some "vpn.example.com:45790"
    presharedKey := none
    firstProfile := some ⟨none, some (Dict.ofList params), ipv4Only⟩ }

end VpnSuite.Fleet
