/-
The three configurations of a client (`core/amnezia_config.py`, with
`services/server_obfuscation.py`).

The obfuscation parameters are read from the `request_params` of a profile, every one with
`int`, whatever it raises.  They decide the profile of the AmneziaWG configuration.  The
metrics are left out.
-/

import VpnSuite.Config.ConfigBuilder
import VpnSuite.Fleet.DeviceModel

set_option autoImplicit false

namespace VpnSuite.Config

open Foundations
open Foundations.PythonText
open VpnSuite.Fleet (NodeMode)

/-- The `request_params` of a server profile. -/
abbrev RequestParams := Dict String Json

/-- What the derivation of a configuration raises: `int`, the check of S1 and S2, `",".join`
and a `ConfigValidationError`. -/
inductive ProfileError where
  | badInt (error : IntError)
  | kernelConstraint (s1 s2 : Int)
  | badJoin
  | validation (errors : List String)
  deriving DecidableEq, Repr

/-- The text of the `ValueError` of `_validate_s1_s2_constraint`. -/
def kernelConstraintText (s1 s2 : Int) : String :=
  "AmneziaWG kernel requires S1+56 ≠ S2; got S1=" ++ toString s1 ++ " S2=" ++ toString s2 ++
    " (S1+56=" ++ toString (s1 + 56) ++ ")"

/-! ### Obfuscation parameters of a profile -/

def defaultJc : Int := 3
def defaultJmin : Int := 10
def defaultJmax : Int := 50
def defaultS1 : Int := 213
def defaultS2 : Int := 237

/-- `_DEFAULT_H_FALLBACK`. -/
def defaultH1 : Int := 10
def defaultH2 : Int := 20
def defaultH3 : Int := 30
def defaultH4 : Int := 40

def checkS1S2 (s1 s2 : Int) : Except ProfileError Unit :=
  if s1 + 56 = s2 then .error (.kernelConstraint s1 s2) else .ok ()

def readInteger (value : Json) : Except ProfileError Int :=
  match value.toInt with
  | .error error => .error (.badInt error)
  | .ok number => .ok number

/-- `int(params.get(key, default))`. -/
def intParam (params : RequestParams) (key : String) (default : Int) :
    Except ProfileError Int :=
  match params.get? key with
  | none => .ok default
  | some value => readInteger value

/-- `I1` to `I5` as far as the profile has them. -/
def signatureParams (params : RequestParams) : List (String × Json) :=
  [("I1", "amnezia_i1"), ("I2", "amnezia_i2"), ("I3", "amnezia_i3"), ("I4", "amnezia_i4"),
    ("I5", "amnezia_i5")].filterMap (fun (key, paramKey) =>
      (params.get? paramKey).map (fun raw =>
        (key, .str (match raw with
          | .null => ""
          | value => value.toText))))

def defaultObfuscation : List (String × Json) :=
  [("Jc", .int defaultJc), ("Jmin", .int defaultJmin), ("Jmax", .int defaultJmax),
    ("S1", .int defaultS1), ("S2", .int defaultS2), ("H1", .int defaultH1),
    ("H2", .int defaultH2), ("H3", .int defaultH3), ("H4", .int defaultH4)]

/-- `get_obfuscation_params`. -/
def getObfuscationParams (params : RequestParams) : Except ProfileError Obfuscation :=
  if params.entries.isEmpty then do
    checkS1S2 defaultS1 defaultS2
    .ok (Dict.ofList defaultObfuscation)
  else do
    let s1 ← intParam params "amnezia_s1" defaultS1
    let s2 ← intParam params "amnezia_s2" defaultS2
    checkS1S2 s1 s2
    let jc ← intParam params "amnezia_jc" defaultJc
    let jmin ← intParam params "amnezia_jmin" defaultJmin
    let jmax ← intParam params "amnezia_jmax" defaultJmax
    let h1 ← intParam params "amnezia_h1" defaultH1
    let h2 ← intParam params "amnezia_h2" defaultH2
    let h3 ← intParam params "amnezia_h3" defaultH3
    let h4 ← intParam params "amnezia_h4" defaultH4
    let s3 ← intParam params "amnezia_s3" 0
    let s4 ← intParam params "amnezia_s4" 0
    .ok (Dict.ofList
      ([("Jc", .int jc), ("Jmin", .int jmin), ("Jmax", .int jmax), ("S1", .int s1),
        ("S2", .int s2), ("H1", .int h1), ("H2", .int h2), ("H3", .int h3), ("H4", .int h4),
        ("S3", .int s3), ("S4", .int s4)] ++ signatureParams params))

def serverHeaderParams : List String := ["amnezia_h1", "amnezia_h2", "amnezia_h3", "amnezia_h4"]

/-- `request_params_with_server_h`. -/
def requestParamsWithServerH (nodeMode : NodeMode) (requestParams : Option RequestParams) :
    RequestParams :=
  let params := requestParams.getD Dict.empty
  if nodeMode = .real then serverHeaderParams.foldl Dict.erase params else params

/-! ### The profile of a configuration -/

def profileKeys : List String :=
  ["H1", "H2", "H3", "H4", "S3", "S4", "I1", "I2", "I3", "I4", "I5"]

/-- A value that does not ask for the AWG 2.0 profile. -/
def isInert : Json → Bool
  | .null => true
  | .str text => strip text = ""
  | value => value.asInt?.any (fun number => number ≤ 0)

/-- `_select_awg_profile`. -/
def selectAwgProfile (obfuscation : Option Obfuscation) : ConfigProfile :=
  match obfuscation with
  | none => .awgLegacyOrBasic
  | some obf =>
      if profileKeys.any (fun key => (obf.get? key).any (fun value => !isInert value)) then
        .awg20Asc
      else .awgLegacyOrBasic

/-! ### The configurations -/

/-- `DEFAULT_ADDRESS`. -/
def defaultAddress : String := "10.8.1.2/32"

/-- The arguments of `build_all_configs`. -/
structure ConfigRequest where
  serverPublicKey : String
  clientPrivateKey : String
  endpoint : Option String
  allowedIps : String
  dns : Option String
  persistentKeepalive : Int
  obfuscation : Option Obfuscation
  mtu : Option Int
  address : Option String
  presharedKey : Option String

def ConfigRequest.interface (request : ConfigRequest) (defaultDns : String) : InterfaceFields :=
  { privateKey := request.clientPrivateKey
    address := orDefault request.address defaultAddress
    dns := some (orDefault request.dns defaultDns)
    mtu := request.mtu }

def ConfigRequest.peer (request : ConfigRequest) : PeerFields :=
  { publicKey := request.serverPublicKey
    endpoint := request.endpoint.getD ""
    allowedIps := request.allowedIps
    persistentKeepalive := request.persistentKeepalive
    presharedKey := request.presharedKey }

/-- `build_amnezia_client_config`. -/
def buildAmneziaClientConfig (request : ConfigRequest) : Except (List String) String :=
  buildConfig (request.interface "1.1.1.1, 1.0.0.1, 8.8.8.8, 8.8.4.4") request.peer
    (selectAwgProfile request.obfuscation) request.obfuscation

/-- `build_wg_obfuscated_config`. -/
def buildWgObfuscatedConfig (request : ConfigRequest) : Except (List String) String :=
  buildConfig (request.interface "1.1.1.1, 1.0.0.1") request.peer
    (selectAwgProfile request.obfuscation) request.obfuscation

/-- `build_standard_wg_client_config`. -/
def buildStandardWgClientConfig (request : ConfigRequest) : Except (List String) String :=
  buildConfig (request.interface "1.1.1.1, 1.0.0.1, 8.8.8.8, 8.8.4.4") request.peer
    .wireguardUniversal none

structure ClientConfigs where
  awg : String
  wgObf : String
  wg : String
  deriving DecidableEq, Repr

/-- `build_all_configs`. -/
def buildAllConfigs (request : ConfigRequest) : Except (List String) ClientConfigs := do
  let awg ← buildAmneziaClientConfig request
  let wgObf ← buildWgObfuscatedConfig request
  let wg ← buildStandardWgClientConfig request
  .ok ⟨awg, wgObf, wg⟩

end VpnSuite.Config
