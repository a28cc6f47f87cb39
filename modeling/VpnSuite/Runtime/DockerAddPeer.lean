/-
The docker runtime adapter up to the command it runs
(`backend/app/services/node_runtime_docker.py`, `add_peer`).

`addPeerCommand` covers everything before `docker exec`: the sanitisers, the
refusal of full-tunnel addresses, the conflict check against the peers the node
lists, and the two spellings of the command.  The read-back, the route set-up and
the saved configuration come after the command and are not part of it.
-/

import VpnSuite.Agent.ReconcileModel
import VpnSuite.Runtime.PeerScript
import Mathlib.Data.Int.Order.Basic

set_option autoImplicit false

namespace VpnSuite.Runtime

open Foundations
open Foundations.PythonText

structure WireGuardCommandError where
  message : String
  command : String
  output : String
  deriving DecidableEq, Repr

/-- The fields of a discovered node that `add_peer` reads. -/
structure NodeMetadata where
  containerName : String
  interfaceName : Option String
  deriving DecidableEq, Repr

/-- One dictionary of `list_peers`. -/
structure ListedPeer where
  publicKey : Option String
  allowedIps : Option String
  deriving DecidableEq, Repr

/-! ### Sanitisers -/

def isAllowedIpsChar (char : Char) : Bool :=
  ('0' ≤ char && char ≤ '9') || ('A' ≤ char && char ≤ 'F') || ('a' ≤ char && char ≤ 'f') ||
    char == '.' || char == ',' || char == '/' || char == ':' || char == ' ' || char == '\t'

/-- `_ALLOWED_IPS_PATTERN`. -/
def allowedIpsPattern (text : String) : Bool :=
  text ≠ "" && text.toList.all isAllowedIpsChar

/-- Strip, then accept the text or raise with its first characters. -/
def sanitizeText (accepts : String → Bool) (message command : String) (shown : Nat)
    (text : String) : Except WireGuardCommandError String :=
  if accepts (strip text) then .ok (strip text)
  else .error ⟨message, command, slice shown (strip text)⟩

theorem sanitizeText_ok {accepts : String → Bool} {message command raw text : String}
    {shown : Nat} (accepted : sanitizeText accepts message command shown raw = .ok text) :
    text = strip raw ∧ accepts text = true := by
  unfold sanitizeText at accepted
  split at accepted
  · rename_i matched
    cases accepted
    exact ⟨rfl, matched⟩
  · cases accepted

def sanitizePublicKey : String → Except WireGuardCommandError String :=
  sanitizeText Agent.pubkeyRe "Invalid public key" "wg set peer" 16

def sanitizeAllowedIps : String → Except WireGuardCommandError String :=
  sanitizeText allowedIpsPattern "Invalid allowed IPs" "wg set allowed-ips" 32

def sanitizeInterfaceName : String → Except WireGuardCommandError String :=
  sanitizeText Agent.interfaceNameRe "Invalid interface name" "wg show" 32

def clampKeepalive (value : Option Int) : Int :=
  match value with
  | none => 25
  | some seconds => min (max seconds 0) 65535

/-! ### Host addresses -/

def decimalValue (digits : List Char) : Nat :=
  digits.foldl (fun value digit => 10 * value + (digit.toNat - 48)) 0

def isDecimal (text : List Char) : Bool := !text.isEmpty && text.all Char.isDigit

/-- One octet of an IPv4 address: at most three digits, no leading zero, at most 255. -/
def parseOctet (text : List Char) : Option Nat :=
  if isDecimal text && text.length ≤ 3 && (text == ['0'] || text.head? != some '0') &&
      decimalValue text ≤ 255 then
    some (decimalValue text)
  else none

def parseIpv4 (text : List Char) : Option (List Nat) :=
  if (text.splitOn '.').length = 4 then (text.splitOn '.').mapM parseOctet else none

/-- The masks that leave a single host: the prefix length 32 or the full netmask. -/
def isHostMask (mask : List Char) : Bool :=
  if isDecimal mask then decimalValue mask == 32
  else parseIpv4 mask == some [255, 255, 255, 255]

/-- The text of `ipaddress.ip_network(cidr, strict=False)` when it is an IPv4 `/32`. -/
def hostCidr (cidr : List Char) : Option String :=
  match cidr.splitOn '/' with
  | [address] =>
      if (parseIpv4 address).isSome then some (String.ofList address ++ "/32") else none
  | [address, mask] =>
      if (parseIpv4 address).isSome && isHostMask mask then
        some (String.ofList address ++ "/32")
      else none
  | _ => none

def extractIpv4HostCidrs (allowedIps : String) : List String :=
  (allowedIps.toList.splitOn ',').filterMap (fun token => hostCidr (stripChars token))

/-! ### The command -/

/-- The addresses of `target` that another listed peer already holds.  The source
joins a set, whose order is unspecified; the order here is that of `target`. -/
def conflicts (publicKey : String) (target : List String) (peer : ListedPeer) : List String :=
  if peer.publicKey = some publicKey then []
  else
    target.dedup.filter (fun cidr =>
      (extractIpv4HostCidrs (strip (orDefault peer.allowedIps ""))).contains cidr)

def checkConflicts (publicKey : String) (target : List String) :
    List ListedPeer → Except WireGuardCommandError Unit
  | [] => .ok ()
  | peer :: rest =>
      let shared := conflicts publicKey target peer
      if shared = [] then checkConflicts publicKey target rest
      else
        let conflict := String.intercalate ", " shared
        .error ⟨"allowed_ips conflict: " ++ conflict ++ " already assigned to another peer",
          "add_peer", slice 64 conflict⟩

def checkServerAllowedIps (rawAllowed : String) : Except WireGuardCommandError Unit :=
  if strip rawAllowed = "" || contains "0.0.0.0/0" rawAllowed then
    .error
      ⟨"Server peer AllowedIPs must be client tunnel /32 (e.g. 10.8.1.2/32), not 0.0.0.0/0",
        "add_peer", slice 32 rawAllowed⟩
  else .ok ()

/-- `["sh", "-c", script]` when a preshared key is given, else the argument list. -/
def peerCommand (iface publicKey allowedIps : String) (keepalive : Int)
    (presharedKey : Option String) : List String :=
  match presharedKey with
  | none => "wg" :: wgSetArgs iface publicKey allowedIps keepalive
  | some psk =>
      if psk = "" then "wg" :: wgSetArgs iface publicKey allowedIps keepalive
      else ["sh", "-c", pskScript iface publicKey allowedIps keepalive (strip psk)]

/-- `add_peer` up to `docker exec`: the container and the command run in it. -/
def addPeerCommand (nodeId : String) (node : Option NodeMetadata) (defaultInterface : String)
    (existing : List ListedPeer) (config : PeerConfigLike) :
    Except WireGuardCommandError (String × List String) :=
  match node with
  | none => .error ⟨"Node not found: " ++ nodeId, "docker exec wg set", ""⟩
  | some metadata => do
      let iface ← sanitizeInterfaceName (orDefault metadata.interfaceName defaultInterface)
      let publicKey ← sanitizePublicKey config.publicKey
      let rawAllowed := orDefault config.allowedIps ""
      checkServerAllowedIps rawAllowed
      let allowedIps ← sanitizeAllowedIps (strip rawAllowed)
      checkConflicts publicKey (extractIpv4HostCidrs allowedIps) existing
      .ok (metadata.containerName,
        peerCommand iface publicKey allowedIps (clampKeepalive config.persistentKeepalive)
          config.presharedKey)

end VpnSuite.Runtime
