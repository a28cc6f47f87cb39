/-
Which texts `ipaddress` accepts, and which IPv4 addresses it calls private.

The code keeps the texts and never asks for an IPv6 address itself, so that of an IPv6 text
only its form counts.
-/

import VpnSuite.Foundations.PythonNumbers
import VpnSuite.Runtime.DockerAddPeer

set_option autoImplicit false

namespace VpnSuite.Config

open Foundations.PythonText
open VpnSuite.Runtime (decimalValue isDecimal parseIpv4)

/-! ### Addresses -/

def isHexDigit (char : Char) : Bool :=
  ('0' ≤ char && char ≤ '9') || ('A' ≤ char && char ≤ 'F') || ('a' ≤ char && char ≤ 'f')

/-- `_parse_hextet`. -/
def isHextet (chars : List Char) : Bool :=
  !chars.isEmpty && chars.length ≤ 4 && chars.all isHexDigit

/-- The parts between the colons; an address in IPv4 form at the end stands for two hextets. -/
def hextetParts (chars : List Char) : Option (List (List Char)) :=
  let parts := chars.splitOn ':'
  let last := parts.getLastD []
  if parts.length < 3 then none
  else if '.' ∈ last then
    if (parseIpv4 last).isSome then some (parts.dropLast ++ [['0'], ['0']]) else none
  else some parts

/-- The places of `::`, the first and the last part set aside. -/
def skipIndices (parts : List (List Char)) : List Nat :=
  (List.range parts.length).filter (fun index =>
    0 < index ∧ index + 1 < parts.length ∧ parts[index]? = some [])

/-- The parts on one side of `::`; the side may be empty. -/
def sideParts (side : List (List Char)) : List (List Char) := if side = [[]] then [] else side

/-- `_ip_int_from_string` of an IPv6 address. -/
def isIpv6Number (chars : List Char) : Bool :=
  match hextetParts chars with
  | none => false
  | some parts =>
      parts.length ≤ 9 &&
        match skipIndices parts with
        | [] => parts.length = 8 && parts.all isHextet
        | [skip] =>
            let high := sideParts (parts.take skip)
            let low := sideParts (parts.drop (skip + 1))
            high.length + low.length ≤ 7 && high.all isHextet && low.all isHextet
        | _ => false

/-- `IPv6Address(text)`, with the scope id that may follow it. -/
def isIpv6 (chars : List Char) : Bool :=
  '/' ∉ chars &&
    match chars.splitOn '%' with
    | [address] => isIpv6Number address
    | [address, scope] => scope ≠ [] && isIpv6Number address
    | _ => false

/-- `ip_address(text).version`; `none` is the `ValueError`. -/
def ipVersion (chars : List Char) : Option Nat :=
  if (parseIpv4 chars).isSome then some 4 else if isIpv6 chars then some 6 else none

/-! ### Networks -/

def ipv4Value (octets : List Nat) : Nat := octets.foldl (fun value octet => 256 * value + octet) 0

/-- `_prefix_from_prefix_string`. -/
def isPrefixLength (greatest : Nat) (mask : List Char) : Bool :=
  isDecimal mask && mask.length ≤ maxStrDigits && decimalValue mask ≤ greatest

/-- `_prefix_from_ip_string`: ones and then zeros, or zeros and then ones. -/
def isDottedMask (mask : List Char) : Bool :=
  match parseIpv4 mask with
  | none => false
  | some octets =>
      (List.range 33).any (fun bits =>
        ipv4Value octets + 2 ^ bits = 2 ^ 32 || ipv4Value octets + 1 = 2 ^ bits)

/-- What `ip_network(text, strict=False)` and `ip_interface(text)` accept. -/
def isIpNetwork (chars : List Char) : Bool :=
  match chars.splitOn '/' with
  | [address] => (parseIpv4 address).isSome || isIpv6 address
  | [address, mask] =>
      ((parseIpv4 address).isSome && (isPrefixLength 32 mask || isDottedMask mask)) ||
        (isIpv6 address && isPrefixLength 128 mask)
  | _ => false

/-! ### Private addresses -/

def ipv4PrivateNetworks : List (List Nat × Nat) :=
  [([0, 0, 0, 0], 8), ([10, 0, 0, 0], 8), ([127, 0, 0, 0], 8), ([169, 254, 0, 0], 16),
    ([172, 16, 0, 0], 12), ([192, 0, 0, 0], 24), ([192, 0, 0, 170], 31), ([192, 0, 2, 0], 24),
    ([192, 168, 0, 0], 16), ([198, 18, 0, 0], 15), ([198, 51, 100, 0], 24),
    ([203, 0, 113, 0], 24), ([240, 0, 0, 0], 4), ([255, 255, 255, 255], 32)]

def ipv4PrivateExceptions : List (List Nat × Nat) := [([192, 0, 0, 9], 32), ([192, 0, 0, 10], 32)]

def inIpv4Network (octets : List Nat) (network : List Nat × Nat) : Bool :=
  ipv4Value octets / 2 ^ (32 - network.2) = ipv4Value network.1 / 2 ^ (32 - network.2)

/-- `IPv4Address.is_private`. -/
def isPrivateIpv4 (octets : List Nat) : Bool :=
  ipv4PrivateNetworks.any (inIpv4Network octets) &&
    !ipv4PrivateExceptions.any (inIpv4Network octets)

end VpnSuite.Config
