/-
JSON documents, and `json.dumps` of them with compact separators and without ASCII escapes.

An integer is printed from its value, a float as `repr` shows it; an object keeps the order of
its members.
-/

import VpnSuite.Foundations.OrderedDict

set_option autoImplicit false

namespace VpnSuite.Foundations

inductive JsonDoc where
  | null
  | bool (value : Bool)
  | int (value : Int)
  | float (shown : String)
  | str (text : String)
  | list (items : List JsonDoc)
  | object (members : List (String × JsonDoc))

namespace JsonDoc

/-- `document[key]` of an object. -/
def get? : JsonDoc → String → Option JsonDoc
  | .object members, key => members.lookup key
  | _, _ => none

/-- `document[index]` of a list. -/
def item? : JsonDoc → Nat → Option JsonDoc
  | .list items, index => items[index]?
  | _, _ => none

/-! ### `json.dumps` -/

def hexDigits : List Char := "0123456789abcdef".toList

/-- The escapes of `encode_basestring`: quotes, backslashes and control characters. -/
def escapeChar (char : Char) : List Char :=
  if char = '"' then ['\\', '"']
  else if char = '\\' then ['\\', '\\']
  else if char = '\n' then ['\\', 'n']
  else if char = '\r' then ['\\', 'r']
  else if char = '\t' then ['\\', 't']
  else if char.toNat = 8 then ['\\', 'b']
  else if char.toNat = 12 then ['\\', 'f']
  else if char.toNat < 32 then
    ['\\', 'u', '0', '0', hexDigits.getD (char.toNat / 16) '0', hexDigits.getD (char.toNat % 16) '0']
  else [char]

def quoted (text : String) : List Char := '"' :: text.toList.flatMap escapeChar ++ ['"']

mutual

def dumpChars : JsonDoc → List Char
  | .null => "null".toList
  | .bool value => (if value then "true" else "false").toList
  | .int value => (toString value).toList
  | .float shown => shown.toList
  | .str text => quoted text
  | .list items => '[' :: dumpItems items ++ [']']
  | .object members => '{' :: dumpMembers members ++ ['}']

def dumpItems : List JsonDoc → List Char
  | [] => []
  | item :: rest => dumpChars item ++ if rest.isEmpty then [] else ',' :: dumpItems rest

def dumpMembers : List (String × JsonDoc) → List Char
  | [] => []
  | (key, value) :: rest =>
      quoted key ++ ':' :: dumpChars value ++ if rest.isEmpty then [] else ',' :: dumpMembers rest

end

/-- `json.dumps(document, separators=(",", ":"), ensure_ascii=False)`. -/
def dumps (document : JsonDoc) : String := String.ofList (dumpChars document)

end JsonDoc

end VpnSuite.Foundations
