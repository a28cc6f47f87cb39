/-
Query strings as `urllib.parse` reads them.

A name or a value may spell bytes with `%` and two hexadecimal digits.  The ASCII stretches of a
text are turned into bytes and decoded as UTF-8, and what is no UTF-8 is shown as U+FFFD, once for
every stretch of bytes that begins a character and breaks off.
-/

import VpnSuite.Foundations.PythonText

set_option autoImplicit false

namespace VpnSuite.Foundations.QueryString

open PythonText

/-! ### Bytes -/

def hexValue (char : Char) : Option Nat :=
  if '0' ≤ char ∧ char ≤ '9' then some (char.toNat - 48)
  else if 'a' ≤ char ∧ char ≤ 'f' then some (char.toNat - 87)
  else if 'A' ≤ char ∧ char ≤ 'F' then some (char.toNat - 55)
  else none

def hexByte (high low : Char) : Option Nat :=
  match hexValue high, hexValue low with
  | some first, some second => some (16 * first + second)
  | _, _ => none

/-- `unquote_to_bytes` of ASCII text. -/
def unquoteBytes : List Char → List Nat
  | [] => []
  | '%' :: high :: low :: more =>
      match hexByte high low with
      | some byte => byte :: unquoteBytes more
      | none => '%'.toNat :: unquoteBytes (high :: low :: more)
  | char :: rest => char.toNat :: unquoteBytes rest

/-! ### UTF-8 -/

def replacement : Char := Char.ofNat 0xfffd

/-- A character of which bytes are missing, with the bounds of the next one. -/
structure Partial where
  value : Nat
  missing : Nat
  low : Nat
  high : Nat

/-- What a byte at the beginning of a character gives. -/
def startByte (byte : Nat) : List Char × Option Partial :=
  if byte < 0x80 then ([Char.ofNat byte], none)
  else if 0xc2 ≤ byte ∧ byte ≤ 0xdf then ([], some ⟨byte - 0xc0, 1, 0x80, 0xbf⟩)
  else if byte = 0xe0 then ([], some ⟨0, 2, 0xa0, 0xbf⟩)
  else if byte = 0xed then ([], some ⟨0xd, 2, 0x80, 0x9f⟩)
  else if 0xe1 ≤ byte ∧ byte ≤ 0xef then ([], some ⟨byte - 0xe0, 2, 0x80, 0xbf⟩)
  else if byte = 0xf0 then ([], some ⟨0, 3, 0x90, 0xbf⟩)
  else if 0xf1 ≤ byte ∧ byte ≤ 0xf3 then ([], some ⟨byte - 0xf0, 3, 0x80, 0xbf⟩)
  else if byte = 0xf4 then ([], some ⟨4, 3, 0x80, 0x8f⟩)
  else ([replacement], none)

/-- `bytes.decode("utf-8", "replace")`. -/
def decodeFrom : Option Partial → List Nat → List Char
  | none, [] => []
  | some _, [] => [replacement]
  | none, byte :: rest => (startByte byte).1 ++ decodeFrom (startByte byte).2 rest
  | some read, byte :: rest =>
      if read.low ≤ byte ∧ byte ≤ read.high then
        if read.missing = 1 then
          Char.ofNat (64 * read.value + byte % 64) :: decodeFrom none rest
        else
          decodeFrom (some ⟨64 * read.value + byte % 64, read.missing - 1, 0x80, 0xbf⟩) rest
      else replacement :: ((startByte byte).1 ++ decodeFrom (startByte byte).2 rest)

/-! ### Names and values -/

def isAscii (char : Char) : Bool := char.toNat < 0x80

/-- `unquote`. -/
def unquote (chars : List Char) : List Char :=
  if '%' ∈ chars then
    (chars.splitBy (fun left right => isAscii left == isAscii right)).flatMap (fun run =>
      if run.all isAscii then decodeFrom none (unquoteBytes run) else run)
  else chars

def decodedPart (chars : List Char) : String :=
  String.ofList (unquote (chars.map (fun char => if char = '+' then ' ' else char)))

/-- `parse_qsl`, which drops the pairs without a value. -/
def parseQsl (text : String) : List (String × String) :=
  (text.toList.splitOn '&').filterMap (fun pair =>
    let (name, value) := partition '=' pair
    if value = [] then none else some (decodedPart name, decodedPart value))

example : parseQsl "a=%ff%41&b=%e2%82x&=5&b=&c&d=%4%41+" =
    [("a", "\uFFFDA"), ("b", "\uFFFDx"), ("", "5"), ("d", "%4A ")] := by decide +kernel

end VpnSuite.Foundations.QueryString
