/-
The `wg set` command of a peer, in its two spellings.

Without a preshared key a caller passes an argument list.  With one it hands
`sh -c` a script that pipes the key into `wg set … preshared-key /dev/stdin`.
The node agent (`node-agent/agent.py`, `_run_set_peer`) and the docker adapter
(`services/node_runtime_docker.py`, `add_peer`) build the same script text.
-/

import VpnSuite.Foundations.PosixShell
import VpnSuite.Foundations.PythonText
import Mathlib.Data.Int.Basic

set_option autoImplicit false

namespace VpnSuite.Runtime

open Foundations
open Foundations.PosixShell

/-- The peer a caller asks a runtime adapter to add (`services/node_runtime.py`). -/
structure PeerConfigLike where
  publicKey : String
  allowedIps : Option String
  presharedKey : Option String
  persistentKeepalive : Option Int
  deriving DecidableEq, Repr

/-- The arguments after the program name. -/
def wgSetArgs (iface publicKey allowedIps : String) (keepalive : Int) : List String :=
  ["set", iface, "peer", publicKey, "allowed-ips", allowedIps, "persistent-keepalive",
    toString keepalive]

/-- `psk.replace("'", "'\"'\"'")`. -/
def keyEscaped (psk : String) : String := String.ofList (escapeSingleQuotes psk.toList)

def pskScript (iface publicKey allowedIps : String) (keepalive : Int) (psk : String) : String :=
  "printf '%s\\n' '" ++ keyEscaped psk ++ "' | wg set " ++ iface ++ " peer " ++ publicKey ++
    " allowed-ips " ++ allowedIps ++ " persistent-keepalive " ++ toString keepalive ++
    " preshared-key /dev/stdin"

/-- What the script is meant to be: `printf` feeds the key to `wg` with the given arguments. -/
def pskPipeline (psk : String) (arguments : List String) : List Token :=
  pipeline (["printf", "%s\\n", psk].map String.toList)
    (("wg" :: arguments ++ ["preshared-key", "/dev/stdin"]).map String.toList)

/-! ### Keepalive values are plain words -/

def isNumberChar (char : Char) : Bool := char.isDigit || char == '-'

theorem toDigits_class (value : Nat) :
    ∀ char ∈ Nat.toDigits 10 value, isNumberChar char = true := by
  intro char member
  have digit := Nat.isDigit_of_mem_toDigits (by decide) (by decide) member
  simp [isNumberChar, digit]

theorem isNumberChar_free : reserved.all (fun char => !isNumberChar char) = true := by decide

theorem toString_keepalive_plain (keepalive : Int) :
    plainWord (toString keepalive).toList = true := by
  rw [Int.toString_eq_repr, Int.repr_eq_if]
  split
  · rw [Nat.repr_eq_ofList_toDigits, String.toList_ofList]
    exact plainWord_of_class isNumberChar isNumberChar_free Nat.toDigits_ne_nil
      (toDigits_class _)
  · rw [Nat.repr_eq_ofList_toDigits, String.toList_append]
    apply plainWord_of_class isNumberChar isNumberChar_free (by simp)
    intro char member
    rcases List.mem_append.mp member with sign | digit
    · rw [List.mem_singleton.mp sign]
      rfl
    · rw [String.toList_ofList] at digit
      exact toDigits_class _ char digit

/-! ### Reading the script back -/

def wordsBefore (iface publicKey : String) : List (List Char) :=
  ["wg", "set", iface, "peer", publicKey, "allowed-ips"].map String.toList

def wordsAfter (keepalive : Int) : List (List Char) :=
  ["persistent-keepalive", toString keepalive, "preshared-key", "/dev/stdin"].map String.toList

theorem pskScript_toList (iface publicKey allowedIps : String) (keepalive : Int)
    (psk : String) :
    (pskScript iface publicKey allowedIps keepalive psk).toList =
      "printf".toList ++ ' ' :: (singleQuoted "%s\\n".toList ++ ' ' :: (singleQuoted psk.toList ++
        ' ' :: '|' :: (spaced (wordsBefore iface publicKey) ++
          ' ' :: (allowedIps.toList ++ spaced (wordsAfter keepalive))))) := by
  have front : "printf '%s\\n' '".toList =
      "printf".toList ++ ' ' :: (singleQuoted "%s\\n".toList ++ [' ', singleQuoteChar]) := by
    decide
  have back : "' | wg set ".toList =
      singleQuoteChar :: ' ' :: '|' :: ' ' :: ("wg".toList ++ ' ' :: ("set".toList ++ [' '])) := by
    decide
  have peer : " peer ".toList = ' ' :: ("peer".toList ++ [' ']) := by decide
  have allowed : " allowed-ips ".toList = ' ' :: ("allowed-ips".toList ++ [' ']) := by decide
  have persistent : " persistent-keepalive ".toList =
      ' ' :: ("persistent-keepalive".toList ++ [' ']) := by decide
  have preshared : " preshared-key /dev/stdin".toList =
      ' ' :: ("preshared-key".toList ++ ' ' :: "/dev/stdin".toList) := by decide
  have quoted : singleQuoted psk.toList =
      singleQuoteChar :: (escapeSingleQuotes psk.toList ++ [singleQuoteChar]) := rfl
  unfold pskScript
  simp only [String.toList_append, front, back, peer, allowed, persistent, preshared, quoted,
    keyEscaped, String.toList_ofList, spaced, wordsBefore, wordsAfter, List.map_cons,
    List.map_nil, List.flatMap_cons, List.flatMap_nil, List.append_assoc, List.cons_append,
    List.nil_append, List.append_nil]

theorem printfFormat_noNul : ∀ char ∈ "%s\\n".toList, char ≠ Char.ofNat 0 := by
  have checked : "%s\\n".toList.all (fun char => char != Char.ofNat 0) = true := by decide
  intro char member
  exact bne_iff_ne.mp (List.all_eq_true.mp checked char member)

theorem lex_pskScript_front (psk : List Char) (rest : List Char)
    (noNul : ∀ char ∈ psk, char ≠ Char.ofNat 0) :
    lex .plain none ("printf".toList ++ ' ' :: (singleQuoted "%s\\n".toList ++
        ' ' :: (singleQuoted psk ++ ' ' :: '|' :: ' ' :: rest))) =
      (lex .plain none (' ' :: rest)).map (fun later =>
        words ["printf".toList, "%s\\n".toList, psk] ++ .pipe :: later) := by
  rw [lex_plainWord (by decide), lex_blank, lex_singleQuoted _ _ printfFormat_noNul, lex_blank,
    lex_singleQuoted _ _ noNul, lex_blank, lex_pipe_blank]
  simp only [Option.map_map]
  rfl

theorem lex_pskScript_nul (psk : List Char) (rest : List Char)
    (hasNul : ∃ char ∈ psk, char = Char.ofNat 0) :
    lex .plain none ("printf".toList ++ ' ' :: (singleQuoted "%s\\n".toList ++
        ' ' :: (singleQuoted psk ++ rest))) = none := by
  rw [lex_plainWord (by decide), lex_blank, lex_singleQuoted _ _ printfFormat_noNul, lex_blank,
    lex_singleQuoted_nul _ _ hasNul]
  rfl

theorem wordsBefore_plain {iface publicKey : String} (ifacePlain : plainWord iface.toList = true)
    (keyPlain : plainWord publicKey.toList = true) :
    ∀ text ∈ wordsBefore iface publicKey, plainWord text = true := by
  simp only [wordsBefore, List.map_cons, List.map_nil, List.forall_mem_cons]
  refine ⟨by decide, by decide, ifacePlain, by decide, keyPlain, by decide, ?_⟩
  simp

theorem wordsAfter_plain (keepalive : Int) :
    ∀ text ∈ wordsAfter keepalive, plainWord text = true := by
  simp only [wordsAfter, List.map_cons, List.map_nil, List.forall_mem_cons]
  refine ⟨by decide, toString_keepalive_plain keepalive, by decide, by decide, ?_⟩
  simp

theorem pskPipeline_eq (psk iface publicKey allowedIps : String) (keepalive : Int) :
    pskPipeline psk (wgSetArgs iface publicKey allowedIps keepalive) =
      words ["printf".toList, "%s\\n".toList, psk.toList] ++ .pipe ::
        (words (wordsBefore iface publicKey) ++
          words (allowedIps.toList :: wordsAfter keepalive)) := rfl

/-- For a plain interface name and key, the script is the intended pipeline
exactly when the allowed addresses are one plain word and the key has no NUL. -/
theorem tokens_pskScript_iff {iface publicKey : String}
    (ifacePlain : plainWord iface.toList = true) (keyPlain : plainWord publicKey.toList = true)
    (allowedIps : String) (keepalive : Int) (psk : String) :
    tokens (pskScript iface publicKey allowedIps keepalive psk).toList =
        some (pskPipeline psk (wgSetArgs iface publicKey allowedIps keepalive)) ↔
      plainWord allowedIps.toList = true ∧ Char.ofNat 0 ∉ psk.toList := by
  rw [tokens, pskScript_toList]
  by_cases hasNul : Char.ofNat 0 ∈ psk.toList
  · rw [lex_pskScript_nul _ _ ⟨_, hasNul, rfl⟩]
    simp [hasNul]
  · have noNul : ∀ char ∈ psk.toList, char ≠ Char.ofNat 0 := by
      intro char member nul
      exact hasNul (nul ▸ member)
    have opened : spaced (wordsBefore iface publicKey) ++
          ' ' :: (allowedIps.toList ++ spaced (wordsAfter keepalive)) =
        ' ' :: ("wg".toList ++ (spaced (wordsBefore iface publicKey).tail ++
          ' ' :: (allowedIps.toList ++ spaced (wordsAfter keepalive)))) := by
      simp [spaced, wordsBefore]
    rw [opened, lex_pskScript_front _ _ noNul, ← opened,
      lex_spaced _ (wordsBefore_plain ifacePlain keyPlain), pskPipeline_eq, Option.map_map,
      ← lex_eq_words_iff allowedIps.toList _ (wordsAfter_plain keepalive)]
    simp only [hasNul, not_false_eq_true, and_true]
    constructor
    · intro found
      obtain ⟨later, readLater, joined⟩ := Option.map_eq_some_iff.mp found
      simp only [Function.comp_apply, flush, List.nil_append, List.append_cancel_left_eq,
        List.cons.injEq, true_and] at joined
      rw [readLater, joined]
    · intro readLater
      rw [readLater]
      rfl

end VpnSuite.Runtime
