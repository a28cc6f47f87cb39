/-
Redaction of texts before they are logged (`core/redaction.py`).

Five substitutions run one after the other, each over what the one before it wrote.  Their
patterns ignore case, and none of them leaves its parts a choice: what follows a repeated
class is never in the class, so each class is read as far as it goes.
-/

import VpnSuite.Foundations.PythonText
import VpnSuite.Foundations.Substitutions

set_option autoImplicit false

namespace VpnSuite.Access

open Foundations
open Foundations.PythonText
open Foundations.Substitutions

/-! ### Characters -/

/-- The letter that `re.I` compares a character by, for patterns of ASCII letters. -/
def foldCase (char : Char) : Char :=
  if char.toNat = 0x130 ∨ char.toNat = 0x131 then 'i'
  else if char.toNat = 0x17f then 's'
  else if char.toNat = 0x212a then 'k'
  else char.toLower

/-- `[A-Za-z0-9_-]`. -/
def isTokenChar (char : Char) : Bool :=
  isAsciiAlphanumeric (foldCase char) || char == '_' || char == '-'

/-- `[A-Za-z0-9+/=]`. -/
def isKeyTextChar (char : Char) : Bool :=
  isAsciiAlphanumeric (foldCase char) || char == '+' || char == '/' || char == '='

/-- `\.`. -/
def isDot (char : Char) : Bool := char == '.'

/-- `["']`. -/
def isQuote (char : Char) : Bool := char == '"' || char == '\''

/-- `[:=]`. -/
def isSeparator (char : Char) : Bool := char == ':' || char == '='

/-- `[^"'\s,}\]]`. -/
def isValueChar (char : Char) : Bool :=
  !(isQuote char || isSpace char || char == ',' || char == '}' || char == ']')

/-- `\w`; `unicode` tells the letters and digits beyond ASCII. -/
def isWordChar (unicode : Char → Bool) (char : Char) : Bool :=
  isAsciiAlphanumeric (foldCase char) || char == '_' || (128 ≤ char.toNat && unicode char)

/-- `\b`. -/
def atBoundary (unicode : Char → Bool) (before : Option Char) (text : List Char) : Bool :=
  before.any (isWordChar unicode) != text.head?.any (isWordChar unicode)

/-! ### Patterns -/

/-- A word of the pattern, in lower case. -/
def literal (word : String) : Substitutions.Part Char := fun text =>
  let length := word.toList.length
  if (text.take length).map foldCase = word.toList then some (text.take length, text.drop length)
  else none

/-- The keys whose values are redacted, in the order of the pattern's alternatives. -/
inductive SecretKey where
  | password
  | secretKey
  | secret
  | apiKey
  | authorization
  | bearer
  | token
  | refreshToken
  | accessToken
  | privateKey
  | privatekey
  | confirmToken
  | telegramToken
  | botToken
  deriving DecidableEq, Repr

def SecretKey.name : SecretKey → String
  | password => "password"
  | secretKey => "secret_key"
  | secret => "secret"
  | apiKey => "api_key"
  | authorization => "authorization"
  | bearer => "bearer"
  | token => "token"
  | refreshToken => "refresh_token"
  | accessToken => "access_token"
  | privateKey => "private_key"
  | privatekey => "privatekey"
  | confirmToken => "confirm_token"
  | telegramToken => "telegram_token"
  | botToken => "bot_token"

def SecretKey.all : List SecretKey :=
  [password, secretKey, secret, apiKey, authorization, bearer, token, refreshToken, accessToken,
    privateKey, privatekey, confirmToken, telegramToken, botToken]

/-- `_BEARER`. -/
def bearerAt : Matcher Char := fun _ text => do
  let (_, after) ← parts
    [literal "bearer", atLeast 1 isSpace, atLeast 1 isTokenChar, oneOf isDot,
      atLeast 1 isTokenChar, oneOf isDot, atLeast 1 isTokenChar] text
  pure ("Bearer REDACTED".toList, after)

/-- What follows the key in `_SECRET_KEYS`. -/
def secretValue : Substitutions.Part Char :=
  parts [atLeast 0 isSpace, oneOf isSeparator, atLeast 0 isSpace, perhaps (oneOf isQuote),
    atLeast 1 isValueChar, perhaps (oneOf isQuote)]

/-- `_SECRET_KEYS`. -/
def secretAt (unicode : Char → Bool) : Matcher Char := fun before text =>
  if atBoundary unicode before text then
    SecretKey.all.findSome? (fun key => do
      let (name, text) ← literal key.name text
      let (_, after) ← secretValue text
      pure (name ++ "=REDACTED".toList, after))
  else none

/-- `_PRIVATEKEY_LINE`. -/
def privateKeyAt : Matcher Char := fun _ text =>
  ["privatekey", "private_key"].findSome? (fun word => do
    let (name, text) ← literal word text
    let (_, after) ← parts
      [atLeast 0 isSpace, oneOf isSeparator, atLeast 0 isSpace, atLeast 40 isKeyTextChar] text
    pure (name ++ "=REDACTED".toList, after))

/-- `_CONFIG_TOKEN_URL`. -/
def configUrlAt : Matcher Char := fun _ text => do
  let (opening, text) ← parts [literal "/config", perhaps (literal "s"), literal "/"] text
  let (_, text) ← atLeast 10 isTokenChar text
  let (closing, after) ← literal "/download" text
  pure (opening ++ "REDACTED".toList ++ closing, after)

/-- `_CONFIG_TOKEN_QUERY`. -/
def configQueryAt : Matcher Char := fun _ text => do
  let (_, after) ← parts [literal "token=", atLeast 10 isTokenChar] text
  pure ("token=REDACTED".toList, after)

/-- `redact_for_log`. -/
def redactForLog (unicode : Char → Bool) : Option (List Char) → List Char
  | none => []
  | some text =>
      sub configQueryAt (sub configUrlAt (sub privateKeyAt
        (sub (secretAt unicode) (sub bearerAt text))))

/-! ### The characters of the keys -/

/-- The characters of the keys in lower case. -/
def isKeyChar (char : Char) : Bool := ('a' ≤ char && char ≤ 'z') || char == '_'

theorem toNat_of_isKeyChar {char : Char} (holds : isKeyChar char) :
    char.toNat = 95 ∨ (97 ≤ char.toNat ∧ char.toNat ≤ 122) := by
  simp only [isKeyChar, Bool.or_eq_true, Bool.and_eq_true, decide_eq_true_eq, beq_iff_eq] at holds
  rcases holds with ⟨low, high⟩ | rfl
  · exact .inr ⟨low, high⟩
  · exact .inl rfl

theorem toNat_of_keyLetter {char : Char} (holds : isKeyChar (foldCase char)) :
    char.toNat = 95 ∨ (65 ≤ char.toNat ∧ char.toNat ≤ 90) ∨
      (97 ≤ char.toNat ∧ char.toNat ≤ 122) ∨ char.toNat = 0x130 ∨ char.toNat = 0x131 ∨
      char.toNat = 0x17f ∨ char.toNat = 0x212a := by
  unfold foldCase at holds
  split at holds
  · omega
  split at holds
  · omega
  split at holds
  · omega
  by_cases upper : char.val ≥ 'A'.val ∧ char.val ≤ 'Z'.val
  · exact .inr (.inl ⟨upper.1, upper.2⟩)
  · have same : char.toLower = char := dif_neg upper
    rw [same] at holds
    rcases toNat_of_isKeyChar holds with small | small
    · exact .inl small
    · exact .inr (.inr (.inl small))

theorem plain_of_keyLetter {char : Char} (holds : isKeyChar (foldCase char)) :
    isSpace char = false ∧ isSeparator char = false ∧ isQuote char = false ∧ char ≠ '.' := by
  have code := toNat_of_keyLetter holds
  have differs (other : Char) (outside : other.toNat ∈ [58, 61, 34, 39, 46]) : char ≠ other := by
    rintro rfl
    simp only [List.mem_cons, List.not_mem_nil, or_false] at outside
    omega
  refine ⟨?_, ?_, ?_, differs '.' (by decide)⟩
  · simp only [isSpace, Bool.or_eq_false_iff, Bool.and_eq_false_iff, decide_eq_false_iff_not,
      beq_eq_false_iff_ne, ne_eq]
    omega
  · simp [isSeparator, differs ':' (by decide), differs '=' (by decide)]
  · simp [isQuote, differs '"' (by decide), differs '\'' (by decide)]

theorem eq_underscore_of_foldCase {char : Char} (folds : foldCase char = '_') : char = '_' := by
  unfold foldCase at folds
  split at folds
  · exact absurd folds (by decide)
  split at folds
  · exact absurd folds (by decide)
  split at folds
  · exact absurd folds (by decide)
  by_cases upper : char.val ≥ 'A'.val ∧ char.val ≤ 'Z'.val
  · have low : 65 ≤ char.val.toNat := upper.1
    have high : char.val.toNat ≤ 90 := upper.2
    have lowered : char.toLower = _ := dif_pos upper
    rw [lowered] at folds
    have code : (char.val.toNat + 32) % 4294967296 = 95 :=
      congrArg (fun other : Char => other.val.toNat) folds
    omega
  · have same : char.toLower = char := dif_neg upper
    rwa [same] at folds

theorem isWordChar_of_keyLetter (unicode : Char → Bool) {char : Char}
    (holds : isKeyChar (foldCase char)) : isWordChar unicode char := by
  rw [isKeyChar, Bool.or_eq_true, beq_iff_eq] at holds
  rcases holds with letter | underscore
  · simp [isWordChar, isAsciiAlphanumeric, letter]
  · rw [eq_underscore_of_foldCase underscore]
    rfl

theorem SecretKey.isKeyChar_of_mem (key : SecretKey) {char : Char}
    (member : char ∈ key.name.toList) : isKeyChar char := by
  have all : key.name.toList.all isKeyChar = true := by cases key <;> decide
  exact List.all_eq_true.mp all char member

theorem SecretKey.keyLetter_of_mem (key : SecretKey) {char : Char}
    (member : char ∈ key.name.toList) : isKeyChar (foldCase char) := by
  have folded : key.name.toList.all (fun char => isKeyChar (foldCase char)) = true := by
    cases key <;> decide
  exact List.all_eq_true.mp folded char member

theorem SecretKey.isValueChar_of_mem (key : SecretKey) {char : Char}
    (member : char ∈ key.name.toList) : isValueChar char := by
  have values : key.name.toList.all isValueChar = true := by cases key <;> decide
  exact List.all_eq_true.mp values char member

theorem SecretKey.map_foldCase (key : SecretKey) :
    key.name.toList.map foldCase = key.name.toList := by
  cases key <;> decide

theorem SecretKey.name_ne_nil (key : SecretKey) : key.name.toList ≠ [] := by
  cases key <;> decide

theorem SecretKey.mem_all (key : SecretKey) : key ∈ SecretKey.all := by
  cases key <;> decide

/-! ### What a match is -/

section Matches

variable {before : Option Char} {text matched after written : List Char} {word : String}

theorem literal_eq_some (read : literal word text = some (matched, after)) :
    text = matched ++ after ∧ matched.map foldCase = word.toList := by
  rw [literal, Option.ite_none_right_eq_some, Option.some.injEq, Prod.mk.injEq] at read
  obtain ⟨folds, rfl, rfl⟩ := read
  exact ⟨(List.take_append_drop _ _).symm, folds⟩

theorem mem_of_folded {name : List Char} (folds : name.map foldCase = word.toList) {char : Char}
    (member : char ∈ name) : foldCase char ∈ word.toList := by
  rw [← folds]
  exact List.mem_map_of_mem member

/-- A match of `_BEARER` is the word, white space, and three parts with dots, the last as far as it
goes. -/
theorem bearerAt_eq_some_parts (found : bearerAt before text = some (written, after)) :
    written = "Bearer REDACTED".toList ∧ ∃ name spaces first second third,
      text = name ++ (spaces ++ (first ++ '.' :: (second ++ '.' :: third))) ++ after ∧
      name.map foldCase = "bearer".toList ∧ (∀ char ∈ spaces, isSpace char) ∧ spaces ≠ [] ∧
      (first ≠ [] ∧ ∀ char ∈ first, isTokenChar char) ∧
      (second ≠ [] ∧ ∀ char ∈ second, isTokenChar char) ∧
      (third ≠ [] ∧ ∀ char ∈ third, isTokenChar char) ∧
      ∀ char ∈ after.head?, isTokenChar char = false := by
  obtain ⟨⟨matched, rest⟩, read, found⟩ := Option.bind_eq_some_iff.mp found
  obtain ⟨rfl, rfl⟩ := Prod.mk.injEq .. |>.mp (Option.some.inj found)
  obtain ⟨name, _, _, begun, read, -⟩ := parts_cons_eq_some.mp read
  obtain ⟨spaces, _, _, spaced, read, -⟩ := parts_cons_eq_some.mp read
  obtain ⟨first, _, _, header, read, -⟩ := parts_cons_eq_some.mp read
  obtain ⟨_, _, _, dot, read, -⟩ := parts_cons_eq_some.mp read
  obtain ⟨second, _, _, payload, read, -⟩ := parts_cons_eq_some.mp read
  obtain ⟨_, _, _, dot', read, -⟩ := parts_cons_eq_some.mp read
  obtain ⟨third, _, _, signature, read, -⟩ := parts_cons_eq_some.mp read
  obtain ⟨rfl, rfl⟩ := Prod.mk.injEq .. |>.mp (Option.some.inj read)
  obtain ⟨rfl, folds⟩ := literal_eq_some begun
  obtain ⟨rfl, someSpace, areSpaces, -⟩ := atLeast_eq_some spaced
  obtain ⟨rfl, someFirst, areFirst, -⟩ := atLeast_eq_some header
  obtain ⟨_, rfl, isDot_, rfl⟩ := oneOf_eq_some dot
  obtain ⟨rfl, someSecond, areSecond, -⟩ := atLeast_eq_some payload
  obtain ⟨_, rfl, isDot_', rfl⟩ := oneOf_eq_some dot'
  obtain ⟨rfl, someThird, areThird, stops⟩ := atLeast_eq_some signature
  have some {part : List Char} (enough : 1 ≤ part.length) : part ≠ [] :=
    List.length_pos_iff.mp enough
  refine ⟨rfl, name, spaces, first, second, third, ?_, folds, areSpaces, some someSpace,
    ⟨some someFirst, areFirst⟩, ⟨some someSecond, areSecond⟩, ⟨some someThird, areThird⟩, stops⟩
  rw [eq_of_beq isDot_, eq_of_beq isDot_']
  simp

theorem bearerAt_eq_some (found : bearerAt before text = some (written, after)) :
    written = "Bearer REDACTED".toList ∧ ∃ name spaces dotted last,
      text = name ++ spaces ++ (dotted ++ [last]) ++ after ∧
      name.map foldCase = "bearer".toList ∧ (∀ char ∈ spaces, isSpace char) ∧ spaces ≠ [] ∧
      (∀ char ∈ dotted, isTokenChar char ∨ char = '.') ∧ isTokenChar last := by
  obtain ⟨rfl, name, spaces, first, second, third, rfl, folds, areSpaces, someSpace,
    ⟨-, areFirst⟩, ⟨-, areSecond⟩, ⟨someThird, areThird⟩, -⟩ := bearerAt_eq_some_parts found
  rcases List.eq_nil_or_concat' third with rfl | ⟨third, last, rfl⟩
  · exact absurd rfl someThird
  · refine ⟨rfl, name, spaces, first ++ '.' :: (second ++ '.' :: third), last, by simp, folds,
      areSpaces, someSpace, ?_, areThird last (by simp)⟩
    intro char member
    simp only [List.mem_append, List.mem_cons] at member
    rcases member with member | rfl | member | rfl | member
    · exact .inl (areFirst char member)
    · exact .inr rfl
    · exact .inl (areSecond char member)
    · exact .inr rfl
    · exact .inl (areThird char (List.mem_append_left _ member))

/-- What stands between a key and its value: the separator in white space, and a quote. -/
def Introduces (lead : List Char) : Prop :=
  ∃ (spaces : List Char) (separator : Char) (more quote : List Char),
    lead = spaces ++ separator :: (more ++ quote) ∧ (∀ char ∈ spaces, isSpace char) ∧
      isSeparator separator ∧ (∀ char ∈ more, isSpace char) ∧ quote.length ≤ 1 ∧
      ∀ char ∈ quote, isQuote char

theorem Introduces.separator_mem {lead : List Char} (introduces : Introduces lead) :
    ∃ separator ∈ lead, isSeparator separator := by
  obtain ⟨spaces, separator, more, quote, rfl, -, isSep, -⟩ := introduces
  exact ⟨separator, by simp, isSep⟩

theorem Introduces.kind {lead : List Char} (introduces : Introduces lead) {char : Char}
    (member : char ∈ lead) : isSpace char ∨ isSeparator char ∨ isQuote char := by
  obtain ⟨spaces, separator, more, quote, rfl, areSpaces, isSep, areMore, -, areQuotes⟩ :=
    introduces
  rcases List.mem_append.mp member with member | member
  · exact .inl (areSpaces char member)
  rcases List.mem_cons.mp member with rfl | member
  · exact .inr (.inl isSep)
  rcases List.mem_append.mp member with member | member
  · exact .inl (areMore char member)
  · exact .inr (.inr (areQuotes char member))

/-- No letter of a key introduces its value. -/
theorem Introduces.leaves {lead : List Char} (introduces : Introduces lead) :
    ∃ first rest, lead = first :: rest ∧ isKeyChar (foldCase first) = false := by
  obtain ⟨first, rest, rfl⟩ : ∃ first rest, lead = first :: rest := by
    obtain ⟨spaces, separator, more, quote, rfl, -⟩ := introduces
    exact List.exists_cons_of_ne_nil (by simp)
  refine ⟨first, rest, rfl, ?_⟩
  by_contra letter
  obtain ⟨solid, separatorless, unquoted, -⟩ := plain_of_keyLetter (Bool.of_not_eq_false letter)
  have kind := introduces.kind List.mem_cons_self
  simp [solid, separatorless, unquoted] at kind

theorem perhaps_oneOf_eq_some {inClass : Char → Bool}
    (read : perhaps (oneOf inClass) text = some (matched, after)) :
    text = matched ++ after ∧ matched.length ≤ 1 ∧ ∀ char ∈ matched, inClass char := by
  rw [perhaps] at read
  cases found : oneOf inClass text with
  | none =>
      rw [found, Option.none_or, Option.some.injEq, Prod.mk.injEq] at read
      obtain ⟨rfl, rfl⟩ := read
      exact ⟨rfl, Nat.zero_le 1, by simp⟩
  | some result =>
      rw [found, Option.some_or, Option.some.injEq] at read
      obtain ⟨char, rfl, inside, rfl⟩ := oneOf_eq_some (read ▸ found)
      exact ⟨rfl, Nat.le_refl 1, by simpa using inside⟩

/-- What follows the key: what introduces the value, the value as far as it goes, and a quote. -/
theorem secretValue_eq_some (read : secretValue text = some (matched, after)) :
    ∃ lead value trail, matched = lead ++ (value ++ trail) ∧ text = matched ++ after ∧
      Introduces lead ∧ value ≠ [] ∧ (∀ char ∈ value, isValueChar char) ∧
      (∀ char ∈ trail, isQuote char) ∧
      ∀ char ∈ (trail ++ after).head?, isValueChar char = false := by
  obtain ⟨spaces, _, _, spaced, fromSeparator, rfl⟩ := parts_cons_eq_some.mp read
  obtain ⟨_, _, _, separated, fromSpaces, rfl⟩ := parts_cons_eq_some.mp fromSeparator
  obtain ⟨more, _, _, spaced', fromQuote, rfl⟩ := parts_cons_eq_some.mp fromSpaces
  obtain ⟨quote, _, _, quoted, fromValue, rfl⟩ := parts_cons_eq_some.mp fromQuote
  obtain ⟨value, _, _, valued, fromTrail, rfl⟩ := parts_cons_eq_some.mp fromValue
  obtain ⟨trail, _, _, quoted', atEnd, rfl⟩ := parts_cons_eq_some.mp fromTrail
  obtain ⟨rfl, rfl⟩ := Prod.mk.injEq .. |>.mp (Option.some.inj atEnd)
  obtain ⟨rfl, -, areSpaces, -⟩ := atLeast_eq_some spaced
  obtain ⟨separator, rfl, isSep, rfl⟩ := oneOf_eq_some separated
  obtain ⟨rfl, -, areMore, -⟩ := atLeast_eq_some spaced'
  obtain ⟨rfl, single, areQuotes⟩ := perhaps_oneOf_eq_some quoted
  obtain ⟨rfl, someValue, areValues, stops⟩ := atLeast_eq_some valued
  obtain ⟨rfl, -, areQuotes'⟩ := perhaps_oneOf_eq_some quoted'
  exact ⟨spaces ++ separator :: (more ++ quote), value, trail, by simp, by simp,
    ⟨spaces, separator, more, quote, rfl, areSpaces, isSep, areMore, single, areQuotes⟩,
    List.length_pos_iff.mp someValue, areValues, areQuotes', stops⟩

/-- A match of `_SECRET_KEYS` keeps the key as the text spells it. -/
theorem secretAt_eq_some {unicode : Char → Bool}
    (found : secretAt unicode before text = some (written, after)) :
    ∃ (key : SecretKey) (name rest tail : List Char), text = name ++ rest ∧
      name.map foldCase = key.name.toList ∧ secretValue rest = some (tail, after) ∧
      written = name ++ "=REDACTED".toList := by
  rw [secretAt, Option.ite_none_right_eq_some] at found
  obtain ⟨key, -, found⟩ := List.exists_of_findSome?_eq_some found.2
  obtain ⟨⟨name, rest⟩, begun, found⟩ := Option.bind_eq_some_iff.mp found
  obtain ⟨⟨tail, end_⟩, valued, found⟩ := Option.bind_eq_some_iff.mp found
  obtain ⟨rfl, rfl⟩ := Prod.mk.injEq .. |>.mp (Option.some.inj found)
  obtain ⟨rfl, folds⟩ := literal_eq_some begun
  exact ⟨key, name, rest, tail, rfl, folds, valued, rfl⟩

/-- The match begins with a word, and holds what introduces the value and the value as far as it
goes. -/
theorem secretAt_eq_some_parts {unicode : Char → Bool}
    (found : secretAt unicode before text = some (written, after)) :
    ∃ (key : SecretKey) (name lead value trail : List Char),
      text = name ++ (lead ++ (value ++ trail)) ++ after ∧ name.map foldCase = key.name.toList ∧
      (∀ char ∈ before, isWordChar unicode char = false) ∧ Introduces lead ∧ value ≠ [] ∧
      (∀ char ∈ value, isValueChar char) ∧ (∀ char ∈ trail, isQuote char) ∧
      (∀ char ∈ (trail ++ after).head?, isValueChar char = false) ∧
      written = name ++ "=REDACTED".toList := by
  have boundary : atBoundary unicode before text = true := by
    rw [secretAt, Option.ite_none_right_eq_some] at found
    exact found.1
  obtain ⟨key, name, rest, tail, rfl, folds, valued, rfl⟩ := secretAt_eq_some found
  obtain ⟨lead, value, trail, rfl, rfl, introduces, some, areValues, areQuotes, stops⟩ :=
    secretValue_eq_some valued
  have free : ∀ char ∈ before, isWordChar unicode char = false := by
    rintro char rfl
    obtain ⟨first, others, rfl⟩ : ∃ first others, name = first :: others := by
      refine List.exists_cons_of_ne_nil ?_
      rintro rfl
      exact key.name_ne_nil folds.symm
    have inWord := isWordChar_of_keyLetter unicode
      (key.isKeyChar_of_mem (mem_of_folded folds List.mem_cons_self))
    simpa [atBoundary, inWord] using boundary
  exact ⟨key, name, lead, value, trail, by simp, folds, free, introduces, some, areValues,
    areQuotes, stops, rfl⟩

theorem privateKeyAt_eq_some (found : privateKeyAt before text = some (written, after)) :
    ∃ (key : SecretKey) (name lead keyText : List Char),
      text = name ++ (lead ++ keyText) ++ after ∧ name.map foldCase = key.name.toList ∧
      Introduces lead ∧ 40 ≤ keyText.length ∧ (∀ char ∈ after.head?, isKeyTextChar char = false) ∧
      written = name ++ "=REDACTED".toList := by
  obtain ⟨word, listed, found⟩ := List.exists_of_findSome?_eq_some found
  obtain ⟨⟨name, rest⟩, begun, found⟩ := Option.bind_eq_some_iff.mp found
  obtain ⟨⟨tail, _⟩, valued, found⟩ := Option.bind_eq_some_iff.mp found
  obtain ⟨rfl, rfl⟩ := Prod.mk.injEq .. |>.mp (Option.some.inj found)
  obtain ⟨rfl, folds⟩ := literal_eq_some begun
  obtain ⟨spaces, _, _, spaced, fromSeparator, rfl⟩ := parts_cons_eq_some.mp valued
  obtain ⟨_, _, _, separated, fromSpaces, rfl⟩ := parts_cons_eq_some.mp fromSeparator
  obtain ⟨more, _, _, spaced', fromKeyText, rfl⟩ := parts_cons_eq_some.mp fromSpaces
  obtain ⟨keyText, _, _, texted, atEnd, rfl⟩ := parts_cons_eq_some.mp fromKeyText
  obtain ⟨rfl, rfl⟩ := Prod.mk.injEq .. |>.mp (Option.some.inj atEnd)
  obtain ⟨rfl, -, areSpaces, -⟩ := atLeast_eq_some spaced
  obtain ⟨separator, rfl, isSep, rfl⟩ := oneOf_eq_some separated
  obtain ⟨rfl, -, areMore, -⟩ := atLeast_eq_some spaced'
  obtain ⟨rfl, enough, -, stops⟩ := atLeast_eq_some texted
  have known : ∃ key : SecretKey, key.name = word := by
    rcases List.mem_pair.mp listed with rfl | rfl
    · exact ⟨.privatekey, rfl⟩
    · exact ⟨.privateKey, rfl⟩
  obtain ⟨key, rfl⟩ := known
  exact ⟨key, name, spaces ++ separator :: (more ++ []), keyText, by simp, folds,
    ⟨spaces, separator, more, [], rfl, areSpaces, isSep, areMore, Nat.zero_le 1, by simp⟩, enough,
    stops, rfl⟩

theorem configUrlAt_eq_some (found : configUrlAt before text = some (written, after)) :
    ∃ opening token closing : List Char, text = opening ++ token ++ closing ++ after ∧
      (opening.map foldCase = "/config/".toList ∨ opening.map foldCase = "/configs/".toList) ∧
      closing.map foldCase = "/download".toList ∧
      written = opening ++ "REDACTED".toList ++ closing ∧ 10 ≤ token.length := by
  obtain ⟨⟨opening, _⟩, begun, found⟩ := Option.bind_eq_some_iff.mp found
  obtain ⟨⟨token, _⟩, tokened, found⟩ := Option.bind_eq_some_iff.mp found
  obtain ⟨⟨closing, _⟩, closed, found⟩ := Option.bind_eq_some_iff.mp found
  obtain ⟨rfl, rfl⟩ := Prod.mk.injEq .. |>.mp (Option.some.inj found)
  obtain ⟨first, _, _, first_, fromPlural, rfl⟩ := parts_cons_eq_some.mp begun
  obtain ⟨plural, _, _, plural_, fromSlash, rfl⟩ := parts_cons_eq_some.mp fromPlural
  obtain ⟨slash, _, _, slash_, atEnd, rfl⟩ := parts_cons_eq_some.mp fromSlash
  obtain ⟨rfl, rfl⟩ := Prod.mk.injEq .. |>.mp (Option.some.inj atEnd)
  obtain ⟨rfl, folds⟩ := literal_eq_some first_
  obtain ⟨rfl, foldsSlash⟩ := literal_eq_some slash_
  obtain ⟨rfl, enough, -⟩ := atLeast_eq_some tokened
  obtain ⟨rfl, foldsClosing⟩ := literal_eq_some closed
  rw [perhaps] at plural_
  cases read : literal "s" _ with
  | none =>
      rw [read, Option.none_or, Option.some.injEq, Prod.mk.injEq] at plural_
      obtain ⟨rfl, rfl⟩ := plural_
      refine ⟨first ++ slash, token, closing, by simp, .inl ?_, foldsClosing, by simp, enough⟩
      rw [List.map_append, folds, foldsSlash]
      rfl
  | some result =>
      rw [read, Option.some_or, Option.some.injEq] at plural_
      rw [plural_] at read
      obtain ⟨rfl, foldsPlural⟩ := literal_eq_some read
      refine ⟨first ++ (plural ++ slash), token, closing, by simp, .inr ?_, foldsClosing, by simp,
        enough⟩
      rw [List.map_append, List.map_append, folds, foldsPlural, foldsSlash]
      rfl

theorem configQueryAt_eq_some (found : configQueryAt before text = some (written, after)) :
    ∃ name token : List Char, text = name ++ token ++ after ∧
      name.map foldCase = "token=".toList ∧ 10 ≤ token.length ∧
      (∀ char ∈ after.head?, isTokenChar char = false) ∧ written = "token=REDACTED".toList := by
  obtain ⟨⟨matched, _⟩, read, found⟩ := Option.bind_eq_some_iff.mp found
  obtain ⟨rfl, rfl⟩ := Prod.mk.injEq .. |>.mp (Option.some.inj found)
  obtain ⟨name, _, _, begun, fromToken, rfl⟩ := parts_cons_eq_some.mp read
  obtain ⟨token, _, _, tokened, atEnd, rfl⟩ := parts_cons_eq_some.mp fromToken
  obtain ⟨rfl, rfl⟩ := Prod.mk.injEq .. |>.mp (Option.some.inj atEnd)
  obtain ⟨rfl, folds⟩ := literal_eq_some begun
  obtain ⟨rfl, enough, -, stops⟩ := atLeast_eq_some tokened
  exact ⟨name, token, by simp, folds, enough, stops, rfl⟩

theorem bearerAt_members (found : bearerAt before (matched ++ after) = some (written, after))
    {char : Char} (member : char ∈ matched) :
    foldCase char ∈ "bearer".toList ∨ isSpace char ∨ isTokenChar char ∨ char = '.' := by
  obtain ⟨-, name, spaces, dotted, last, split, folds, areSpaces, -, areDotted, isToken⟩ :=
    bearerAt_eq_some found
  rw [List.append_cancel_right split] at member
  simp only [List.mem_append, List.mem_singleton] at member
  rcases member with (member | member) | member | rfl
  · exact .inl (mem_of_folded folds member)
  · exact .inr (.inl (areSpaces char member))
  · exact .inr (.inr (areDotted char member))
  · exact .inr (.inr (.inl isToken))

/-! ### Texts that match -/

theorem literal_append {name rest : List Char} (folds : name.map foldCase = word.toList) :
    literal word (name ++ rest) = some (name, rest) := by
  have length : word.toList.length = name.length := by rw [← folds, List.length_map]
  simp only [literal, length, List.take_left, List.drop_left, folds, if_true]

theorem secretValue_of {separator : Char} {spaces quote value trail : List Char}
    (isSep : isSeparator separator) (unspaced : isSpace separator = false)
    (areSpaces : ∀ char ∈ spaces, isSpace char)
    (quoted : quote = [] ∨ ∃ char, isQuote char ∧ isSpace char = false ∧ quote = [char])
    (some : value ≠ []) (values : ∀ char ∈ value, isValueChar char)
    (stops : ∀ char ∈ text.head?, isValueChar char = false)
    (trailed : perhaps (oneOf isQuote) text = .some (trail, after)) :
    secretValue (separator :: (spaces ++ (quote ++ (value ++ text)))) =
      .some (separator :: (spaces ++ (quote ++ (value ++ trail))), after) := by
  obtain ⟨first, others, rfl⟩ := List.exists_cons_of_ne_nil some
  have firstValue := values first List.mem_cons_self
  simp only [isValueChar, Bool.not_eq_true', Bool.or_eq_false_iff] at firstValue
  obtain ⟨⟨⟨⟨unquoted, solid⟩, -⟩, -⟩, -⟩ := firstValue
  have noSpaces (more : List Char) :
      atLeast 0 isSpace (separator :: more) = .some ([], separator :: more) :=
    @atLeast_append _ [] (separator :: more) _ 0 (by simp) (by simpa using unspaced) (Nat.le_refl 0)
  have separated (more : List Char) :
      oneOf isSeparator (separator :: more) = .some ([separator], more) := by
    rw [oneOf, if_pos isSep]
  have spaced : atLeast 0 isSpace (spaces ++ (quote ++ (first :: others ++ text))) =
      .some (spaces, quote ++ (first :: others ++ text)) := by
    refine atLeast_append areSpaces ?_ (Nat.zero_le _)
    rcases quoted with rfl | ⟨char, -, visible, rfl⟩
    · simpa using solid
    · simpa using visible
  have opened : perhaps (oneOf isQuote) (quote ++ (first :: others ++ text)) =
      .some (quote, first :: others ++ text) := by
    rcases quoted with rfl | ⟨char, isQuote_, -, rfl⟩
    · simp [perhaps, oneOf, unquoted]
    · simp [perhaps, oneOf, isQuote_]
  have valued : atLeast 1 isValueChar (first :: others ++ text) = .some (first :: others, text) :=
    atLeast_append values stops (by simp)
  refine parts_cons_eq_some.mpr ⟨[], _, _, noSpaces _, ?_, rfl⟩
  refine parts_cons_eq_some.mpr ⟨[separator], _, _, separated _, ?_, rfl⟩
  refine parts_cons_eq_some.mpr ⟨spaces, _, _, spaced, ?_, rfl⟩
  refine parts_cons_eq_some.mpr ⟨quote, _, _, opened, ?_, rfl⟩
  refine parts_cons_eq_some.mpr ⟨first :: others, _, _, valued, ?_, rfl⟩
  exact parts_cons_eq_some.mpr ⟨trail, _, [], trailed, rfl, (List.append_nil _).symm⟩

theorem secretValue_isSome {separator head : Char} {spaces more : List Char}
    (isSep : isSeparator separator) (unspaced : isSpace separator = false)
    (areSpaces : ∀ char ∈ spaces, isSpace char) (isValue : isValueChar head) :
    (secretValue (separator :: (spaces ++ (head :: more)))).isSome := by
  have stops : ∀ char ∈ ((head :: more).dropWhile isValueChar).head?,
      isValueChar char = false := by
    intro char atHead
    have stopped := List.head?_dropWhile_not isValueChar (head :: more)
    rw [Option.mem_def.mp atHead] at stopped
    simpa using stopped
  have trailed : ∃ trail after,
      perhaps (oneOf isQuote) ((head :: more).dropWhile isValueChar) = some (trail, after) := by
    rw [perhaps]
    cases oneOf isQuote ((head :: more).dropWhile isValueChar) with
    | none => exact ⟨_, _, rfl⟩
    | some result => exact ⟨result.1, result.2, rfl⟩
  obtain ⟨trail, after, trailed⟩ := trailed
  have someValue : (head :: more).takeWhile isValueChar ≠ [] := by simp [isValue]
  have valued := secretValue_of isSep unspaced areSpaces (.inl rfl) someValue
    (fun char member => List.mem_takeWhile_imp member) stops trailed
  rw [List.nil_append, List.takeWhile_append_dropWhile] at valued
  rw [valued]
  rfl

/-- At a key in front of a value there is a match, when no word runs into the key. -/
theorem secretAt_isSome (unicode : Char → Bool) (key : SecretKey) {rest : List Char}
    (free : ∀ char ∈ before, isWordChar unicode char = false)
    (valued : (secretValue rest).isSome) :
    (secretAt unicode before (key.name.toList ++ rest)).isSome := by
  have boundary : atBoundary unicode before (key.name.toList ++ rest) = true := by
    obtain ⟨first, others, name⟩ := List.exists_cons_of_ne_nil key.name_ne_nil
    have letter := key.keyLetter_of_mem (name ▸ List.mem_cons_self : first ∈ key.name.toList)
    have inWord := isWordChar_of_keyLetter unicode letter
    rw [name, atBoundary]
    cases before with
    | none => simp [inWord]
    | some char => simp [inWord, free char rfl]
  obtain ⟨⟨tail, after⟩, valued⟩ := Option.isSome_iff_exists.mp valued
  rw [secretAt, if_pos boundary, List.findSome?_isSome_iff]
  refine ⟨key, key.mem_all, ?_⟩
  simp [literal_append key.map_foldCase, valued]

/-! ### Every match is some text -/

theorem ne_nil_of_folded {name : List Char} (folds : name.map foldCase = word.toList)
    (some : word.toList ≠ []) : name ≠ [] := by
  rintro rfl
  exact some folds.symm

theorem consumes_bearerAt : Consumes bearerAt := by
  intro before text written after found
  obtain ⟨-, name, spaces, dotted, last, split, -⟩ := bearerAt_eq_some found
  exact ⟨_, by simp, split⟩

theorem consumes_secretAt (unicode : Char → Bool) : Consumes (secretAt unicode) := by
  intro before text written after found
  obtain ⟨key, name, lead, value, trail, split, folds, -⟩ := secretAt_eq_some_parts found
  refine ⟨_, ?_, split⟩
  exact List.append_ne_nil_of_left_ne_nil (ne_nil_of_folded folds key.name_ne_nil) _

theorem consumes_privateKeyAt : Consumes privateKeyAt := by
  intro before text written after found
  obtain ⟨key, name, lead, keyText, split, folds, -⟩ := privateKeyAt_eq_some found
  refine ⟨_, ?_, split⟩
  exact List.append_ne_nil_of_left_ne_nil (ne_nil_of_folded folds key.name_ne_nil) _

theorem consumes_configUrlAt : Consumes configUrlAt := by
  intro before text written after found
  obtain ⟨opening, token, closing, split, -, folds, -⟩ := configUrlAt_eq_some found
  refine ⟨opening ++ token ++ closing, ?_, split⟩
  exact List.append_ne_nil_of_right_ne_nil _ (ne_nil_of_folded folds (by decide))

theorem consumes_configQueryAt : Consumes configQueryAt := by
  intro before text written after found
  obtain ⟨name, token, split, folds, -⟩ := configQueryAt_eq_some found
  refine ⟨name ++ token, ?_, split⟩
  exact List.append_ne_nil_of_left_ne_nil (ne_nil_of_folded folds (by decide)) _

end Matches

/-! ### Secrets that the substitutions do not spell -/

/-- No occurrence of the secret takes a symbol that the substitutions write. -/
structure Unspelled (secret : List Char) : Prop where
  bearer : Apart secret [] "Bearer REDACTED".toList []
  value : ∀ (key : SecretKey) (name : List Char), name.map foldCase = key.name.toList →
    Apart secret name "=REDACTED".toList []
  configUrl : ∀ opening closing : List Char,
    (opening.map foldCase = "/config/".toList ∨ opening.map foldCase = "/configs/".toList) →
      closing.map foldCase = "/download".toList → Apart secret opening "REDACTED".toList closing
  configQuery : Apart secret [] "token=REDACTED".toList []

section Spelling

variable {secret : List Char}

theorem Unspelled.bearerAt (unspelled : Unspelled secret) : Unwritten bearerAt secret := by
  intro before matched after written found
  obtain ⟨rfl, -⟩ := bearerAt_eq_some found
  exact ⟨[], matched, _, [], by simp, by simp, unspelled.bearer⟩

theorem Unspelled.secretAt (unspelled : Unspelled secret) (unicode : Char → Bool) :
    Unwritten (secretAt unicode) secret := by
  intro before matched after written found
  obtain ⟨key, name, lead, value, trail, split, folds, -, -, -, -, -, -, rfl⟩ :=
    secretAt_eq_some_parts found
  exact ⟨name, _, _, [], by rw [List.append_cancel_right split, List.append_nil], by simp,
    unspelled.value key name folds⟩

theorem Unspelled.privateKeyAt (unspelled : Unspelled secret) : Unwritten privateKeyAt secret := by
  intro before matched after written found
  obtain ⟨key, name, lead, keyText, split, folds, -, -, -, rfl⟩ := privateKeyAt_eq_some found
  exact ⟨name, _, _, [], by rw [List.append_cancel_right split, List.append_nil], by simp,
    unspelled.value key name folds⟩

theorem Unspelled.configUrlAt (unspelled : Unspelled secret) : Unwritten configUrlAt secret := by
  intro before matched after written found
  obtain ⟨opening, token, closing, split, foldsOpening, foldsClosing, rfl, -⟩ :=
    configUrlAt_eq_some found
  exact ⟨opening, token, _, closing, List.append_cancel_right split, rfl,
    unspelled.configUrl opening closing foldsOpening foldsClosing⟩

theorem Unspelled.configQueryAt (unspelled : Unspelled secret) :
    Unwritten configQueryAt secret := by
  intro before matched after written found
  obtain ⟨name, token, split, -, -, -, rfl⟩ := configQueryAt_eq_some found
  exact ⟨[], matched, _, [], by simp, by simp, unspelled.configQuery⟩

/-- The substitutions spell no secret of other characters than they write. -/
theorem unspelled_of_foreign
    (foreign : ∀ char ∈ secret, char ∉ "token=Bearer REDACTED".toList) : Unspelled secret := by
  have apart (front back : List Char) {written : List Char} (some : written ≠ [])
      (known : written.all ("token=Bearer REDACTED".toList.contains ·) = true) :
      Apart secret front written back := by
    refine apart_of_disjoint some ?_
    intro char member inSecret
    exact foreign char inSecret (List.contains_iff_mem.mp (List.all_eq_true.mp known char member))
  exact
    { bearer := apart [] [] (by decide) (by decide)
      value := fun _ name _ => apart name [] (by decide) (by decide)
      configUrl := fun opening closing _ _ => apart opening closing (by decide) (by decide)
      configQuery := apart [] [] (by decide) (by decide) }

/-- What is free of the secret after the value substitution is free of it in the end. -/
theorem Unspelled.not_infix_redactForLog (unspelled : Unspelled secret) (unicode : Char → Bool)
    {text : List Char}
    (free : ¬ secret <:+: sub (Access.secretAt unicode) (sub Access.bearerAt text)) :
    ¬ secret <:+: redactForLog unicode (some text) :=
  sub_free consumes_configQueryAt unspelled.configQueryAt
    (sub_free consumes_configUrlAt unspelled.configUrlAt
      (sub_free consumes_privateKeyAt unspelled.privateKeyAt free))

end Spelling

end VpnSuite.Access
