/-
Which secrets the redaction of log texts removes (`core/redaction.py`).

The value of a key goes when the scan stops at the key: a bearer token that runs into the key, or
the value of a key before it, takes the key away and can leave the secret.  A bearer token of
three parts goes wherever its header stands.
-/

import VpnSuite.Access.Redaction

set_option autoImplicit false

namespace VpnSuite.Access

open Foundations
open Foundations.PythonText
open Foundations.Substitutions

/-! ### Secrets in texts -/

/-- A character of a secret: no white space, quote, comma, brace or bracket. -/
def isSecretChar (char : Char) : Bool := isValueChar char && char != '{' && char != '['

structure IsSecret (secret : List Char) : Prop where
  nonempty : secret ≠ []
  chars : ∀ char ∈ secret, isSecretChar char

/-- The secret occurs in the text only between `before` and `after`. -/
def OnlyThere (secret before after : List Char) : Prop :=
  ∀ left right, before ++ secret ++ after = left ++ secret ++ right → left = before

/-- The text ends in a bearer token that the letters of a key would continue. -/
def EndsInBearer (text : List Char) : Prop :=
  ∃ left name spaces first second third : List Char,
    text = left ++ (name ++ (spaces ++ (first ++ '.' :: (second ++ '.' :: third)))) ∧
      name.map foldCase = "bearer".toList ∧ spaces ≠ [] ∧ (∀ char ∈ spaces, isSpace char) ∧
      first ≠ [] ∧ (∀ char ∈ first, isTokenChar char) ∧
      second ≠ [] ∧ (∀ char ∈ second, isTokenChar char) ∧ ∀ char ∈ third, isTokenChar char

/-- The text ends in a key with its separator, and in a value that the letters of a key would
continue. -/
def EndsInValue (unicode : Char → Bool) (text : List Char) : Prop :=
  ∃ (left : List Char) (key : SecretKey) (name lead value : List Char),
    text = left ++ (name ++ (lead ++ value)) ∧ name.map foldCase = key.name.toList ∧
      (∀ char ∈ left.getLast?, isWordChar unicode char = false) ∧ Introduces lead ∧
      ∀ char ∈ value, isValueChar char

/-- Behind the text a key begins a word, and no bearer token runs into it. -/
structure BeginsKey (unicode : Char → Bool) (text : List Char) : Prop where
  word : ∀ char ∈ text.getLast?, isWordChar unicode char = false
  bearer : ¬ EndsInBearer text

def bearerHeader : List Char := "Authorization: Bearer ".toList

/-- The text begins with a bearer token of three parts. -/
def beginsToken (text : List Char) : Bool :=
  (parts [atLeast 1 isTokenChar, oneOf isDot, atLeast 1 isTokenChar, oneOf isDot,
    atLeast 1 isTokenChar] text).isSome

variable {unicode : Char → Bool} {front back secret post rest : List Char}

/-! ### Bearer tokens around a key -/

theorem bearerAt_eq_none {before : Option Char} {head : Char} {text : List Char}
    (differs : foldCase head ≠ 'b') : bearerAt before (head :: text) = none := by
  cases found : bearerAt before (head :: text) with
  | none => rfl
  | some result =>
      obtain ⟨-, name, spaces, dotted, last, split, folds, -⟩ := bearerAt_eq_some found
      cases name with
      | nil => exact absurd folds (by decide)
      | cons char name =>
          obtain ⟨rfl, -⟩ := List.cons_eq_cons.mp split
          exact absurd (List.cons_eq_cons.mp folds).1 differs

theorem isTokenChar_of_keyLetter {char : Char} (letter : isKeyChar (foldCase char)) :
    isTokenChar char := by
  rw [isKeyChar, Bool.or_eq_true, beq_iff_eq] at letter
  rcases letter with letter | underscore
  · simp [isTokenChar, isAsciiAlphanumeric, letter]
  · simp [isTokenChar, eq_underscore_of_foldCase underscore]

/-- A bearer token that runs into a key is there in front of the key. -/
theorem endsInBearer_of_match {before : Option Char} {opening closing after written : List Char}
    (key : SecretKey) (found : bearerAt before (opening ++ closing ++ after) = some (written, after))
    (inKey : closing <+: key.name.toList) : EndsInBearer opening := by
  obtain ⟨-, name, spaces, first, second, third, split, folds, areSpaces, someSpace,
    ⟨someFirst, areFirst⟩, ⟨someSecond, areSecond⟩, ⟨-, areThird⟩, -⟩ :=
    bearerAt_eq_some_parts found
  have dotless : '.' ∉ closing := by
    intro member
    have letter := key.keyLetter_of_mem (inKey.subset member)
    exact (plain_of_keyLetter letter).2.2.2 rfl
  have matched : opening ++ closing =
      (name ++ (spaces ++ (first ++ '.' :: second)) ++ ['.']) ++ third := by
    rw [List.append_cancel_right split]
    simp
  have ends : ∃ part, opening = name ++ (spaces ++ (first ++ '.' :: second)) ++ ['.'] ++ part ∧
      ∀ char ∈ part, isTokenChar char := by
    rcases List.append_eq_append_iff.mp matched with ⟨extra, whole, reach⟩ | ⟨extra, rfl, reach⟩
    · rcases List.eq_nil_or_concat' extra with rfl | ⟨extra, last, rfl⟩
      · exact ⟨[], by simpa using whole.symm, by simp⟩
      · rw [← List.append_assoc opening] at whole
        obtain ⟨-, same⟩ := List.append_inj' whole rfl
        obtain rfl := List.singleton_inj.mp same
        refine absurd ?_ dotless
        rw [reach]
        simp
    · exact ⟨extra, rfl, fun char member => areThird char (reach ▸ List.mem_append_left _ member)⟩
  obtain ⟨part, rfl, areToken⟩ := ends
  exact ⟨[], name, spaces, first, second, part, by simp, folds, someSpace, areSpaces, someFirst,
    areFirst, someSecond, areSecond, areToken⟩

theorem EndsInBearer.append {text : List Char} (ends : EndsInBearer text) (front : List Char) :
    EndsInBearer (front ++ text) := by
  obtain ⟨left, name, spaces, first, second, third, rfl, more⟩ := ends
  exact ⟨front ++ left, name, spaces, first, second, third, by simp, more⟩

/-- A separator after a key, with the white space that the form writes. -/
def Separates (separator : Char) (spaces : List Char) : Prop :=
  (separator = '=' ∧ spaces = []) ∨ (separator = ':' ∧ spaces = [' '])

theorem Separates.spells {separator : Char} {spaces : List Char}
    (separates : Separates separator spaces) :
    isSeparator separator = true ∧ isSpace separator = false ∧
      isKeyChar (foldCase separator) = false ∧ ∀ char ∈ spaces, isSpace char := by
  rcases separates with ⟨rfl, rfl⟩ | ⟨rfl, rfl⟩
  · exact ⟨rfl, rfl, rfl, by simp⟩
  · refine ⟨rfl, rfl, rfl, ?_⟩
    intro char member
    rw [List.mem_singleton.mp member]
    rfl

/-- Tokens are redacted in the text, and what follows the last of them is as it was. -/
def KeepsTail (text done : List Char) : Prop :=
  done = text ∨ ∃ (front back : List Char) (char : Char) (tail : List Char),
    text = front ++ char :: tail ∧ done = back ++ ("Bearer REDACTED".toList ++ char :: tail) ∧
      isTokenChar char = false

theorem KeepsTail.getLast?_eq {text done : List Char} (keeps : KeepsTail text done) :
    done.getLast? = text.getLast? := by
  rcases keeps with rfl | ⟨front, back, char, tail, rfl, rfl, -⟩
  · rfl
  · rw [List.getLast?_append_of_ne_nil front (List.cons_ne_nil char tail),
      List.getLast?_append_of_ne_nil back (by simp),
      List.getLast?_append_of_ne_nil _ (List.cons_ne_nil char tail)]

/-- In front of a letter no token ends. -/
theorem keepsTail_of_run {before : Option Char} {ahead done : List Char} {letter : Char}
    (run : Run bearerAt (letter :: ahead) before front done) (isToken : isTokenChar letter) :
    KeepsTail front done := by
  rcases run.last_rewrite with same | ⟨start, matched, tail, back, written, here, rfl, rfl, found⟩
  · exact .inl same
  · obtain ⟨rfl, -, -, -, -, -, split, -, -, -, -, -, -, stops⟩ := bearerAt_eq_some_parts found
    cases tail with
    | nil =>
        rw [stops letter rfl] at isToken
        cases isToken
    | cons char tail =>
        exact .inr ⟨start ++ matched, back, char, tail, by simp, rfl, stops char rfl⟩

/-- No key is spelled at the end of a redacted token. -/
theorem redacted_spells_no_key {part : List Char} {key : SecretKey} (nonempty : part ≠ [])
    (ends : part <:+ "REDACTED".toList) : part.map foldCase ≠ key.name.toList := by
  have none : "REDACTED".toList.tails.all (fun part =>
      part == [] || SecretKey.all.all (fun key => part.map foldCase != key.name.toList)) = true := by
    decide
  have here := List.all_eq_true.mp none part ((List.mem_tails _ _).mpr ends)
  rw [Bool.or_eq_true] at here
  rcases here with empty | differs
  · exact absurd (eq_of_beq empty) nonempty
  · simpa using List.all_eq_true.mp differs key key.mem_all

/-- The white space within a redacted token introduces no value. -/
theorem not_introduces_space {front back name lead value : List Char}
    (letters : ∀ char ∈ name, isKeyChar (foldCase char)) (introduces : Introduces lead)
    (areValues : ∀ char ∈ value, isValueChar char) :
    front ++ 'r' :: ' ' :: 'R' :: back ≠ name ++ (lead ++ value) := by
  have foreign {char : Char} (outside : isSpace char = false ∧ isSeparator char = false ∧
      isQuote char = false) : char ∉ lead := by
    intro member
    rcases introduces.kind member with kind | kind | kind
    · rw [outside.1] at kind
      cases kind
    · rw [outside.2.1] at kind
      cases kind
    · rw [outside.2.2] at kind
      cases kind
  have fromSpace : lead ++ value ≠ ' ' :: 'R' :: back := by
    intro same
    obtain ⟨separator, member, isSep⟩ := introduces.separator_mem
    cases lead with
    | nil => cases member
    | cons char lead =>
        obtain ⟨rfl, reach⟩ := List.cons_eq_cons.mp same
        cases lead with
        | nil =>
            rw [List.mem_singleton.mp member] at isSep
            cases isSep
        | cons char lead =>
            obtain ⟨rfl, -⟩ := List.cons_eq_cons.mp reach
            exact foreign ⟨by decide, by decide, by decide⟩
              (List.mem_cons_of_mem _ List.mem_cons_self)
  intro same
  have cut : (front ++ ['r']) ++ ' ' :: 'R' :: back = name ++ (lead ++ value) := by
    simpa using same
  rcases List.append_eq_append_iff.mp cut with ⟨extra, rfl, reach⟩ | ⟨extra, spelled, reach⟩
  · cases extra with
    | nil => exact fromSpace reach.symm
    | cons char extra =>
        obtain ⟨rfl, -⟩ := List.cons_eq_cons.mp reach
        exact absurd (letters ' ' (by simp)) (by decide)
  · rcases List.eq_nil_or_concat' extra with rfl | ⟨extra, last, rfl⟩
    · exact fromSpace reach
    · rw [← List.append_assoc] at spelled
      obtain ⟨-, final⟩ := List.append_inj' spelled rfl
      obtain rfl := List.singleton_inj.mp final
      rcases List.append_eq_append_iff.mp reach with ⟨more, spelled', rest⟩ | ⟨more, rfl, -⟩
      · have member : ' ' ∈ value := by
          rw [rest]
          simp
        exact absurd (areValues ' ' member) (by decide)
      · exact @foreign 'r' ⟨by decide, by decide, by decide⟩ (by simp)

theorem redacted_in_word (unicode : Char → Bool) (back : List Char) :
    ¬ ∀ char ∈ (back ++ "Bearer REDACTED".toList).getLast?, isWordChar unicode char = false := by
  intro free
  have outside := free 'D' (by rw [List.getLast?_append_of_ne_nil _ (by decide)]; rfl)
  rw [@isWordChar_of_keyLetter unicode 'D' (by decide)] at outside
  cases outside

/-- A value at the end of the redacted text is one at the end of the text. -/
theorem KeepsTail.endsInValue {text done : List Char} (keeps : KeepsTail text done)
    (ends : EndsInValue unicode done) : EndsInValue unicode text := by
  rcases keeps with rfl | ⟨front, back, char, tail, rfl, rfl, noToken⟩
  · exact ends
  obtain ⟨left, key, name, lead, value, split, folds, free, introduces, areValues⟩ := ends
  have letters : ∀ char ∈ name, isKeyChar (foldCase char) := fun char member =>
    key.isKeyChar_of_mem (mem_of_folded folds member)
  have someName : name ≠ [] := ne_nil_of_folded folds key.name_ne_nil
  rw [← List.append_assoc] at split
  rcases List.append_eq_append_iff.mp split with ⟨extra, rfl, reach⟩ | ⟨extra, redacted, reach⟩
  · -- the key stands behind the last redacted token
    refine ⟨front ++ extra, key, name, lead, value, by simp [reach], folds, ?_, introduces,
      areValues⟩
    rcases List.eq_nil_or_concat' extra with rfl | ⟨extra, last, rfl⟩
    · rw [List.append_nil] at free
      exact absurd free (redacted_in_word unicode back)
    · intro char atEnd
      refine free char ?_
      rw [← List.append_assoc, List.getLast?_concat] at atEnd ⊢
      exact atEnd
  · by_cases none : extra = []
    · subst none
      rw [List.append_nil] at redacted
      rw [← redacted] at free
      exact absurd free (redacted_in_word unicode back)
    exfalso
    have cut : (back ++ "Bearer".toList) ++ " REDACTED".toList = left ++ extra := by
      rw [← redacted]
      simp
    rcases List.append_eq_append_iff.mp cut with ⟨more, rfl, within⟩ | ⟨more, bearer, rfl⟩
    · -- the key would begin within the redacted token
      cases more with
      | nil =>
          obtain ⟨first, others, rfl⟩ := List.exists_cons_of_ne_nil someName
          rw [List.nil_append] at within
          rw [← within] at reach
          obtain ⟨rfl, -⟩ := List.cons_eq_cons.mp reach
          exact absurd (letters ' ' List.mem_cons_self) (by decide)
      | cons space more =>
          obtain ⟨-, within⟩ := List.cons_eq_cons.mp within
          have ends : extra <:+ "REDACTED".toList := ⟨more, within.symm⟩
          obtain ⟨first, rest, rfl, leaves⟩ := introduces.leaves
          have charLeaves : isKeyChar (foldCase char) = false := by
            by_contra letter
            rw [isTokenChar_of_keyLetter (Bool.of_not_eq_false letter)] at noToken
            cases noToken
          have redactedLetters : "REDACTED".toList.all
              (fun char => isKeyChar (foldCase char)) = true := by decide
          obtain ⟨same, -⟩ := @cut_unique _ (fun char => isKeyChar (foldCase char)) _ _ _ _ _ _
            letters (fun char member => List.all_eq_true.mp redactedLetters char (ends.subset member))
            leaves charLeaves reach
          exact redacted_spells_no_key none ends (same ▸ folds)
    · -- the white space of the redacted token would be in what introduces the value
      rcases List.eq_nil_or_concat' more with rfl | ⟨more, last, rfl⟩
      · obtain ⟨first, others, rfl⟩ := List.exists_cons_of_ne_nil someName
        obtain ⟨rfl, -⟩ := List.cons_eq_cons.mp reach
        exact absurd (letters ' ' List.mem_cons_self) (by decide)
      · have spelled : (back ++ "Beare".toList) ++ ['r'] = (left ++ more) ++ [last] := by
          rw [List.append_assoc left, ← bearer]
          simp
        obtain ⟨-, final⟩ := List.append_inj' spelled rfl
        obtain rfl := List.singleton_inj.mp final
        refine @not_introduces_space more ("EDACTED".toList ++ char :: tail) _ _ _ letters introduces
          areValues ?_
        rw [reach]
        simp

/-- No token begins with white space. -/
theorem run_behind_space {before : Option Char} {out : List Char}
    (run : Run bearerAt [] before ([' '] ++ rest) out) :
    ∃ value here, out = [' '] ++ value ∧ Run bearerAt [] here rest value := by
  generalize text : [' '] ++ rest = spaced at run
  cases run with
  | nil => cases text
  | copy unmatched more =>
      obtain ⟨rfl, rfl⟩ := List.cons_eq_cons.mp text
      exact ⟨_, _, rfl, more⟩
  | @rewrite _ matched _ _ _ nonempty found more =>
      obtain ⟨head, matched, rfl⟩ := List.exists_cons_of_ne_nil nonempty
      obtain ⟨rfl, -⟩ := List.cons_eq_cons.mp text
      rw [List.cons_append, bearerAt_eq_none (by decide)] at found
      cases found

/-- The bearer substitution leaves the key where it is. -/
theorem bearer_stage (key : SecretKey) {separator : Char} {spaces : List Char}
    (separates : Separates separator spaces)
    (open_ : ¬ EndsInBearer front) :
    ∃ done value ahead before,
      sub bearerAt (front ++ (key.name.toList ++ separator :: (spaces ++ rest))) =
        done ++ (key.name.toList ++ separator :: (spaces ++ value)) ∧
      Run bearerAt ahead none front done ∧ Run bearerAt [] before rest value ∧
      KeepsTail front done := by
  have run := run_sub consumes_bearerAt
    (front ++ (key.name.toList ++ separator :: (spaces ++ rest)))
  rw [← List.append_assoc] at run
  have apart : Avoids bearerAt separator := by
    intro before matched after written found member
    have members := bearerAt_members found member
    rcases separates with ⟨rfl, -⟩ | ⟨rfl, -⟩
    · exact absurd members (by decide)
    · exact absurd members (by decide)
  obtain ⟨outFront, outBack, out, runFront, runBack⟩ := run.split_at apart
  have behind : ∃ value before, outBack = spaces ++ value ∧ Run bearerAt [] before rest value := by
    rcases separates with ⟨-, rfl⟩ | ⟨-, rfl⟩
    · exact ⟨outBack, _, rfl, runBack⟩
    · exact run_behind_space runBack
  obtain ⟨value, before, rfl, runValue⟩ := behind
  rcases runFront.split with ⟨done, outKey, rfl, runDone, runKey⟩ |
    ⟨_, opening, closing, later, _, _, _, rfl, _, inKey, _, _, _, found, _⟩
  · have keyStays : outKey = key.name.toList := by
      refine runKey.eq_self (p := fun char => isSpace char = true) ?_ ?_
      · intro before matched after written found
        obtain ⟨-, name, spaces, dotted, last, split, -, areSpaces, some, -⟩ :=
          bearerAt_eq_some found
        obtain ⟨space, others, rfl⟩ := List.exists_cons_of_ne_nil some
        refine ⟨space, ?_, areSpaces space List.mem_cons_self⟩
        rw [List.append_cancel_right split]
        simp
      · intro char member
        have solid := (plain_of_keyLetter (key.keyLetter_of_mem member)).1
        simp [solid]
    rw [keyStays] at out
    refine ⟨done, value, _, before, ?_, runDone, runValue, ?_⟩
    · rw [← List.append_assoc, out, List.append_assoc]
    obtain ⟨letter, others, name⟩ := List.exists_cons_of_ne_nil key.name_ne_nil
    have isLetter := key.keyLetter_of_mem (name ▸ List.mem_cons_self : letter ∈ key.name.toList)
    rw [name] at runDone
    exact keepsTail_of_run runDone (isTokenChar_of_keyLetter isLetter)
  · refine absurd ?_ open_
    exact (endsInBearer_of_match key found ⟨later, inKey.symm⟩).append _

/-! ### The value behind a key -/

theorem suffix_drop_one {read after : List Char} (some : read ≠ []) :
    after <:+ (read ++ after).drop 1 := by
  cases read with
  | nil => exact absurd rfl some
  | cons char read => exact ⟨read, rfl⟩

/-- A match at a key keeps this key. -/
theorem secretAt_key_eq_some {before : Option Char} {key : SecretKey} {separator : Char}
    {more after written : List Char} (leaves : isKeyChar (foldCase separator) = false)
    (found : secretAt unicode before (key.name.toList ++ separator :: more) =
      some (written, after)) :
    written = key.name.toList ++ "=REDACTED".toList ∧
      ∃ tail, secretValue (separator :: more) = some (tail, after) := by
  obtain ⟨other, name, rest, tail, split, folds, valued, rfl⟩ := secretAt_eq_some found
  obtain ⟨lead, value, trail, rfl, rfl, introduces, -⟩ := secretValue_eq_some valued
  obtain ⟨first, rest, rfl, firstLeaves⟩ := introduces.leaves
  have cut := @cut_unique _ (fun char => isKeyChar (foldCase char)) _ _ _ _ _ _
    (fun char member => key.keyLetter_of_mem member)
    (fun char member => other.isKeyChar_of_mem (mem_of_folded folds member))
    leaves firstLeaves split
  obtain ⟨rfl, rfl, rfl⟩ := cut
  exact ⟨rfl, _, valued⟩

/-- A match at the key covers the beginning of the value. -/
theorem match_at_key {before : Option Char} {key : SecretKey} {separator : Char}
    {spaces value after written : List Char} (separates : Separates separator spaces)
    (found : secretAt unicode before (key.name.toList ++ separator :: (spaces ++ value)) =
      some (written, after)) :
    written = key.name.toList ++ "=REDACTED".toList ∧ after <:+ value.drop 1 := by
  obtain ⟨-, -, leaves, areSpaces⟩ := separates.spells
  obtain ⟨rfl, tail, valued⟩ := secretAt_key_eq_some leaves found
  refine ⟨rfl, ?_⟩
  obtain ⟨lead, value', trail, rfl, split, introduces, some, areValues, -⟩ :=
    secretValue_eq_some valued
  obtain ⟨first, lead, rfl, -⟩ := introduces.leaves
  have regrouped : spaces ++ value = lead ++ (value' ++ (trail ++ after)) := by
    simpa using (List.cons_eq_cons.mp split).2
  rcases List.append_eq_append_iff.mp regrouped with ⟨extra, rfl, rfl⟩ | ⟨extra, rfl, reach⟩
  · rw [← List.append_assoc, ← List.append_assoc]
    exact suffix_drop_one (by simp [some])
  · cases extra with
    | nil =>
        rw [List.nil_append] at reach
        rw [← reach, ← List.append_assoc]
        exact suffix_drop_one (by simp [some])
    | cons char extra =>
        -- the value would begin with the white space of the form
        obtain ⟨head, others, rfl⟩ := List.exists_cons_of_ne_nil some
        obtain ⟨rfl, -⟩ := List.cons_eq_cons.mp reach
        have isValue := areValues head List.mem_cons_self
        have space := areSpaces head (List.mem_append_right _ List.mem_cons_self)
        simp [isValueChar, space] at isValue

/-- A match that reaches over the beginning of a key has this beginning in its value. -/
theorem value_over_key {name lead value trail opening closing : List Char} {letter : Char}
    (opened : opening ≠ [])
    (free : ∀ char ∈ opening.getLast?, isWordChar unicode char = false)
    (isLetter : isKeyChar (foldCase letter))
    (letters : ∀ char ∈ name, isKeyChar (foldCase char)) (introduces : Introduces lead)
    (areQuotes : ∀ char ∈ trail, isQuote char)
    (matched : opening ++ letter :: closing = name ++ (lead ++ (value ++ trail))) :
    ∃ front back, opening = name ++ (lead ++ front) ∧ value = front ++ back ∧
      letter :: closing = back ++ trail := by
  obtain ⟨solid, separatorless, unquoted, -⟩ := plain_of_keyLetter isLetter
  have notLead : letter ∉ lead := by
    intro member
    have kind := introduces.kind member
    simp [solid, separatorless, unquoted] at kind
  have notTrail : letter ∉ trail := by
    intro member
    rw [areQuotes letter member] at unquoted
    cases unquoted
  rcases List.append_eq_append_iff.mp matched with ⟨extra, rfl, -⟩ | ⟨extra, rfl, reach⟩
  · -- the name of the match would run over the character before the key
    rcases List.eq_nil_or_concat' opening with rfl | ⟨opening, last, rfl⟩
    · exact absurd rfl opened
    · have inWord := isWordChar_of_keyLetter unicode (letters last (by simp))
      rw [free last (List.getLast?_concat ..)] at inWord
      cases inWord
  · rcases List.append_eq_append_iff.mp reach with ⟨more, rfl, values⟩ | ⟨more, rfl, values⟩
    · rcases List.append_eq_append_iff.mp values with ⟨part, rfl, quotes⟩ | ⟨part, rfl, quotes⟩
      · exact absurd (quotes ▸ List.mem_append_right _ List.mem_cons_self) notTrail
      · exact ⟨more, part, rfl, rfl, quotes⟩
    · cases more with
      | nil => exact ⟨[], value, by simp, rfl, values⟩
      | cons char more =>
          obtain ⟨rfl, -⟩ := List.cons_eq_cons.mp values
          exact absurd (List.mem_append_right _ List.mem_cons_self) notLead

/-- A match that begins before a key, and reaches over its beginning, has this beginning in the
value of another key that stands in front of it. -/
theorem match_over_key {before : Option Char} {opening closing later written : List Char}
    {letter : Char} (opened : opening ≠ [])
    (free : ∀ char ∈ opening.getLast?, isWordChar unicode char = false)
    (isLetter : isKeyChar (foldCase letter))
    (found : secretAt unicode before (opening ++ letter :: closing ++ later) =
      some (written, later)) :
    ∃ (other : SecretKey) (name lead front back trail : List Char),
      opening = name ++ (lead ++ front) ∧ letter :: closing = back ++ trail ∧
      name.map foldCase = other.name.toList ∧ (∀ char ∈ before, isWordChar unicode char = false) ∧
      Introduces lead ∧ (∀ char ∈ front ++ back, isValueChar char) ∧
      (∀ char ∈ (trail ++ later).head?, isValueChar char = false) ∧
      written = name ++ "=REDACTED".toList := by
  obtain ⟨other, name, lead, value, trail, split, folds, boundary, introduces, -, areValues,
    areQuotes, stops, rfl⟩ := secretAt_eq_some_parts found
  obtain ⟨front, back, rfl, rfl, covered⟩ := value_over_key opened free isLetter
    (fun char member => other.isKeyChar_of_mem (mem_of_folded folds member)) introduces areQuotes
    (List.append_cancel_right split)
  exact ⟨other, name, lead, front, back, trail, rfl, covered, folds, boundary, introduces,
    areValues, stops, rfl⟩

/-! ### The value substitution -/

theorem free_around {ahead outFront outLater later name : List Char} {before before' : Option Char}
    {key : SecretKey} (unspelled : Unspelled secret)
    (folds : name.map foldCase = key.name.toList)
    (runFront : Run (secretAt unicode) ahead before front outFront)
    (runLater : Run (secretAt unicode) [] before' later outLater)
    (frontFree : ¬ secret <:+: front ++ name) (laterFree : ¬ secret <:+: later) :
    ¬ secret <:+: outFront ++ ((name ++ "=REDACTED".toList) ++ outLater) := by
  intro occurs
  have unwritten := unspelled.secretAt unicode
  have around : secret <:+: outFront ++ (name ++ "=REDACTED".toList ++ []) ++ outLater := by
    simpa using occurs
  rcases unspelled.value key name folds outFront outLater around with inFront | inLater
  · exact frontFree (runFront.occurs unwritten [] name inFront)
  · have read := runLater.occurs unwritten [] [] (by simpa using inLater)
    exact laterFree (by simpa using read)

/-- Behind a text that takes no part of it, the key is found and its value goes. -/
theorem secret_stage {key : SecretKey} {separator head : Char} {spaces done more : List Char}
    (unspelled : Unspelled secret) (separates : Separates separator spaces)
    (free : ∀ char ∈ done.getLast?, isWordChar unicode char = false)
    (barred : separator = '=' ∨ ¬ EndsInValue unicode done)
    (isValue : isValueChar head) (frontFree : ¬ secret <:+: done ++ key.name.toList)
    (moreFree : ¬ secret <:+: more) :
    ¬ secret <:+: sub (secretAt unicode)
      (done ++ (key.name.toList ++ separator :: (spaces ++ (head :: more)))) := by
  have run := run_sub (consumes_secretAt unicode)
    (done ++ (key.name.toList ++ separator :: (spaces ++ (head :: more))))
  rcases run.split with ⟨outFront, outBack, out, runFront, runBack⟩ |
    ⟨front, opening, closing, later, outFront, written, outLater, rfl, opened, inText, closed, out,
      runFront, found, runLater⟩
  · rw [out]
    obtain ⟨isSep, unspaced, -, areSpaces⟩ := separates.spells
    have isFound : (secretAt unicode (done.getLast?.or none)
        (key.name.toList ++ separator :: (spaces ++ (head :: more)))).isSome :=
      secretAt_isSome unicode key (by simpa using free)
        (secretValue_isSome isSep unspaced areSpaces isValue)
    generalize text : key.name.toList ++ separator :: (spaces ++ (head :: more)) = tail
      at runBack isFound
    cases runBack with
    | nil => exact absurd (List.append_eq_nil_iff.mp text).1 key.name_ne_nil
    | copy unmatched more =>
        rw [List.append_nil] at unmatched
        rw [unmatched] at isFound
        cases isFound
    | @rewrite _ matched later written outLater nonempty found runLater =>
        rw [List.append_nil, ← text] at found
        obtain ⟨rfl, reach⟩ := match_at_key separates found
        refine free_around unspelled key.map_foldCase runFront runLater frontFree ?_
        exact fun occurs => moreFree (occurs.trans reach.isInfix)
  · rw [out]
    obtain ⟨letter, others, keyName⟩ := List.exists_cons_of_ne_nil key.name_ne_nil
    obtain ⟨char, closing, rfl⟩ := List.exists_cons_of_ne_nil closed
    have isLetter := key.keyLetter_of_mem (keyName ▸ List.mem_cons_self : letter ∈ key.name.toList)
    have begun : letter = char := by
      rw [keyName] at inText
      exact (List.cons_eq_cons.mp inText).1
    subst begun
    rw [List.append_nil] at found
    obtain ⟨other, name, lead, part, back, trail, rfl, covered, folds, boundary, introduces,
      areValues, stops, rfl⟩ := match_over_key opened
        (fun char atEnd => free char (by
          rw [List.getLast?_append, Option.mem_def.mp atEnd]
          rfl)) isLetter found
    rcases separates with ⟨rfl, rfl⟩ | ⟨rfl, rfl⟩
    · -- the value reaches over the key to the value of the key
      have same : back ++ (trail ++ later) = (key.name.toList ++ ['=', head]) ++ more := by
        rw [← List.append_assoc, ← covered, ← inText]
        simp
      have values : ∀ char ∈ key.name.toList ++ ['=', head], isValueChar char := by
        intro char member
        rcases List.mem_append.mp member with member | member
        · exact key.isValueChar_of_mem member
        · rcases List.mem_pair.mp member with rfl | rfl
          · rfl
          · exact isValue
      obtain ⟨extra, -, rfl⟩ := cover_of_stop same values stops
      refine free_around unspelled folds runFront runLater ?_ ?_
      · exact fun occurs => frontFree (occurs.trans
          ⟨[], lead ++ (part ++ key.name.toList), by simp⟩)
      · exact fun occurs => moreFree (occurs.trans ⟨extra ++ trail, [], by simp⟩)
    · refine absurd ?_ (barred.resolve_left (by decide))
      exact ⟨front, other, name, lead, part, rfl, folds, by simpa using boundary, introduces,
        fun char member => areValues char (List.mem_append_left _ member)⟩

/-! ### Removed secrets -/

theorem IsSecret.isValueChar (isSecret : IsSecret secret) {char : Char} (member : char ∈ secret) :
    isValueChar char := by
  have holds := isSecret.chars char member
  rw [isSecretChar, Bool.and_eq_true, Bool.and_eq_true] at holds
  exact holds.1.1

theorem OnlyThere.front_free {before after : List Char} (only : OnlyThere secret before after)
    (some : secret ≠ []) : ¬ secret <:+: before := by
  rintro ⟨left, right, rfl⟩
  have same := only left (right ++ secret ++ after) (by simp)
  have length := congrArg List.length same
  simp only [List.length_append] at length
  exact some (List.length_eq_zero_iff.mp (by omega))

theorem OnlyThere.behind_free {before after : List Char} (only : OnlyThere secret before after)
    (some : secret ≠ []) : ¬ secret <:+: (secret ++ after).drop 1 := by
  obtain ⟨head, others, rfl⟩ := List.exists_cons_of_ne_nil some
  rintro ⟨left, right, whole⟩
  have same := only (before ++ head :: left) right (by
    have behind : others ++ after = left ++ head :: others ++ right := whole.symm
    simp [behind])
  have length := congrArg List.length same
  simp only [List.length_append, List.length_cons] at length
  omega

/-- What the bearer substitution makes of the secret begins a value, and holds the secret at most
at its beginning. -/
theorem bearer_value {before : Option Char} {value : List Char} (isSecret : IsSecret secret)
    (unspelled : Unspelled secret) (run : Run bearerAt [] before (secret ++ post) value)
    (behind : ¬ secret <:+: (secret ++ post).drop 1) :
    ∃ head more, value = head :: more ∧ isValueChar head ∧ ¬ secret <:+: more := by
  have unwritten := unspelled.bearerAt
  generalize text : secret ++ post = whole at run behind
  cases run with
  | nil => exact absurd (List.append_eq_nil_iff.mp text).1 isSecret.nonempty
  | @copy _ head rest out unmatched run =>
      refine ⟨head, out, rfl, ?_, ?_⟩
      · obtain ⟨first, others, name⟩ := List.exists_cons_of_ne_nil isSecret.nonempty
        rw [name] at text
        obtain ⟨rfl, -⟩ := List.cons_eq_cons.mp text
        exact isSecret.isValueChar (name ▸ List.mem_cons_self)
      · intro occurs
        have read := run.occurs unwritten [] [] (by simpa using occurs)
        exact behind (by simpa using read)
  | @rewrite _ matched rest written out nonempty found run =>
      obtain ⟨rfl, -⟩ := bearerAt_eq_some found
      refine ⟨'B', "earer REDACTED".toList ++ out, rfl, rfl, ?_⟩
      intro occurs
      have around : secret <:+: [] ++ ([] ++ "Bearer REDACTED".toList ++ []) ++ out :=
        occurs.trans ⟨['B'], [], by simp⟩
      rcases unspelled.bearer [] out around with empty | inRest
      · exact isSecret.nonempty (List.infix_nil.mp empty)
      · have read := run.occurs unwritten [] [] (by simpa using inRest)
        have inText : secret <:+: rest := by simpa using read
        exact behind (inText.trans (suffix_drop_one nonempty).isInfix)

/-- The secret of a key goes, whatever stands around it, when nothing takes the key away. -/
theorem removed_of_key {key : SecretKey} {separator : Char} {spaces : List Char}
    (separates : Separates separator spaces) (isSecret : IsSecret secret)
    (unspelled : Unspelled secret) (begins : BeginsKey unicode front)
    (only : OnlyThere secret (front ++ (key.name.toList ++ separator :: spaces)) post)
    (barred : separator = '=' ∨ ¬ EndsInValue unicode front) :
    ¬ secret <:+: redactForLog unicode
      (some (front ++ (key.name.toList ++ separator :: spaces) ++ secret ++ post)) := by
  have regrouped : front ++ (key.name.toList ++ separator :: spaces) ++ secret ++ post =
      front ++ (key.name.toList ++ separator :: (spaces ++ (secret ++ post))) := by simp
  rw [regrouped]
  refine unspelled.not_infix_redactForLog unicode ?_
  obtain ⟨done, value, ahead, before, out, runDone, runValue, keeps⟩ :=
    bearer_stage key separates begins.bearer
  obtain ⟨head, more, rfl, isValue, moreFree⟩ :=
    bearer_value isSecret unspelled runValue (only.behind_free isSecret.nonempty)
  have frontFree : ¬ secret <:+: done ++ key.name.toList := by
    intro occurs
    have read := runDone.occurs unspelled.bearerAt [] key.name.toList (by simpa using occurs)
    refine only.front_free isSecret.nonempty (read.trans ?_)
    exact ⟨[], separator :: spaces, by simp⟩
  rw [out]
  refine secret_stage unspelled separates ?_ ?_ isValue frontFree moreFree
  · rw [keeps.getLast?_eq]
    exact begins.word
  · exact barred.imp_right (fun closed ends => closed (keeps.endsInValue ends))

theorem bearerAt_isSome {before : Option Char} {text : List Char}
    (solid : ∀ char ∈ text.head?, isSpace char = false) (opens : beginsToken text = true) :
    (bearerAt before ("Bearer ".toList ++ text)).isSome := by
  obtain ⟨⟨matched, after⟩, read⟩ := Option.isSome_iff_exists.mp opens
  have begun : literal "bearer" ("Bearer ".toList ++ text) =
      some ("Bearer".toList, [' '] ++ text) := by
    have spelled : "Bearer ".toList ++ text = "Bearer".toList ++ ([' '] ++ text) := rfl
    rw [spelled]
    exact literal_append (by decide)
  have spaced : atLeast 1 isSpace ([' '] ++ text) = some ([' '], text) := by
    refine atLeast_append ?_ solid (Nat.le_refl 1)
    intro char member
    rw [List.mem_singleton.mp member]
    rfl
  have whole := parts_cons_eq_some.mpr ⟨_, _, _, begun,
    parts_cons_eq_some.mpr ⟨_, _, _, spaced, read, rfl⟩, rfl⟩
  simp only [bearerAt, whole, Option.bind_eq_bind, Option.bind_some]
  rfl

/-- A match at the word of the header takes the beginning of the token. -/
theorem match_at_header {before : Option Char} {text after written : List Char}
    (found : bearerAt before ("Bearer ".toList ++ text) = some (written, after)) :
    after <:+ text.drop 1 := by
  obtain ⟨-, name, spaces, first, second, third, split, folds, -, someSpace, -⟩ :=
    bearerAt_eq_some_parts found
  have length : "Bearer".toList.length = name.length := by
    have folded := congrArg List.length folds
    rw [List.length_map] at folded
    rw [folded]
    rfl
  have cut : "Bearer".toList ++ (' ' :: text) =
      name ++ (spaces ++ (first ++ '.' :: (second ++ '.' :: third)) ++ after) := by
    rw [← List.append_assoc name, ← split]
    rfl
  obtain ⟨-, behind⟩ := List.append_inj cut length
  obtain ⟨space, spaces, rfl⟩ := List.exists_cons_of_ne_nil someSpace
  obtain ⟨-, rest⟩ := List.cons_eq_cons.mp behind
  rw [rest]
  exact suffix_drop_one (by simp)

/-- A bearer token of three parts goes, whatever stands around the header. -/
theorem removed_of_header (unicode : Char → Bool) (isSecret : IsSecret secret)
    (unspelled : Unspelled secret) (only : OnlyThere secret (front ++ bearerHeader) post)
    (opens : beginsToken (secret ++ post) = true) :
    ¬ secret <:+: redactForLog unicode (some (front ++ bearerHeader ++ secret ++ post)) := by
  refine unspelled.not_infix_redactForLog unicode ?_
  refine sub_free (consumes_secretAt unicode) (unspelled.secretAt unicode) ?_
  have header : bearerHeader = "Authorization".toList ++ ':' :: ([' '] ++ "Bearer ".toList) := rfl
  have regrouped : front ++ bearerHeader ++ secret ++ post =
      (front ++ "Authorization".toList) ++
        ':' :: ([' '] ++ ("Bearer ".toList ++ (secret ++ post))) := by
    rw [header]
    simp
  have solid : ∀ char ∈ (secret ++ post).head?, isSpace char = false := by
    intro char atHead
    obtain ⟨head, others, rfl⟩ := List.exists_cons_of_ne_nil isSecret.nonempty
    obtain rfl := Option.some.inj atHead
    have isValue := isSecret.isValueChar (List.mem_cons_self : head ∈ head :: others)
    by_contra space
    simp [isValueChar, Bool.of_not_eq_false space] at isValue
  have run := run_sub consumes_bearerAt (front ++ bearerHeader ++ secret ++ post)
  rw [regrouped] at run ⊢
  have apart : Avoids bearerAt ':' := by
    intro before matched after written found member
    exact absurd (bearerAt_members found member) (by decide)
  obtain ⟨outFront, outBack, out, runFront, runBack⟩ := run.split_at apart
  rw [out]
  obtain ⟨value, before, rfl, runValue⟩ := run_behind_space runBack
  have isFound := @bearerAt_isSome before _ solid opens
  generalize text : "Bearer ".toList ++ (secret ++ post) = token at runValue isFound
  cases runValue with
  | nil => cases text
  | copy unmatched more =>
      rw [List.append_nil] at unmatched
      rw [unmatched] at isFound
      cases isFound
  | @rewrite _ matched later written outLater nonempty found runLater =>
      rw [List.append_nil, ← text] at found
      have reach := match_at_header found
      obtain ⟨rfl, -⟩ := bearerAt_eq_some found
      intro occurs
      have around : secret <:+:
          (outFront ++ [':', ' ']) ++ ([] ++ "Bearer REDACTED".toList ++ []) ++ outLater := by
        simpa using occurs
      rcases unspelled.bearer (outFront ++ [':', ' ']) outLater around with inFront | inLater
      · have read := runFront.occurs unspelled.bearerAt [] [':', ' '] (by simpa using inFront)
        refine only.front_free isSecret.nonempty (read.trans ⟨[], "Bearer ".toList, ?_⟩)
        rw [header]
        simp
      · have read := runLater.occurs unspelled.bearerAt [] [] (by simpa using inLater)
        have inText : secret <:+: later := by simpa using read
        exact only.behind_free isSecret.nonempty (inText.trans reach.isInfix)

end VpnSuite.Access
