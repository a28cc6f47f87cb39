/-
Repeated redaction of log texts comes to rest (`core/redaction.py`).

A text that is redacted twice can lose more than one that is redacted once, for a quoted value
leaves what stands behind its quote.  A match that is not written back as it is makes the text
cheaper when the word REDACTED costs one and every other character at least two, so after some
calls the text stays as it is.
-/

import VpnSuite.Foundations.WordCosts
import VpnSuite.Access.RedactedSecrets

set_option autoImplicit false

namespace VpnSuite.Access

open Foundations
open Foundations.PythonText
open Foundations.Substitutions
open Foundations.WordCosts

variable {unicode : Char → Bool} {left name lead value rest after text secret : List Char}

/-! ### What a text costs -/

def redactedWord : List Char := "REDACTED".toList

/-- A colon costs more than the `=` that is written for it. -/
def charPrice (char : Char) : Nat := if char = ':' then 3 else 2

def textCost (text : List Char) : Nat := cost redactedWord charPrice text

theorem two_le_charPrice (char : Char) : 2 ≤ charPrice char := by
  unfold charPrice
  split
  · decide
  · exact Nat.le_refl 2

theorem redactedWord_ne_nil : redactedWord ≠ [] := by decide

theorem textCost_append {right : List Char} (unbroken : Unbroken redactedWord left right) :
    textCost (left ++ right) = textCost left + textCost right :=
  cost_append unbroken redactedWord_ne_nil

theorem textCost_of_foreign (foreign : ∀ char ∈ text, char ∉ redactedWord) :
    2 * text.length ≤ textCost text := by
  refine mul_length_le_cost two_le_charPrice ?_
  intro occurs
  exact foreign 'R' (occurs.subset (by decide)) (by decide)

theorem textCost_of_short (short : text.length < redactedWord.length) :
    2 * text.length ≤ textCost text := by
  refine mul_length_le_cost two_le_charPrice ?_
  intro occurs
  have length := occurs.length_le
  omega

theorem textCost_of_long (long : 10 ≤ text.length) : 2 ≤ textCost text := by
  have reach := length_le_cost (fun char => Nat.le_of_lt (two_le_charPrice char))
    redactedWord_ne_nil text
  have eight : redactedWord.length = 8 := by decide
  rw [eight] at reach
  unfold textCost
  omega

theorem two_le_textCost (nonempty : text ≠ []) (differs : text ≠ redactedWord) :
    2 ≤ textCost text :=
  two_le_cost two_le_charPrice redactedWord_ne_nil nonempty differs

/-! ### Where no occurrence of the word is broken -/

/-- A kind of characters that the word has not. -/
theorem foreign_of_kind {kind : Char → Bool} (none : redactedWord.all (fun char => !kind char))
    {char : Char} (holds : kind char = true) : char ∉ redactedWord := by
  intro member
  have outside := List.all_eq_true.mp none char member
  simp [holds] at outside

/-- A kind of characters that the word consists of. -/
theorem foreign_of_outside {kind : Char → Bool} (all : redactedWord.all kind)
    {char : Char} (outside : kind char = false) : char ∉ redactedWord := by
  intro member
  rw [List.all_eq_true.mp all char member] at outside
  cases outside

theorem Introduces.foreign (introduces : Introduces lead) : ∀ char ∈ lead, char ∉ redactedWord := by
  intro char member
  rcases introduces.kind member with kind | kind | kind
  · exact foreign_of_kind (by decide) kind
  · exact foreign_of_kind (by decide) kind
  · exact foreign_of_kind (by decide) kind

theorem redactedWord_unbordered (begun rest : List Char) (split : redactedWord = begun ++ rest)
    (someBegun : begun ≠ []) (someRest : rest ≠ []) : ¬ begun <:+ redactedWord := by
  intro ends
  have none : redactedWord.inits.all (fun begun =>
      begun == [] || begun == redactedWord || !(redactedWord.tails.contains begun)) = true := by
    decide
  have here := List.all_eq_true.mp none begun ((List.mem_inits _ _).mpr ⟨rest, split.symm⟩)
  simp only [Bool.or_eq_true, beq_iff_eq, Bool.not_eq_true', ← Bool.not_eq_true,
    List.contains_iff_mem, List.mem_tails] at here
  rcases here with (empty | whole) | outside
  · exact someBegun empty
  · rw [whole] at split
    exact someRest (List.append_right_eq_self.mp split.symm)
  · exact outside ends

theorem unbroken_behind_redacted {front : List Char} :
    Unbroken redactedWord (front ++ redactedWord) after :=
  Unbroken.behind_word redactedWord_unbordered

/-- No occurrence of the word runs into a key. -/
theorem unbroken_key {key : SecretKey} (folds : key.name.toList <+: name.map foldCase) :
    Unbroken redactedWord left (name ++ rest) := by
  intro begun part split someBegun somePart _ begins
  have none : SecretKey.all.all (fun key => redactedWord.tails.all (fun part =>
      part == [] || part == redactedWord ||
        (part.map foldCase).take 3 != key.name.toList.take (min 3 part.length))) = true := by
    decide +kernel
  have here := List.all_eq_true.mp (List.all_eq_true.mp none key key.mem_all) part
    ((List.mem_tails _ _).mpr ⟨begun, split.symm⟩)
  simp only [Bool.or_eq_true, beq_iff_eq, bne_iff_ne, ne_eq] at here
  rcases here with (empty | whole) | differs
  · exact somePart empty
  · rw [whole] at split
    exact someBegun (List.append_left_eq_self.mp split.symm)
  · refine differs ?_
    obtain ⟨more, spelled⟩ := folds
    have long : 3 ≤ key.name.toList.length := by cases key <;> decide
    have folded : part.map foldCase <+: key.name.toList ++ (more ++ rest.map foldCase) := by
      rw [← List.append_assoc, spelled, ← List.map_append]
      exact begins.map foldCase
    have taken := List.prefix_iff_eq_take.mp folded
    rw [taken, List.length_map, List.take_take, List.take_append_of_le_length (by omega)]

/-! ### What a match makes of the cost -/

/-- A key and what stands behind it are paid apart. -/
theorem textCost_key {key : SecretKey} (folds : name.map foldCase = key.name.toList)
    (foreign : ∀ char ∈ rest.head?, char ∉ redactedWord) :
    textCost (left ++ (name ++ rest)) = textCost left + (textCost name + textCost rest) := by
  have spelled : key.name.toList <+: name.map foldCase := by rw [folds]
  rw [textCost_append (unbroken_key spelled), textCost_append (Unbroken.of_head foreign)]

theorem textCost_written {key : SecretKey} (folds : name.map foldCase = key.name.toList) :
    textCost (left ++ (name ++ "=REDACTED".toList ++ after)) =
      textCost left + (textCost name + (3 + textCost after)) := by
  have spelled : "=REDACTED".toList = ['='] ++ redactedWord := rfl
  have paid : textCost "=REDACTED".toList = 3 := by decide
  rw [List.append_assoc name, textCost_key folds (by
      intro char atHead
      obtain rfl := Option.some.inj atHead
      decide), ← paid, spelled, textCost_append unbroken_behind_redacted]

theorem Introduces.textCost_append (introduces : Introduces lead) :
    textCost (lead ++ rest) = textCost lead + textCost rest := by
  refine Access.textCost_append (Unbroken.of_last ?_)
  intro char atEnd
  exact introduces.foreign char (List.mem_of_getLast? atEnd)

theorem Introduces.head_foreign (introduces : Introduces lead) :
    ∀ char ∈ (lead ++ rest).head?, char ∉ redactedWord := by
  obtain ⟨first, more, rfl, -⟩ := introduces.leaves
  intro char atHead
  obtain rfl := Option.some.inj atHead
  exact introduces.foreign first List.mem_cons_self

/-- Only the sign that is written for it costs as little as two. -/
theorem Introduces.paid (introduces : Introduces lead) :
    2 ≤ textCost lead ∧ (lead = ['='] ∨ 3 ≤ textCost lead) := by
  have sum := textCost_of_foreign introduces.foreign
  obtain ⟨separator, member, isSep⟩ := introduces.separator_mem
  obtain ⟨first, others, rfl⟩ := List.exists_cons_of_ne_nil (List.ne_nil_of_mem member)
  rw [List.length_cons] at sum
  refine ⟨by omega, ?_⟩
  cases others with
  | nil =>
      obtain rfl := List.mem_singleton.mp member
      rw [isSeparator, Bool.or_eq_true, beq_iff_eq, beq_iff_eq] at isSep
      rcases isSep with rfl | rfl
      · exact .inr (by decide)
      · exact .inl rfl
  | cons second others =>
      rw [List.length_cons] at sum
      exact .inr (by omega)

theorem lowers_bearerAt : Lowers textCost bearerAt := by
  intro before matched after written found left
  obtain ⟨rfl, name, spaces, first, second, third, split, folds, areSpaces, someSpace, -, -, -,
    stops⟩ := bearerAt_eq_some_parts found
  obtain rfl := List.append_cancel_right split
  generalize dotted : first ++ '.' :: (second ++ '.' :: third) = token
  have isName : name.map foldCase = SecretKey.bearer.name.toList := folds
  have foreign : ∀ char ∈ spaces, char ∉ redactedWord := fun char member =>
    foreign_of_kind (by decide) (areSpaces char member)
  have behind : Unbroken redactedWord token after := Unbroken.of_head (fun char atHead =>
    foreign_of_outside (by decide) (stops char atHead))
  have spaced : Unbroken redactedWord spaces (token ++ after) := Unbroken.of_last (fun char atEnd =>
    foreign char (List.mem_of_getLast? atEnd))
  have read : textCost (left ++ (name ++ (spaces ++ token) ++ after)) =
      textCost left + (textCost name + (textCost spaces + (textCost token + textCost after))) := by
    obtain ⟨space, others, rfl⟩ := List.exists_cons_of_ne_nil someSpace
    rw [List.append_assoc name, List.append_assoc, textCost_key isName (by
      intro char atHead
      obtain rfl := Option.some.inj atHead
      exact foreign _ List.mem_cons_self), textCost_append spaced, textCost_append behind]
  have write : textCost (left ++ ("Bearer REDACTED".toList ++ after)) =
      textCost left + (15 + textCost after) := by
    have spelled : "Bearer REDACTED".toList = "Bearer ".toList ++ redactedWord := rfl
    have paid : textCost "Bearer REDACTED".toList = 15 := by decide
    rw [← paid, textCost_append (@unbroken_key _ "Bearer REDACTED".toList _ .bearer (by decide)),
      spelled, textCost_append unbroken_behind_redacted]
  have six : name.length = 6 := by
    have folded := congrArg List.length folds
    rwa [List.length_map] at folded
  have paidName := @textCost_of_short name (by rw [six]; decide)
  have paidSpaces := textCost_of_foreign foreign
  have someSpaces := List.length_pos_iff.mpr someSpace
  have dot : '.' ∈ token := by
    rw [← dotted]
    simp
  have paidToken := two_le_textCost (List.ne_nil_of_mem dot) (by
    rintro rfl
    exact absurd dot (by decide))
  right
  omega

theorem lowers_secretAt (unicode : Char → Bool) : Lowers textCost (secretAt unicode) := by
  intro before matched after written found left
  obtain ⟨key, name, lead, value, trail, split, folds, -, introduces, some, -, areQuotes, stops,
    rfl⟩ := secretAt_eq_some_parts found
  obtain rfl := List.append_cancel_right split
  have foreign : ∀ char ∈ trail, char ∉ redactedWord := fun char member =>
    foreign_of_kind (by decide) (areQuotes char member)
  have behind : Unbroken redactedWord value (trail ++ after) := Unbroken.of_head (fun char atHead =>
    foreign_of_outside (by decide) (stops char atHead))
  have quoted : Unbroken redactedWord trail after := Unbroken.of_last (fun char atEnd =>
    foreign char (List.mem_of_getLast? atEnd))
  have read : textCost (left ++ (name ++ (lead ++ (value ++ trail)) ++ after)) =
      textCost left + (textCost name + (textCost lead +
        (textCost value + (textCost trail + textCost after)))) := by
    rw [List.append_assoc name, List.append_assoc, List.append_assoc,
      textCost_key folds introduces.head_foreign, introduces.textCost_append,
      textCost_append behind, textCost_append quoted]
  have write := @textCost_written left name after key folds
  obtain ⟨paidLead, exactLead⟩ := introduces.paid
  have paidTrail := textCost_of_foreign foreign
  by_cases word : value = redactedWord
  · subst word
    have paid : textCost redactedWord = 1 := by decide
    rcases exactLead with rfl | dear
    · cases trail with
      | nil => exact .inl rfl
      | cons char trail =>
          rw [List.length_cons] at paidTrail
          right
          omega
    · right
      omega
  · have paidValue := two_le_textCost some word
    right
    omega

theorem lowers_privateKeyAt : Lowers textCost privateKeyAt := by
  intro before matched after written found left
  obtain ⟨key, name, lead, keyText, split, folds, introduces, enough, stops, rfl⟩ :=
    privateKeyAt_eq_some found
  obtain rfl := List.append_cancel_right split
  have behind : Unbroken redactedWord keyText after := Unbroken.of_head (fun char atHead =>
    foreign_of_outside (by decide) (stops char atHead))
  have read : textCost (left ++ (name ++ (lead ++ keyText) ++ after)) =
      textCost left + (textCost name + (textCost lead + (textCost keyText + textCost after))) := by
    rw [List.append_assoc name, List.append_assoc, textCost_key folds introduces.head_foreign,
      introduces.textCost_append, textCost_append behind]
  have write := @textCost_written left name after key folds
  have paidLead := introduces.paid.1
  have paidText := textCost_of_long (Nat.le_trans (by decide) enough)
  right
  omega

/-- A sign that folds to none of the letters of the word is not in the word. -/
theorem foreign_of_folded {sign char : Char}
    (apart : redactedWord.all (fun char => !(foldCase char == sign))) (folds : foldCase char = sign) :
    char ∉ redactedWord :=
  foreign_of_kind apart (beq_iff_eq.mpr folds)

theorem last_foreign {part : List Char} {sign : Char}
    (apart : redactedWord.all (fun char => !(foldCase char == sign)))
    (folds : name.map foldCase = part ++ [sign]) : ∀ char ∈ name.getLast?, char ∉ redactedWord := by
  intro char atEnd
  refine foreign_of_folded apart ?_
  have last := congrArg List.getLast? folds
  rw [List.getLast?_map, Option.mem_def.mp atEnd, List.getLast?_concat] at last
  exact Option.some.inj last

theorem first_foreign {part : List Char} {sign : Char}
    (apart : redactedWord.all (fun char => !(foldCase char == sign)))
    (folds : name.map foldCase = sign :: part) :
    ∀ char ∈ (name ++ rest).head?, char ∉ redactedWord := by
  have some : name ≠ [] := by
    rintro rfl
    cases folds
  obtain ⟨first, others, rfl⟩ := List.exists_cons_of_ne_nil some
  intro char atHead
  obtain rfl := Option.some.inj atHead
  exact foreign_of_folded apart (List.cons_eq_cons.mp folds).1

theorem lowers_configUrlAt : Lowers textCost configUrlAt := by
  intro before matched after written found left
  obtain ⟨opening, token, closing, split, foldsOpening, foldsClosing, rfl, enough⟩ :=
    configUrlAt_eq_some found
  obtain rfl := List.append_cancel_right split
  have slashes : ∃ part, opening.map foldCase = '/' :: (part ++ ['/']) := by
    rcases foldsOpening with folds | folds
    · exact ⟨"config".toList, folds⟩
    · exact ⟨"configs".toList, folds⟩
  obtain ⟨part, slashed⟩ := slashes
  have read (middle : List Char) :
      textCost (left ++ (opening ++ middle ++ closing ++ after)) =
        textCost left + (textCost opening + (textCost middle + textCost (closing ++ after))) := by
    rw [List.append_assoc (opening ++ middle), List.append_assoc opening,
      textCost_append (Unbroken.of_head (first_foreign (by decide) slashed)),
      textCost_append (Unbroken.of_last (@last_foreign opening ('/' :: part) '/' (by decide) slashed)),
      textCost_append (Unbroken.of_head (first_foreign (by decide) foldsClosing))]
  have paid : textCost redactedWord = 1 := by decide
  have paidToken := textCost_of_long enough
  right
  rw [read token]
  calc textCost (left ++ (opening ++ redactedWord ++ closing ++ after))
      = textCost left + (textCost opening + (1 + textCost (closing ++ after))) := by
        rw [read redactedWord, paid]
    _ < textCost left + (textCost opening + (textCost token + textCost (closing ++ after))) := by
        omega

theorem lowers_configQueryAt : Lowers textCost configQueryAt := by
  intro before matched after written found left
  obtain ⟨name, token, split, folds, enough, stops, rfl⟩ := configQueryAt_eq_some found
  obtain rfl := List.append_cancel_right split
  have begins : SecretKey.token.name.toList <+: name.map foldCase := by
    rw [folds]
    decide
  have named : Unbroken redactedWord name (token ++ after) :=
    Unbroken.of_last (@last_foreign name "token".toList '=' (by decide) folds)
  have behind : Unbroken redactedWord token after := Unbroken.of_head (fun char atHead =>
    foreign_of_outside (by decide) (stops char atHead))
  have read : textCost (left ++ (name ++ token ++ after)) =
      textCost left + (textCost name + (textCost token + textCost after)) := by
    rw [List.append_assoc name, textCost_append (unbroken_key begins), textCost_append named,
      textCost_append behind]
  have write : textCost (left ++ ("token=REDACTED".toList ++ after)) =
      textCost left + (13 + textCost after) := by
    have spelled : "token=REDACTED".toList = "token=".toList ++ redactedWord := rfl
    have paid : textCost "token=REDACTED".toList = 13 := by decide
    rw [← paid, textCost_append (@unbroken_key _ "token=REDACTED".toList _ .token (by decide)),
      spelled, textCost_append unbroken_behind_redacted]
  have six : name.length = 6 := by
    have folded := congrArg List.length folds
    rwa [List.length_map] at folded
  have paidName := @textCost_of_short name (by rw [six]; decide)
  have paidToken := textCost_of_long enough
  right
  omega

/-! ### Calls that come to rest -/

/-- `redact_for_log` of a text. -/
def redactText (unicode : Char → Bool) (text : List Char) : List Char :=
  redactForLog unicode (some text)

theorem lowered_comp {first second : List Char → List Char}
    (firstLowers : ∀ text, first text = text ∨ textCost (first text) < textCost text)
    (secondLowers : ∀ text, second text = text ∨ textCost (second text) < textCost text)
    (text : List Char) :
    second (first text) = text ∨ textCost (second (first text)) < textCost text := by
  rcases secondLowers (first text) with same | cheaper
  · rw [same]
    exact firstLowers text
  · rcases firstLowers text with same | before
    · rw [same] at cheaper ⊢
      exact .inr cheaper
    · exact .inr (Nat.lt_trans cheaper before)

theorem redactText_lowers (unicode : Char → Bool) (text : List Char) :
    redactText unicode text = text ∨ textCost (redactText unicode text) < textCost text := by
  have bearer := sub_lowers consumes_bearerAt lowers_bearerAt
  have values := sub_lowers (consumes_secretAt unicode) (lowers_secretAt unicode)
  have privateKey := sub_lowers consumes_privateKeyAt lowers_privateKeyAt
  have url := sub_lowers consumes_configUrlAt lowers_configUrlAt
  have query := sub_lowers consumes_configQueryAt lowers_configQueryAt
  exact lowered_comp (lowered_comp (lowered_comp (lowered_comp bearer values) privateKey) url)
    query text

/-- No call brings a secret into a text. -/
theorem redactText_free (unspelled : Unspelled secret) (free : ¬ secret <:+: text) :
    ¬ secret <:+: redactText unicode text := by
  refine unspelled.not_infix_redactForLog unicode ?_
  exact sub_free (consumes_secretAt unicode) (unspelled.secretAt unicode)
    (sub_free consumes_bearerAt unspelled.bearerAt free)

/-! ### The law -/

theorem redactText_iterate_free (unspelled : Unspelled secret) (free : ¬ secret <:+: text)
    (count : Nat) : ¬ secret <:+: (redactText unicode)^[count] text := by
  induction count with
  | zero => exact free
  | succ count ih =>
      rw [Function.iterate_succ_apply']
      exact redactText_free unspelled ih

/-- The secret of a key goes when the key begins a word and nothing in front of it runs into it,
and a bearer token of three parts goes.  A secret that went stays away in every further call, and
after some calls the text stays as it is. -/
theorem redacts_seen_secrets (unicode : Char → Bool) :
    (∀ (key : SecretKey) (front secret post : List Char), IsSecret secret → Unspelled secret →
      BeginsKey unicode front →
        (OnlyThere secret (front ++ (key.name.toList ++ ['='])) post →
          ¬ secret <:+: redactText unicode
            (front ++ (key.name.toList ++ ['=']) ++ secret ++ post)) ∧
        (¬ EndsInValue unicode front →
          OnlyThere secret (front ++ (key.name.toList ++ [':', ' '])) post →
            ¬ secret <:+: redactText unicode
              (front ++ (key.name.toList ++ [':', ' ']) ++ secret ++ post))) ∧
    (∀ front secret post : List Char, IsSecret secret → Unspelled secret →
      beginsToken (secret ++ post) = true → OnlyThere secret (front ++ bearerHeader) post →
        ¬ secret <:+: redactText unicode (front ++ bearerHeader ++ secret ++ post)) ∧
    ∀ text : List Char,
      (∀ secret : List Char, Unspelled secret → ¬ secret <:+: text →
        ∀ count, ¬ secret <:+: (redactText unicode)^[count] text) ∧
      ∃ count, Function.IsFixedPt (redactText unicode) ((redactText unicode)^[count] text) := by
  refine ⟨?_, ?_, ?_⟩
  · intro key front secret post isSecret unspelled begins
    constructor
    · intro only
      exact removed_of_key (.inl ⟨rfl, rfl⟩) isSecret unspelled begins only (.inl rfl)
    · intro closed only
      exact removed_of_key (.inr ⟨rfl, rfl⟩) isSecret unspelled begins only (.inr closed)
  · intro front secret post isSecret unspelled opens only
    exact removed_of_header unicode isSecret unspelled only opens
  · intro text
    constructor
    · intro secret unspelled free count
      exact redactText_iterate_free unspelled free count
    · exact exists_settled (redactText_lowers unicode) text

/-! ### Texts that are redacted -/

/-- No letters and digits beyond ASCII. -/
def asciiWords : Char → Bool := fun _ => false

/-- A symbol at the end of the secret tells where it stands. -/
theorem onlyThere_of_symbol {before start : List Char} {symbol : Char}
    (notBefore : symbol ∉ before ++ start) (notAfter : symbol ∉ after) :
    OnlyThere (start ++ [symbol]) before after := by
  intro left right same
  have cut : (before ++ start) ++ symbol :: after = (left ++ start) ++ symbol :: right := by
    simpa using same
  rcases List.append_eq_append_iff.mp cut with ⟨extra, front, reach⟩ | ⟨extra, front, reach⟩
  · cases extra with
    | nil => exact List.append_cancel_right (front.trans (List.append_nil _))
    | cons head extra =>
        obtain ⟨-, rfl⟩ := List.cons_eq_cons.mp reach
        exact absurd (List.mem_append_right _ List.mem_cons_self) notAfter
  · cases extra with
    | nil => exact (List.append_cancel_right (front.trans (List.append_nil _))).symm
    | cons head extra =>
        obtain ⟨rfl, -⟩ := List.cons_eq_cons.mp reach
        exact absurd (front ▸ List.mem_append_right _ List.mem_cons_self) notBefore

theorem isSecret_of_all (nonempty : secret ≠ []) (all : secret.all isSecretChar = true) :
    IsSecret secret :=
  ⟨nonempty, fun char member => List.all_eq_true.mp all char member⟩

theorem not_endsInBearer (dotless : '.' ∉ text) : ¬ EndsInBearer text := by
  rintro ⟨left, name, spaces, first, second, third, rfl, -⟩
  exact dotless (by simp)

theorem not_endsInValue (unseparated : text.all (fun char => !isSeparator char) = true) :
    ¬ EndsInValue unicode text := by
  rintro ⟨left, key, name, lead, value, rfl, -, -, introduces, -⟩
  obtain ⟨separator, member, isSep⟩ := introduces.separator_mem
  have outside := List.all_eq_true.mp unseparated separator (by simp [member])
  rw [isSep] at outside
  cases outside

/-- A password behind `=`, one behind a colon, and a bearer token in its header. -/
theorem sample_secret_is_redacted :
    let secret := "h1.u2.s3".toList
    ¬ secret <:+: redactText asciiWords
        ("login: ".toList ++ (SecretKey.password.name.toList ++ ['=']) ++ secret ++ []) ∧
      ¬ secret <:+: redactText asciiWords
        ("login ".toList ++ (SecretKey.password.name.toList ++ [':', ' ']) ++ secret ++ [',']) ∧
      ¬ secret <:+: redactText asciiWords ([] ++ bearerHeader ++ secret ++ []) := by
  have isSecret : IsSecret "h1.u2.s3".toList := isSecret_of_all (by decide) (by decide)
  have unspelled : Unspelled "h1.u2.s3".toList := by
    refine unspelled_of_foreign ?_
    have foreign : "h1.u2.s3".toList.all (fun char =>
        !"token=Bearer REDACTED".toList.contains char) = true := by decide
    intro char member
    simpa using List.all_eq_true.mp foreign char member
  have only (before after : List Char) (notBefore : '3' ∉ before ++ "h1.u2.s".toList)
      (notAfter : '3' ∉ after) : OnlyThere "h1.u2.s3".toList before after :=
    @onlyThere_of_symbol _ _ "h1.u2.s".toList '3' notBefore notAfter
  have behindSpace {front : List Char} (dotless : '.' ∉ front) (last : front.getLast? = some ' ') :
      BeginsKey asciiWords front := by
    refine ⟨?_, not_endsInBearer dotless⟩
    intro char atEnd
    rw [last] at atEnd
    obtain rfl := Option.some.inj atEnd
    rfl
  have behindColon := @behindSpace "login: ".toList (by decide) rfl
  have behindWord := @behindSpace "login ".toList (by decide) rfl
  have inFirst := only ("login: ".toList ++ (SecretKey.password.name.toList ++ ['='])) []
    (by decide) (by decide)
  have inSecond := only ("login ".toList ++ (SecretKey.password.name.toList ++ [':', ' '])) [',']
    (by decide) (by decide)
  have inThird := only ([] ++ bearerHeader) [] (by decide) (by decide)
  obtain ⟨keys, headers, -⟩ := redacts_seen_secrets asciiWords
  have first := keys .password "login: ".toList _ [] isSecret unspelled behindColon
  have second := keys .password "login ".toList _ [','] isSecret unspelled behindWord
  have third := headers [] _ [] isSecret unspelled (by decide +kernel) inThird
  exact ⟨first.1 inFirst, second.2 (not_endsInValue (by decide)) inSecond, third⟩

/-- A password behind a longer word, behind a bearer token or behind another key, one that the
redaction spells itself, one in JSON and a bearer token without dots are logged, and a quoted value
is redacted in two steps. -/
theorem guarded_password_is_logged :
    let secret := "hunter2".toList
    let logged := fun text : String => redactText asciiWords text.toList
    IsSecret secret ∧
      (OnlyThere secret "mypassword=".toList [] ∧ secret <:+: logged "mypassword=hunter2") ∧
      (OnlyThere secret "Bearer a.b.c-password=".toList [] ∧
        secret <:+: logged "Bearer a.b.c-password=hunter2") ∧
      (OnlyThere secret "token=password: ".toList [] ∧
        secret <:+: logged "token=password: hunter2") ∧
      (IsSecret ['D'] ∧ OnlyThere ['D'] "password=".toList [] ∧ ['D'] <:+: logged "password=D") ∧
      (OnlyThere secret "\x7b\"password\": \"".toList "\"\x7d".toList ∧
        secret <:+: logged "\x7b\"password\": \"hunter2\"\x7d") ∧
      (OnlyThere secret "Authorization: Bearer ".toList [] ∧
        secret <:+: logged "Authorization: Bearer hunter2") ∧
      redactText asciiWords (logged "password=\"a\"b") ≠ logged "password=\"a\"b" := by
  have only (before after : String) (notBefore : '2' ∉ before.toList ++ "hunter".toList)
      (notAfter : '2' ∉ after.toList) : OnlyThere "hunter2".toList before.toList after.toList :=
    @onlyThere_of_symbol _ _ "hunter".toList '2' notBefore notAfter
  have onlySpelled : OnlyThere ['D'] "password=".toList [] :=
    @onlyThere_of_symbol _ _ [] 'D' (by decide) (by decide)
  refine ⟨isSecret_of_all (by decide) (by decide), ⟨only _ "" (by decide) (by decide), ?_⟩,
    ⟨only _ "" (by decide) (by decide), ?_⟩, ⟨only _ "" (by decide) (by decide), ?_⟩,
    ⟨isSecret_of_all (by decide) (by decide), onlySpelled, ?_⟩,
    ⟨only _ _ (by decide) (by decide), ?_⟩, ⟨only _ "" (by decide) (by decide), ?_⟩,
    by decide +kernel⟩
  · exact ⟨"mypassword=".toList, [], by decide +kernel⟩
  · exact ⟨"Bearer REDACTED=".toList, [], by decide +kernel⟩
  · exact ⟨"token=REDACTED ".toList, [], by decide +kernel⟩
  · exact ⟨"password=RE".toList, "ACTED".toList, by decide +kernel⟩
  · exact ⟨"\x7b\"password\": \"".toList, "\"\x7d".toList, by decide +kernel⟩
  · exact ⟨"Authorization=REDACTED ".toList, [], by decide +kernel⟩

end VpnSuite.Access
