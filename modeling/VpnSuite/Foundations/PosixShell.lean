/-
Reading one line of POSIX shell input as a pipeline of literal words.

`tokens` follows the token recognition and quoting rules of the Shell Command
Language: blanks separate words, single quotes keep everything, double quotes and
the backslash keep most characters, `#` at the start of a word opens a comment.
It answers only for input that is a pipeline of simple commands without any
expansion, redirection or further command; everything else is `none`.

The reader is about shell input in general and names no particular script.
-/

import Mathlib.Data.List.Basic
import Mathlib.Algebra.BigOperators.Group.List.Basic

set_option autoImplicit false

namespace VpnSuite.Foundations.PosixShell

inductive Token where
  | word (chars : List Char)
  | pipe
  deriving DecidableEq, Repr

/-- What a character means outside quotes. -/
inductive CharClass where
  | nul
  | singleQuote
  | doubleQuote
  | backslash
  | blank
  | pipe
  | hash
  | tilde
  | special
  | ordinary
  deriving DecidableEq, Repr

def singleQuoteChar : Char := Char.ofNat 39

def doubleQuoteChar : Char := Char.ofNat 34

def backslashChar : Char := Char.ofNat 92

/-- Operators, the newline that ends a command, and the characters that start a
parameter, command or pathname expansion. -/
def isSpecial (char : Char) : Bool :=
  ['&', ';', '<', '>', '(', ')', '\n', '$', Char.ofNat 96, '*', '?', '['].contains char

def classify (char : Char) : CharClass :=
  if char = Char.ofNat 0 then .nul
  else if char = singleQuoteChar then .singleQuote
  else if char = doubleQuoteChar then .doubleQuote
  else if char = backslashChar then .backslash
  else if char = ' ' || char = '\t' then .blank
  else if char = '|' then .pipe
  else if char = '#' then .hash
  else if char = '~' then .tilde
  else if isSpecial char then .special
  else .ordinary

inductive Mode where
  | plain
  | escaped
  | single
  | double
  | doubleEscaped
  | comment
  deriving DecidableEq, Repr

/-- The word being read, if any, becomes a token. -/
def flush : Option (List Char) → List Token
  | none => []
  | some chars => [.word chars]

def extend (word : Option (List Char)) (char : Char) : Option (List Char) :=
  some (word.getD [] ++ [char])

def lex : Mode → Option (List Char) → List Char → Option (List Token)
  | .plain, word, [] => some (flush word)
  | .plain, word, char :: rest =>
      match classify char with
      | .nul => none
      | .singleQuote => lex .single (some (word.getD [])) rest
      | .doubleQuote => lex .double (some (word.getD [])) rest
      | .backslash => lex .escaped word rest
      | .blank => (lex .plain none rest).map (fun later => flush word ++ later)
      | .pipe =>
          -- `||` is a control operator, not two pipes
          if rest.head? = some '|' then none
          else (lex .plain none rest).map (fun later => flush word ++ .pipe :: later)
      | .hash =>
          match word with
          | none => lex .comment none rest
          | some _ => lex .plain (extend word char) rest
      | .tilde =>
          match word with
          | none => none
          | some _ => lex .plain (extend word char) rest
      | .special => none
      | .ordinary => lex .plain (extend word char) rest
  | .escaped, _, [] => none
  | .escaped, word, char :: rest =>
      if char = Char.ofNat 0 then none
      else if char = '\n' then lex .plain word rest
      else lex .plain (extend word char) rest
  | .single, _, [] => none
  | .single, word, char :: rest =>
      if char = Char.ofNat 0 then none
      else if char = singleQuoteChar then lex .plain word rest
      else lex .single (extend word char) rest
  | .double, _, [] => none
  | .double, word, char :: rest =>
      if char = Char.ofNat 0 then none
      else if char = doubleQuoteChar then lex .plain word rest
      else if char = '$' || char = Char.ofNat 96 then none
      else if char = backslashChar then lex .doubleEscaped word rest
      else lex .double (extend word char) rest
  | .doubleEscaped, _, [] => none
  | .doubleEscaped, word, char :: rest =>
      if char = Char.ofNat 0 then none
      else if char = '\n' then lex .double word rest
      else if char = '$' || char = Char.ofNat 96 || char = doubleQuoteChar ||
          char = backslashChar then
        lex .double (extend word char) rest
      else lex .double (extend (extend word backslashChar) char) rest
  | .comment, _, [] => some []
  | .comment, word, char :: rest =>
      if char = '\n' then none else lex .comment word rest

def tokens (script : List Char) : Option (List Token) := lex .plain none script

def words (texts : List (List Char)) : List Token := texts.map .word

/-- The tokens of `producer | consumer`. -/
def pipeline (producer consumer : List (List Char)) : List Token :=
  words producer ++ .pipe :: words consumer

/-- Text that the shell reads as one literal word, itself. -/
def plainWord (text : List Char) : Bool :=
  match text with
  | [] => false
  | first :: rest =>
      classify first == .ordinary &&
        rest.all (fun char => classify char == .ordinary || classify char == .hash ||
          classify char == .tilde)

/-- Replace each single quote by a closing quote, a double-quoted single quote
and an opening quote. -/
def escapeSingleQuotes (text : List Char) : List Char :=
  text.flatMap (fun char =>
    if char = singleQuoteChar then
      [singleQuoteChar, doubleQuoteChar, singleQuoteChar, doubleQuoteChar, singleQuoteChar]
    else [char])

def singleQuoted (text : List Char) : List Char :=
  singleQuoteChar :: (escapeSingleQuotes text ++ [singleQuoteChar])

/-- Words that each follow one blank. -/
def spaced (texts : List (List Char)) : List Char :=
  texts.flatMap (fun text => ' ' :: text)

/-! ### Plain characters -/

/-- Every character with a meaning of its own outside quotes. -/
def reserved : List Char :=
  [Char.ofNat 0, singleQuoteChar, doubleQuoteChar, backslashChar, ' ', '\t', '|', '#', '~',
    '&', ';', '<', '>', '(', ')', '\n', '$', Char.ofNat 96, '*', '?', '[']

theorem classify_of_not_reserved {char : Char} (free : char ∉ reserved) :
    classify char = .ordinary := by
  simp only [reserved, List.mem_cons, List.not_mem_nil, or_false, not_or] at free
  simp [classify, isSpecial, free]

/-- A character class without reserved characters only makes plain words. -/
theorem plainWord_of_class (inClass : Char → Bool)
    (free : reserved.all (fun char => !inClass char) = true) {text : List Char}
    (nonempty : text ≠ []) (inside : ∀ char ∈ text, inClass char = true) :
    plainWord text = true := by
  have ordinary : ∀ char ∈ text, classify char = .ordinary := by
    intro char member
    apply classify_of_not_reserved
    intro isReserved
    have outside := List.all_eq_true.mp free char isReserved
    rw [inside char member] at outside
    cases outside
  cases text with
  | nil => exact absurd rfl nonempty
  | cons first rest =>
      simp only [plainWord, Bool.and_eq_true, beq_iff_eq, List.all_eq_true]
      refine ⟨ordinary first (List.mem_cons_self ..), ?_⟩
      intro char member
      simp [ordinary char (List.mem_cons_of_mem first member)]

/-! ### Reading one character -/

theorem lex_single_cons (word : Option (List Char)) (char : Char) (rest : List Char) :
    lex .single word (char :: rest) =
      if char = Char.ofNat 0 then none
      else if char = singleQuoteChar then lex .plain word rest
      else lex .single (extend word char) rest :=
  rfl

theorem lex_plain_cons (word : Option (List Char)) (char : Char) (rest : List Char) :
    lex .plain word (char :: rest) =
      match classify char with
      | .nul => none
      | .singleQuote => lex .single (some (word.getD [])) rest
      | .doubleQuote => lex .double (some (word.getD [])) rest
      | .backslash => lex .escaped word rest
      | .blank => (lex .plain none rest).map (fun later => flush word ++ later)
      | .pipe =>
          if rest.head? = some '|' then none
          else (lex .plain none rest).map (fun later => flush word ++ .pipe :: later)
      | .hash =>
          match word with
          | none => lex .comment none rest
          | some _ => lex .plain (extend word char) rest
      | .tilde =>
          match word with
          | none => none
          | some _ => lex .plain (extend word char) rest
      | .special => none
      | .ordinary => lex .plain (extend word char) rest :=
  rfl

theorem lex_of_blank {char : Char} (kind : classify char = .blank) (word : Option (List Char))
    (rest : List Char) :
    lex .plain word (char :: rest) =
      (lex .plain none rest).map (fun later => flush word ++ later) := by
  rw [lex_plain_cons]
  simp only [kind]

theorem lex_of_pipe {char : Char} (kind : classify char = .pipe) (word : Option (List Char))
    (rest : List Char) :
    lex .plain word (char :: rest) =
      if rest.head? = some '|' then none
      else (lex .plain none rest).map (fun later => flush word ++ .pipe :: later) := by
  rw [lex_plain_cons]
  simp only [kind]

theorem lex_of_refused {char : Char} (kind : classify char = .nul ∨ classify char = .special)
    (word : Option (List Char)) (rest : List Char) : lex .plain word (char :: rest) = none := by
  rcases kind with nul | special
  · rw [lex_plain_cons]
    simp only [nul]
  · rw [lex_plain_cons]
    simp only [special]

/-! ### Reading plain words -/

def continues (char : Char) : Bool :=
  classify char == .ordinary || classify char == .hash || classify char == .tilde

theorem lex_continue (read : List Char) (char : Char) (rest : List Char)
    (plain : continues char = true) :
    lex .plain (some read) (char :: rest) = lex .plain (some (read ++ [char])) rest := by
  unfold continues at plain
  rw [lex_plain_cons]
  cases kind : classify char <;> simp_all [extend]

theorem lex_start (char : Char) (rest : List Char) (plain : classify char = .ordinary) :
    lex .plain none (char :: rest) = lex .plain (some [char]) rest := by
  rw [lex_plain_cons]
  simp only [plain]
  rfl

theorem continues_of_plainWord {text : List Char} (plain : plainWord text = true) :
    ∀ char ∈ text, continues char = true := by
  cases text with
  | nil => cases plain
  | cons first rest =>
      simp only [plainWord, Bool.and_eq_true, beq_iff_eq, List.all_eq_true] at plain
      intro char member
      rcases List.mem_cons.mp member with same | later
      · rw [same]
        simp [continues, plain.1]
      · exact plain.2 char later

theorem lex_continue_all (text read rest : List Char)
    (plain : ∀ char ∈ text, continues char = true) :
    lex .plain (some read) (text ++ rest) = lex .plain (some (read ++ text)) rest := by
  induction text generalizing read with
  | nil => rw [List.nil_append, List.append_nil]
  | cons char text ih =>
      rw [List.cons_append, lex_continue read char _ (plain char (List.mem_cons_self ..)),
        ih _ (fun later member => plain later (List.mem_cons_of_mem char member)),
        List.append_assoc]
      rfl

theorem lex_plainWord {text : List Char} (plain : plainWord text = true) (rest : List Char) :
    lex .plain none (text ++ rest) = lex .plain (some text) rest := by
  cases text with
  | nil => cases plain
  | cons first later =>
      simp only [plainWord, Bool.and_eq_true, beq_iff_eq, List.all_eq_true] at plain
      rw [List.cons_append, lex_start first _ plain.1, lex_continue_all later [first] rest]
      · rfl
      · intro char member
        exact plain.2 char member

theorem lex_blank (word : Option (List Char)) (rest : List Char) :
    lex .plain word (' ' :: rest) =
      (lex .plain none rest).map (fun later => flush word ++ later) :=
  lex_of_blank (by decide) word rest

theorem lex_spaced (texts : List (List Char)) (plain : ∀ text ∈ texts, plainWord text = true)
    (word : Option (List Char)) (rest : List Char) :
    lex .plain word (spaced texts ++ ' ' :: rest) =
      (lex .plain none rest).map (fun later => flush word ++ (words texts ++ later)) := by
  induction texts generalizing word with
  | nil => exact lex_blank word rest
  | cons text texts ih =>
      have headPlain := plain text (List.mem_cons_self ..)
      have tail := ih (fun later member => plain later (List.mem_cons_of_mem text member))
        (some text)
      have shape : spaced (text :: texts) ++ ' ' :: rest =
          ' ' :: (text ++ (spaced texts ++ ' ' :: rest)) := by
        simp [spaced]
      rw [shape, lex_blank, lex_plainWord headPlain, tail, Option.map_map]
      rfl

theorem lex_spaced_end (texts : List (List Char))
    (plain : ∀ text ∈ texts, plainWord text = true) (word : Option (List Char)) :
    lex .plain word (spaced texts) = some (flush word ++ words texts) := by
  induction texts generalizing word with
  | nil => exact congrArg some (List.append_nil _).symm
  | cons text texts ih =>
      have headPlain := plain text (List.mem_cons_self ..)
      have tail := ih (fun later member => plain later (List.mem_cons_of_mem text member))
        (some text)
      have shape : spaced (text :: texts) = ' ' :: (text ++ spaced texts) := by
        simp [spaced]
      rw [shape, lex_blank, lex_plainWord headPlain, tail]
      rfl

theorem lex_pipe_blank (word : Option (List Char)) (rest : List Char) :
    lex .plain word ('|' :: ' ' :: rest) =
      (lex .plain none (' ' :: rest)).map (fun later => flush word ++ .pipe :: later) :=
  rfl

/-! ### Reading quoted text -/

theorem lex_closeQuote (read rest : List Char) :
    lex .single (some read) (singleQuoteChar :: rest) = lex .plain (some read) rest :=
  rfl

theorem lex_single_kept {char : Char} (notNul : char ≠ Char.ofNat 0)
    (notQuote : char ≠ singleQuoteChar) (read rest : List Char) :
    lex .single (some read) (char :: rest) = lex .single (some (read ++ [char])) rest := by
  rw [lex_single_cons, if_neg notNul, if_neg notQuote]
  rfl

/-- The escape sequence closes the quote, adds one quote character and opens it again. -/
theorem lex_escapedQuote (read rest : List Char) :
    lex .single (some read)
      ([singleQuoteChar, doubleQuoteChar, singleQuoteChar, doubleQuoteChar, singleQuoteChar] ++
        rest) = lex .single (some (read ++ [singleQuoteChar])) rest :=
  rfl

theorem escapeSingleQuotes_cons (char : Char) (text : List Char) :
    escapeSingleQuotes (char :: text) =
      (if char = singleQuoteChar then
        [singleQuoteChar, doubleQuoteChar, singleQuoteChar, doubleQuoteChar, singleQuoteChar]
      else [char]) ++ escapeSingleQuotes text := rfl

theorem lex_escaped (text read rest : List Char)
    (noNul : ∀ char ∈ text, char ≠ Char.ofNat 0) :
    lex .single (some read) (escapeSingleQuotes text ++ rest) =
      lex .single (some (read ++ text)) rest := by
  induction text generalizing read with
  | nil => rw [List.append_nil]; rfl
  | cons char text ih =>
      have later := fun next member => noNul next (List.mem_cons_of_mem char member)
      rw [escapeSingleQuotes_cons, List.append_assoc]
      by_cases quote : char = singleQuoteChar
      · rw [if_pos quote, lex_escapedQuote, ih _ later, quote, List.append_assoc]
        rfl
      · rw [if_neg quote, List.singleton_append,
          lex_single_kept (noNul char (List.mem_cons_self ..)) quote, ih _ later,
          List.append_assoc]
        rfl

/-- A NUL inside the quoted text is not shell input at all. -/
theorem lex_escaped_nul (text read rest : List Char)
    (hasNul : ∃ char ∈ text, char = Char.ofNat 0) :
    lex .single (some read) (escapeSingleQuotes text ++ rest) = none := by
  induction text generalizing read with
  | nil =>
      obtain ⟨char, member, _⟩ := hasNul
      cases member
  | cons char text ih =>
      rw [escapeSingleQuotes_cons, List.append_assoc]
      by_cases quote : char = singleQuoteChar
      · have later : ∃ next ∈ text, next = Char.ofNat 0 := by
          obtain ⟨next, member, nul⟩ := hasNul
          rcases List.mem_cons.mp member with here | later
          · rw [nul, quote] at here
            exact absurd here (by decide)
          · exact ⟨next, later, nul⟩
        rw [if_pos quote, lex_escapedQuote, ih _ later]
      · rw [if_neg quote, List.singleton_append]
        by_cases nul : char = Char.ofNat 0
        · rw [lex_single_cons, if_pos nul]
        · have later : ∃ next ∈ text, next = Char.ofNat 0 := by
            obtain ⟨next, member, isNul⟩ := hasNul
            rcases List.mem_cons.mp member with here | later
            · exact absurd (here ▸ isNul) nul
            · exact ⟨next, later, isNul⟩
          rw [lex_single_kept nul quote, ih _ later]

theorem lex_openQuote (rest : List Char) :
    lex .plain none (singleQuoteChar :: rest) = lex .single (some []) rest :=
  rfl

theorem lex_singleQuoted (text rest : List Char)
    (noNul : ∀ char ∈ text, char ≠ Char.ofNat 0) :
    lex .plain none (singleQuoted text ++ rest) = lex .plain (some text) rest := by
  rw [singleQuoted, List.cons_append, lex_openQuote, List.append_assoc, lex_escaped _ _ _ noNul,
    List.singleton_append, lex_closeQuote]
  rfl

theorem lex_singleQuoted_nul (text rest : List Char)
    (hasNul : ∃ char ∈ text, char = Char.ofNat 0) :
    lex .plain none (singleQuoted text ++ rest) = none := by
  rw [singleQuoted, List.cons_append, lex_openQuote, List.append_assoc,
    lex_escaped_nul _ _ _ hasNul]

/-! ### Only a plain word reads as itself -/

def weight : List Token → Nat
  | [] => 0
  | .word chars :: rest => chars.length + 1 + weight rest
  | .pipe :: rest => weight rest

/-- The weight the remaining input can still produce.  A backslash kept inside
double quotes is only paid for by the character after it. -/
def room (mode : Mode) (word : Option (List Char)) (chars : List Char) : Nat :=
  (word.getD []).length + chars.length + 1 + if mode = .doubleEscaped then 1 else 0

theorem weight_word (chars : List Char) (rest : List Token) :
    weight (.word chars :: rest) = chars.length + 1 + weight rest :=
  rfl

theorem weight_append (first second : List Token) :
    weight (first ++ second) = weight first + weight second := by
  induction first with
  | nil => exact (Nat.zero_add _).symm
  | cons token first ih =>
      cases token with
      | word chars =>
          rw [List.cons_append, weight_word, weight_word, ih]
          omega
      | pipe => exact ih

theorem weight_words (texts : List (List Char)) :
    weight (words texts) = (spaced texts).length := by
  induction texts with
  | nil => rfl
  | cons text texts ih =>
      have tail : weight (texts.map Token.word) = (spaced texts).length := ih
      simp only [words, spaced, List.map_cons, List.flatMap_cons, weight_word, List.length_append,
        List.length_cons] at tail ⊢
      omega

theorem weight_flush (word : Option (List Char)) :
    weight (flush word) ≤ (word.getD []).length + 1 := by
  cases word with
  | none => exact Nat.zero_le _
  | some chars => exact Nat.le_refl _

theorem length_extend (word : Option (List Char)) (char : Char) :
    ((extend word char).getD []).length = (word.getD []).length + 1 :=
  List.length_append

/-- A separator closes the open word and frees the room of one character. -/
theorem weight_separated (word : Option (List Char)) (separator later : List Token)
    (free : weight separator = 0) :
    weight (flush word ++ (separator ++ later)) ≤ (word.getD []).length + 1 + weight later := by
  have closed := weight_flush word
  rw [weight_append, weight_append]
  omega

theorem weight_lex_le (mode : Mode) (word : Option (List Char)) (chars : List Char) :
    ∀ read : List Token, lex mode word chars = some read → weight read ≤ room mode word chars := by
  fun_induction lex mode word chars <;> intro read found
  case case1 word =>
      cases found
      exact weight_flush word
  case case6 word char rest kind ih =>
      obtain ⟨later, readLater, rfl⟩ := Option.map_eq_some_iff.mp found
      have bound := ih later readLater
      have closed := weight_separated word [] later rfl
      simp [room] at bound closed ⊢
      omega
  case case8 word char rest kind single ih =>
      obtain ⟨later, readLater, rfl⟩ := Option.map_eq_some_iff.mp found
      have bound := ih later readLater
      have closed := weight_separated word [.pipe] later rfl
      simp [room] at bound closed ⊢
      omega
  case case34 =>
      cases found
      exact Nat.zero_le _
  -- the other branches fail, or read one character into at most one character
  all_goals first
    | cases found
    | rename_i ih
      have bound := ih read found
      simp [room, length_extend] at bound ⊢
      omega

/-- A blank that ends a word early leaves a shorter word in front. -/
theorem lex_shorter_first (read text rest : List Char) (char : Char) (texts : List (List Char))
    (kind : classify char = .blank) :
    lex .plain (some read) (char :: rest) ≠ some (words ((read ++ char :: text) :: texts)) := by
  intro found
  rw [lex_of_blank kind] at found
  obtain ⟨later, _, joined⟩ := Option.map_eq_some_iff.mp found
  have sameWord := (List.cons.inj joined).1
  have sameLength := congrArg List.length (Token.word.inj sameWord)
  simp at sameLength

theorem pipe_not_mem_words (texts : List (List Char)) : Token.pipe ∉ words texts := by
  simp [words]

theorem lex_pipe_first {char : Char} (kind : classify char = .pipe) (word : Option (List Char))
    (rest : List Char) (texts : List (List Char)) :
    lex .plain word (char :: rest) ≠ some (words texts) := by
  intro found
  rw [lex_of_pipe kind] at found
  split at found
  · cases found
  · obtain ⟨later, _, joined⟩ := Option.map_eq_some_iff.mp found
    apply pipe_not_mem_words texts
    rw [← joined]
    simp

def quotes (char : Char) : Bool :=
  classify char == .singleQuote || classify char == .doubleQuote || classify char == .backslash

/-- A character used up by quoting leaves too little input for a full reading. -/
theorem weight_of_quotes {char : Char} (quoting : quotes char = true)
    {word : Option (List Char)} {rest : List Char} {read : List Token}
    (found : lex .plain word (char :: rest) = some read) :
    weight read ≤ (word.getD []).length + rest.length + 1 := by
  have next : ∃ mode, mode ≠ .doubleEscaped ∧
      (lex mode word rest = some read ∨ lex mode (some (word.getD [])) rest = some read) := by
    rw [lex_plain_cons] at found
    cases kind : classify char <;> simp only [kind] at found <;> simp [quotes, kind] at quoting
    · exact ⟨.single, by decide, Or.inr found⟩
    · exact ⟨.double, by decide, Or.inr found⟩
    · exact ⟨.escaped, by decide, Or.inl found⟩
  obtain ⟨mode, paid, readRest | readRest⟩ := next
  · have bound := weight_lex_le mode word rest read readRest
    simpa [room, paid] using bound
  · have bound := weight_lex_le mode _ rest read readRest
    simpa [room, paid] using bound

theorem lex_quotes_short {char : Char} (quoting : quotes char = true)
    {word : Option (List Char)} {rest : List Char} {read : List Token}
    (full : weight read = (word.getD []).length + rest.length + 2) :
    lex .plain word (char :: rest) ≠ some read := by
  intro found
  have bound := weight_of_quotes quoting found
  omega

theorem continues_of_lex (text read : List Char) (texts : List (List Char))
    (found : lex .plain (some read) (text ++ spaced texts) =
      some (words ((read ++ text) :: texts))) :
    ∀ char ∈ text, continues char = true := by
  induction text generalizing read with
  | nil =>
      intro char member
      cases member
  | cons char text ih =>
      have full : weight (words ((read ++ char :: text) :: texts)) =
          ((some read).getD []).length + (text ++ spaced texts).length + 2 := by
        rw [weight_words]
        simp [spaced]
        omega
      have here : continues char = true := by
        rw [List.cons_append] at found
        cases kind : classify char with
        | ordinary => simp [continues, kind]
        | hash => simp [continues, kind]
        | tilde => simp [continues, kind]
        | blank => exact absurd found (lex_shorter_first read text _ char texts kind)
        | pipe => exact absurd found (lex_pipe_first kind _ _ _)
        | nul =>
            rw [lex_of_refused (.inl kind)] at found
            cases found
        | special =>
            rw [lex_of_refused (.inr kind)] at found
            cases found
        | singleQuote => exact absurd found (lex_quotes_short (by simp [quotes, kind]) full)
        | doubleQuote => exact absurd found (lex_quotes_short (by simp [quotes, kind]) full)
        | backslash => exact absurd found (lex_quotes_short (by simp [quotes, kind]) full)
      rw [List.cons_append, lex_continue read char _ here] at found
      have rest := ih (read ++ [char]) (by simpa using found)
      intro next member
      rcases List.mem_cons.mp member with same | later
      · rw [same]
        exact here
      · exact rest next later

theorem lex_comment (word : Option (List Char)) (chars : List Char) :
    lex .comment word chars = some [] ∨ lex .comment word chars = none := by
  induction chars with
  | nil => exact Or.inl rfl
  | cons char chars ih =>
      change (if char = '\n' then none else lex .comment word chars) = _ ∨
        (if char = '\n' then none else lex .comment word chars) = _
      split
      · exact Or.inr rfl
      · exact ih

/-- In front of further plain words, a text is read as one literal word exactly
when it is a plain word. -/
theorem lex_eq_words_iff (text : List Char) (texts : List (List Char))
    (plain : ∀ later ∈ texts, plainWord later = true) :
    lex .plain none (text ++ spaced texts) = some (words (text :: texts)) ↔
      plainWord text = true := by
  constructor
  · intro found
    cases text with
    | nil =>
        rw [List.nil_append, lex_spaced_end texts plain] at found
        have sameLength := congrArg (fun read => read.map List.length) found
        simp [flush, words] at sameLength
    | cons first rest =>
        have full : weight (words ((first :: rest) :: texts)) =
            ((none : Option (List Char)).getD []).length + (rest ++ spaced texts).length + 2 := by
          rw [weight_words]
          simp [spaced]
        have start : classify first = .ordinary := by
          rw [List.cons_append] at found
          cases kind : classify first with
          | ordinary => rfl
          | hash =>
              rw [lex, kind] at found
              rcases lex_comment none (rest ++ spaced texts) with empty | stuck
              · have bad := empty.symm.trans found
                simp [words] at bad
              · have bad := stuck.symm.trans found
                cases bad
          | pipe => exact absurd found (lex_pipe_first kind _ _ _)
          | tilde => simp [lex, kind] at found
          | nul =>
              rw [lex_of_refused (.inl kind)] at found
              cases found
          | special =>
              rw [lex_of_refused (.inr kind)] at found
              cases found
          | blank =>
              rw [lex_of_blank kind] at found
              obtain ⟨later, readLater, joined⟩ := Option.map_eq_some_iff.mp found
              have bound := weight_lex_le .plain none _ later readLater
              rw [← joined] at full
              simp [flush, room] at full bound
              omega
          | singleQuote => exact absurd found (lex_quotes_short (by simp [quotes, kind]) full)
          | doubleQuote => exact absurd found (lex_quotes_short (by simp [quotes, kind]) full)
          | backslash => exact absurd found (lex_quotes_short (by simp [quotes, kind]) full)
        rw [List.cons_append, lex_start first _ start] at found
        have later := continues_of_lex rest [first] texts found
        simp only [plainWord, start, beq_self_eq_true, Bool.true_and, List.all_eq_true]
        exact later
  · intro plainText
    rw [lex_plainWord plainText, lex_spaced_end texts plain]
    rfl

end VpnSuite.Foundations.PosixShell
