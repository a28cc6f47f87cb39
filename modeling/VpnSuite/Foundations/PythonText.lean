/-
The part of Python's `str` that the modelled code relies on.

Text is Lean `String`; every operation goes through its list of code points, so
it evaluates on concrete inputs.  `strip` removes exactly the characters for
which `str.isspace` holds.  Regular expressions of the form `[class]{low,high}`
under `fullmatch` are length bounds together with a character class.
-/

import Mathlib.Data.List.DropRight
import Mathlib.Data.List.Infix

set_option autoImplicit false

namespace VpnSuite.Foundations.PythonText

/-- `str.isspace` of one character: the white space `str.strip` removes. -/
def isSpace (char : Char) : Bool :=
  let code := char.toNat
  (9 ≤ code && code ≤ 13) || (28 ≤ code && code ≤ 32) || code == 0x85 || code == 0xa0 ||
    code == 0x1680 || (0x2000 ≤ code && code ≤ 0x200a) || code == 0x2028 || code == 0x2029 ||
    code == 0x202f || code == 0x205f || code == 0x3000

def stripChars (chars : List Char) : List Char :=
  (chars.dropWhile isSpace).rdropWhile isSpace

/-- `text.strip()`. -/
def strip (text : String) : String := String.ofList (stripChars text.toList)

/-- `text.lower()`; only ASCII letters change case in the modelled comparisons. -/
def lower (text : String) : String := String.ofList (text.toList.map Char.toLower)

/-- `needle in text`. -/
def contains (needle text : String) : Bool :=
  text.toList.tails.any (fun suffix => needle.toList.isPrefixOf suffix)

/-- `value or default` for an optional text: missing and empty both give the default. -/
def orDefault (value : Option String) (default : String) : String :=
  match value with
  | none => default
  | some text => if text = "" then default else text

/-- `text or None`. -/
def orNone (text : String) : Option String := if text = "" then none else some text

/-- `text[:count]`. -/
def slice (count : Nat) (text : String) : String := String.ofList (text.toList.take count)

/-- `re.fullmatch` of `[class]{low,high}`. -/
def fullmatchClass (inClass : Char → Bool) (low high : Nat) (text : String) : Bool :=
  low ≤ text.toList.length && text.toList.length ≤ high && text.toList.all inClass

/-- `text.partition(char)`, without the separator. -/
def partition (char : Char) (chars : List Char) : List Char × List Char :=
  (chars.takeWhile (fun other => other ≠ char), (chars.dropWhile (fun other => other ≠ char)).tail)

/-- `text.rpartition(char)`, without the separator. -/
def rpartition (char : Char) (chars : List Char) : List Char × List Char :=
  let halves := partition char chars.reverse
  (halves.2.reverse, halves.1.reverse)

/-- `separator.join(texts)`. -/
def join (separator : String) (texts : List String) : String :=
  String.ofList (separator.toList.intercalate (texts.map String.toList))

def isAsciiAlphanumeric (char : Char) : Bool :=
  ('a' ≤ char && char ≤ 'z') || ('A' ≤ char && char ≤ 'Z') || ('0' ≤ char && char ≤ '9')

/-! ### Stripping -/

theorem prefix_stripChars (chars : List Char) :
    stripChars chars <+: chars.dropWhile isSpace :=
  List.rdropWhile_prefix isSpace _

theorem stripChars_subset (chars : List Char) : stripChars chars ⊆ chars := by
  have leading := prefix_stripChars chars
  intro char member
  exact (List.dropWhile_suffix isSpace).subset (leading.subset member)

/-- A stripped text starts with no white space. -/
theorem isSpace_of_stripChars_cons {chars rest : List Char} {char : Char}
    (stripped : stripChars chars = char :: rest) : isSpace char = false := by
  obtain ⟨removed, whole⟩ := prefix_stripChars chars
  rw [stripped] at whole
  have atHead := List.head?_dropWhile_not isSpace chars
  rw [← whole] at atHead
  simpa using atHead

theorem stripChars_idempotent (chars : List Char) :
    stripChars (stripChars chars) = stripChars chars := by
  have frontKept : (stripChars chars).dropWhile isSpace = stripChars chars := by
    cases stripped : stripChars chars with
    | nil => rfl
    | cons char rest =>
        rw [List.dropWhile_cons, isSpace_of_stripChars_cons stripped]
        simp
  rw [stripChars, frontKept, stripChars]
  exact List.rdropWhile_idempotent isSpace _

/-- What neither starts nor ends in white space is stripped. -/
theorem stripChars_of_ends {chars : List Char}
    (first : ∀ char, chars.head? = some char → isSpace char = false)
    (last : ∀ char, chars.getLast? = some char → isSpace char = false) :
    chars.dropWhile isSpace = chars ∧ chars.rdropWhile isSpace = chars ∧
      stripChars chars = chars := by
  have front : chars.dropWhile isSpace = chars := by
    cases chars with
    | nil => rfl
    | cons char rest => rw [List.dropWhile_cons_of_neg (by simp [first char rfl])]
  have back : chars.rdropWhile isSpace = chars := by
    rw [List.rdropWhile_eq_self_iff]
    intro nonempty
    simp [last _ (List.getLast?_eq_some_getLast nonempty)]
  exact ⟨front, back, by rw [stripChars, front, back]⟩

/-- What is trimmed at its end does not end in white space. -/
theorem isSpace_of_trimmed {chars : List Char} {char : Char}
    (trimmed : chars.rdropWhile isSpace = chars) (atEnd : chars.getLast? = some char) :
    isSpace char = false := by
  obtain ⟨nonempty, rfl⟩ := List.mem_getLast?_eq_getLast atEnd
  rw [← Bool.not_eq_true]
  exact List.rdropWhile_eq_self_iff.mp trimmed nonempty

theorem stripChars_trimmed (chars : List Char) :
    (stripChars chars).rdropWhile isSpace = stripChars chars :=
  List.rdropWhile_idempotent isSpace _

theorem mem_stripChars {char : Char} {chars : List Char} (member : char ∈ chars)
    (visible : isSpace char = false) : char ∈ stripChars chars := by
  have inRest : char ∈ chars.dropWhile isSpace := by
    rw [← @List.takeWhile_append_dropWhile _ isSpace chars] at member
    rcases List.mem_append.mp member with front | rest
    · rw [List.mem_takeWhile_imp front] at visible
      cases visible
    · exact rest
  rw [← List.mem_reverse,
    ← @List.takeWhile_append_dropWhile _ isSpace (chars.dropWhile isSpace).reverse] at inRest
  rcases List.mem_append.mp inRest with back | kept
  · rw [List.mem_takeWhile_imp back] at visible
    cases visible
  · rw [stripChars, List.rdropWhile, List.mem_reverse]
    exact kept

theorem stripChars_cons_visible {char : Char} (visible : isSpace char = false)
    (rest : List Char) : ∃ more, stripChars (char :: rest) = char :: more := by
  have leading := prefix_stripChars (char :: rest)
  have inside := mem_stripChars (List.mem_cons_self (l := rest)) visible
  rw [List.dropWhile_cons_of_neg (by simp [visible])] at leading
  obtain ⟨first, more, stripped⟩ := List.exists_cons_of_ne_nil (List.ne_nil_of_mem inside)
  rw [stripped, List.cons_prefix_cons] at leading
  exact ⟨more, by rw [stripped, leading.1]⟩

@[simp] theorem strip_strip (text : String) : strip (strip text) = strip text := by
  unfold strip
  rw [String.toList_ofList, stripChars_idempotent]

/-! ### Defaults and character classes -/

theorem orDefault_empty (text : String) : orDefault (some text) "" = text := by
  by_cases blank : text = "" <;> simp [orDefault, blank]

@[simp] theorem orDefault_orNone (text : String) : orDefault (orNone text) "" = text := by
  by_cases blank : text = "" <;> simp [orDefault, orNone, blank]

theorem orNone_eq_some {text value : String} (found : orNone text = some value) :
    value = text ∧ value ≠ "" := by
  unfold orNone at found
  split at found
  · cases found
  · rename_i nonempty
    cases found
    exact ⟨rfl, nonempty⟩

theorem contains_append (before needle after : String) :
    contains needle (before ++ needle ++ after) = true := by
  unfold contains
  rw [List.any_eq_true]
  refine ⟨needle.toList ++ after.toList, ?_, List.isPrefixOf_iff_prefix.mpr ⟨after.toList, rfl⟩⟩
  rw [List.mem_tails, String.toList_append, String.toList_append, List.append_assoc]
  exact List.suffix_append ..

theorem fullmatchClass_iff (inClass : Char → Bool) (low high : Nat) (text : String) :
    fullmatchClass inClass low high text = true ↔
      low ≤ text.toList.length ∧ text.toList.length ≤ high ∧
        ∀ char ∈ text.toList, inClass char = true := by
  simp [fullmatchClass, and_assoc]

theorem join_singleton (separator text : String) : join separator [text] = text := by
  rw [join, List.map_singleton, List.intercalate_singleton, String.ofList_toList]

theorem partition_append {char : Char} {before : List Char} (free : char ∉ before)
    (after : List Char) : partition char (before ++ char :: after) = (before, after) := by
  induction before with
  | nil => simp [partition]
  | cons first rest ih =>
      have different : first ≠ char := by
        rintro rfl
        exact free List.mem_cons_self
      have later := ih (fun member => free (List.mem_cons_of_mem first member))
      simp only [partition, Prod.mk.injEq] at later ⊢
      simpa [different] using later

theorem partition_of_not_mem {char : Char} {chars : List Char} (free : char ∉ chars) :
    partition char chars = (chars, []) := by
  have kept : ∀ other ∈ chars, decide (other ≠ char) = true := by
    intro other member
    rw [decide_eq_true_eq]
    rintro rfl
    exact free member
  rw [partition, List.takeWhile_eq_self_iff.mpr kept, List.dropWhile_eq_nil_iff.mpr kept,
    List.tail_nil]

theorem partition_of_mem {char : Char} {chars : List Char} (found : char ∈ chars) :
    chars = (partition char chars).1 ++ char :: (partition char chars).2 ∧
      char ∉ (partition char chars).1 := by
  induction chars with
  | nil => exact absurd found List.not_mem_nil
  | cons first rest ih =>
      by_cases same : first = char
      · subst same
        simp [partition]
      · obtain ⟨whole, free⟩ := ih ((List.mem_cons.mp found).resolve_left (Ne.symm same))
        have step : partition char (first :: rest) =
            (first :: (partition char rest).1, (partition char rest).2) := by
          simp [partition, same]
        rw [step]
        refine ⟨congrArg (List.cons first) whole, ?_⟩
        rw [List.mem_cons, not_or]
        exact ⟨Ne.symm same, free⟩

theorem rpartition_append {char : Char} {after : List Char} (free : char ∉ after)
    (before : List Char) : rpartition char (before ++ char :: after) = (before, after) := by
  have mirrored : (before ++ char :: after).reverse = after.reverse ++ char :: before.reverse := by
    simp
  rw [rpartition, mirrored, partition_append (fun member => free (List.mem_reverse.mp member))]
  simp

theorem rpartition_of_mem {char : Char} {chars : List Char} (found : char ∈ chars) :
    chars = (rpartition char chars).1 ++ char :: (rpartition char chars).2 ∧
      char ∉ (rpartition char chars).2 := by
  obtain ⟨whole, free⟩ := partition_of_mem (List.mem_reverse.mpr found)
  have mirrored := congrArg List.reverse whole
  rw [List.reverse_reverse] at mirrored
  constructor
  · simpa [rpartition] using mirrored
  · simpa [rpartition] using free

/-- A character of a text is a separator or stands in one of the parts. -/
theorem mem_splitOn {separator char : Char} {chars : List Char} (member : char ∈ chars) :
    char = separator ∨ ∃ part ∈ chars.splitOn separator, char ∈ part := by
  induction chars with
  | nil => exact absurd member List.not_mem_nil
  | cons first rest ih =>
      obtain ⟨head, others, parts⟩ := List.exists_cons_of_ne_nil
        (List.splitOn_ne_nil separator rest)
      rw [List.splitOn_cons_eq_if_modifyHead]
      by_cases same : first = separator
      · rcases List.mem_cons.mp member with rfl | later
        · exact Or.inl same
        · rcases ih later with isSeparator | ⟨part, listed, inPart⟩
          · exact Or.inl isSeparator
          · rw [if_pos (by simp [same])]
            exact Or.inr ⟨part, List.mem_cons_of_mem _ listed, inPart⟩
      · rw [if_neg (by simp [same]), parts, List.modifyHead_cons]
        rcases List.mem_cons.mp member with rfl | later
        · exact Or.inr ⟨_, List.mem_cons_self, List.mem_cons_self⟩
        · rcases ih later with isSeparator | ⟨part, listed, inPart⟩
          · exact Or.inl isSeparator
          · rw [parts] at listed
            rcases List.mem_cons.mp listed with rfl | further
            · exact Or.inr ⟨_, List.mem_cons_self, List.mem_cons_of_mem _ inPart⟩
            · exact Or.inr ⟨part, List.mem_cons_of_mem _ further, inPart⟩

/-- What stands before and after the first separator. -/
theorem separator_inj {char : Char} {left right leftRest rightRest : List Char}
    (leftFree : char ∉ left) (rightFree : char ∉ right)
    (same : left ++ char :: leftRest = right ++ char :: rightRest) :
    left = right ∧ leftRest = rightRest := by
  induction left generalizing right with
  | nil =>
      cases right with
      | nil => exact ⟨rfl, (List.cons.inj same).2⟩
      | cons first rest =>
          obtain ⟨rfl, -⟩ := List.cons.inj same
          exact absurd List.mem_cons_self rightFree
  | cons first rest ih =>
      cases right with
      | nil =>
          obtain ⟨rfl, -⟩ := List.cons.inj same
          exact absurd List.mem_cons_self leftFree
      | cons other others =>
          obtain ⟨rfl, tails⟩ := List.cons.inj same
          obtain ⟨rfl, sameRest⟩ := ih (fun member => leftFree (List.mem_cons_of_mem _ member))
            (fun member => rightFree (List.mem_cons_of_mem _ member)) tails
          exact ⟨rfl, sameRest⟩

/-- What stands before and after the last separator. -/
theorem last_separator_inj {char : Char} {left right leftRest rightRest : List Char}
    (leftFree : char ∉ leftRest) (rightFree : char ∉ rightRest)
    (same : left ++ char :: leftRest = right ++ char :: rightRest) :
    left = right ∧ leftRest = rightRest := by
  have mirrored : leftRest.reverse ++ char :: left.reverse =
      rightRest.reverse ++ char :: right.reverse := by
    have both := congrArg List.reverse same
    simpa only [List.reverse_append, List.reverse_cons, List.append_assoc,
      List.singleton_append] using both
  obtain ⟨rests, parts⟩ := separator_inj (fun member => leftFree (List.mem_reverse.mp member))
    (fun member => rightFree (List.mem_reverse.mp member)) mirrored
  exact ⟨List.reverse_injective parts, List.reverse_injective rests⟩

/-! ### Raising computations -/

/-- A sequence of raising steps returns only if every step does. -/
theorem bind_eq_ok {ε α β : Type} {step : Except ε α} {next : α → Except ε β} {result : β} :
    (step >>= next) = .ok result ↔ ∃ value, step = .ok value ∧ next value = .ok result := by
  cases step with
  | error failure => simp [bind, Except.bind]
  | ok value => simp [bind, Except.bind]

/-- It raises what its first failing step raises. -/
theorem bind_eq_error {ε α β : Type} {step : Except ε α} {next : α → Except ε β} {error : ε} :
    (step >>= next) = .error error ↔
      step = .error error ∨ ∃ value, step = .ok value ∧ next value = .error error := by
  cases step with
  | error failure => simp [bind, Except.bind]
  | ok value => simp [bind, Except.bind]

theorem ok_of_isSome {ε α : Type} {result : Except ε α}
    (returned : result.toOption.isSome = true) : ∃ value, result = .ok value := by
  cases result with
  | error error => cases returned
  | ok value => exact ⟨value, rfl⟩

theorem mapError_eq_ok {ε δ α : Type} {wrap : ε → δ} {result : Except ε α} {value : α} :
    result.mapError wrap = .ok value ↔ result = .ok value := by
  cases result with
  | error error => simp [Except.mapError]
  | ok value => simp [Except.mapError]

end VpnSuite.Foundations.PythonText
