/-
What one sanitising leaves (`sanitize_awg_conf` in `core/amnezia_vpn_key.py`).

The steps run in a fixed order: byte order marks at the start of the text, comments and dropped
lines, the header, blank lines.  What a later step brings to the start is not looked at for a
byte order mark again.  Apart from that a second sanitising finds nothing to do.
-/

import VpnSuite.Config.Sanitize

set_option autoImplicit false

namespace VpnSuite.Config

open Foundations
open Foundations.PythonText
open Foundations.LinePasses (Apart)

/-! ### The law -/

/-- The part of a line before its comment. -/
def uncommented (line : List Char) : List Char := line.takeWhile (fun char => !isCommentMark char)

/-- An `[Interface]` header, possibly with a comment. -/
def IsInterfaceHeader (line : List Char) : Prop := stripChars (uncommented line) = interfaceHeader

/-- The text without the byte order marks at its start, which belong to no line. -/
def unmarkedText (chars : List Char) : List Char := chars.dropWhile (fun char => char = byteOrderMark)

/-- What the sanitised text of a text that is not empty has to look like. -/
structure IsSanitized (raw result : List Char) : Prop where
  unmarked : result.head? ≠ some byteOrderMark
  returns : ¬ ['\r', '\n'] <:+: result
  comments : ∀ char ∈ result, isCommentMark char = false
  emptyKeys : ∀ line ∈ linesOf result, isEmptyKey line = false
  spaced : ∀ front first second back, linesOf result = front ++ first :: second :: back →
    back ≠ [] → ¬ (isBlankLine first = true ∧ isBlankLine second = true)
  ended : ∃ body, result = body ++ ['\n'] ∧ body.getLast? ≠ some '\n'
  headed : (∃ line ∈ linesOf (unmarkedText raw), IsInterfaceHeader line) →
    (linesOf result).head? = some interfaceHeader

/-- Sanitising again changes nothing, and the result looks as it should. -/
structure SanitizeLaw (confText : String) : Prop where
  once : sanitizeAwgConf (sanitizeAwgConf confText) = sanitizeAwgConf confText
  result : confText ≠ "" → IsSanitized confText.toList (sanitizeAwgConf confText).toList

/-! ### The condition -/

/-- A line that is blank or an empty key, its comment apart. -/
def IsIdleLine (line : List Char) : Prop :=
  isBlankLine (uncommented line) = true ∨ isEmptyKey (uncommented line) = true

/-- A line that begins with a byte order mark; white space before it goes with a comment. -/
def StartsMarked (line : List Char) : Prop :=
  (if line.any isCommentMark then stripChars (uncommented line) else line).head? =
    some byteOrderMark

/-- The condition: where the first line that is not idle begins with a byte order mark, some line
is an `[Interface]` header. -/
def MarksCovered (chars : List Char) : Prop :=
  ∀ before line after, linesOf (unmarkedText chars) = before ++ line :: after →
    (∀ earlier ∈ before, IsIdleLine earlier) → StartsMarked line →
      ∃ header ∈ linesOf (unmarkedText chars), IsInterfaceHeader header

/-! ### Lines without comments -/

theorem isSpace_unmarked {char : Char} (space : isSpace char = true) :
    isCommentMark char = false := by
  rw [isCommentMark, Bool.or_eq_false_iff, beq_eq_false_iff_ne, beq_eq_false_iff_ne]
  constructor
  · rintro rfl
    exact absurd space (by decide)
  · rintro rfl
    exact absurd space (by decide)

theorem takeWhile_dropWhile {α : Type} {drop keep : α → Bool} {items : List α}
    (kept : ∀ item, drop item = true → keep item = true) :
    (items.dropWhile drop).takeWhile keep = (items.takeWhile keep).dropWhile drop := by
  induction items with
  | nil => rfl
  | cons item rest ih =>
      by_cases dropped : drop item = true
      · rw [List.dropWhile_cons_of_pos dropped, List.takeWhile_cons_of_pos (kept item dropped),
          List.dropWhile_cons_of_pos dropped, ih]
      · by_cases keeps : keep item = true
        · rw [List.dropWhile_cons_of_neg dropped, List.takeWhile_cons_of_pos keeps,
            List.dropWhile_cons_of_neg dropped]
        · rw [List.dropWhile_cons_of_neg dropped, List.takeWhile_cons_of_neg keeps,
            List.dropWhile_nil]

/-- White space at the end plays no part in front of a comment. -/
theorem uncommented_rdropWhile {line : List Char} (marked : line.any isCommentMark = true) :
    uncommented (line.rdropWhile isSpace) = uncommented line ∧
      (line.rdropWhile isSpace).any isCommentMark = true := by
  induction line using List.reverseRecOn with
  | nil => cases marked
  | append_singleton front last ih =>
      by_cases space : isSpace last = true
      · have unmarked := isSpace_unmarked space
        have inFront : front.any isCommentMark = true := by
          rw [List.any_append, List.any_cons, unmarked] at marked
          simpa using marked
        obtain ⟨same, still⟩ := ih inFront
        rw [List.rdropWhile_concat_pos _ _ _ space, same]
        refine ⟨?_, still⟩
        obtain ⟨mark, member, isMark⟩ := List.any_eq_true.mp inFront
        obtain ⟨before, after, rfl⟩ := List.append_of_mem member
        have stops : ∀ rest : List Char, uncommented (before ++ mark :: rest) =
            uncommented before := by
          intro rest
          rw [uncommented, uncommented]
          by_cases all : ∀ char ∈ before, (!isCommentMark char) = true
          · rw [List.takeWhile_append_of_pos all, List.takeWhile_cons_of_neg (by simp [isMark]),
              List.append_nil, List.takeWhile_eq_self_iff.mpr all]
          · rw [List.takeWhile_append, if_neg]
            intro whole
            exact all (List.takeWhile_eq_self_iff.mp (List.takeWhile_prefix _ |>.eq_of_length whole))
        rw [List.append_assoc, List.cons_append, stops, stops]
      · rw [List.rdropWhile_concat_neg _ _ _ space]
        exact ⟨rfl, marked⟩

theorem any_dropWhile_isSpace (line : List Char) :
    (line.dropWhile isSpace).any isCommentMark = line.any isCommentMark := by
  induction line with
  | nil => rfl
  | cons char rest ih =>
      by_cases space : isSpace char = true
      · rw [List.dropWhile_cons_of_pos space, ih, List.any_cons, isSpace_unmarked space,
          Bool.false_or]
      · rw [List.dropWhile_cons_of_neg space]

/-- What the loop keeps of a line. -/
theorem withoutComment_eq (line : List Char) :
    withoutComment line = if line.any isCommentMark = true then stripChars (uncommented line)
      else line.rdropWhile isSpace := by
  unfold withoutComment
  dsimp only
  rw [any_dropWhile_isSpace]
  by_cases marked : line.any isCommentMark = true
  · obtain ⟨same, still⟩ := uncommented_rdropWhile marked
    rw [if_pos still, if_pos marked, ← same, stripChars, uncommented,
      takeWhile_dropWhile (fun char space => by rw [isSpace_unmarked space]; rfl)]
  · have unmarked : ¬ (line.rdropWhile isSpace).any isCommentMark = true := by
      intro still
      obtain ⟨char, member, isMark⟩ := List.any_eq_true.mp still
      exact marked (List.any_eq_true.mpr
        ⟨char, (List.rdropWhile_prefix _ _).subset member, isMark⟩)
    rw [if_neg unmarked, if_neg marked]

/-- No comment is left in what the loop keeps of a line. -/
theorem withoutComment_unmarked (line : List Char) :
    (withoutComment line).any isCommentMark = false := by
  rw [← any_dropWhile_isSpace]
  exact (withoutComment_spec line).2

theorem cleanLine_unmarked {line cleaned : List Char} (found : cleanLine line = some cleaned) :
    cleaned.any isCommentMark = false ∧ cleaned.rdropWhile isSpace = cleaned ∧
      isEmptyKey cleaned = false := by
  obtain rfl | rfl | rfl | ⟨rfl, _, hasValue, _, _⟩ := cleanLine_cases found
  · decide
  · decide
  · decide
  · exact ⟨withoutComment_unmarked line, (withoutComment_spec line).1, hasValue⟩

theorem stripChars_rdropWhile (line : List Char) :
    stripChars (line.rdropWhile isSpace) = stripChars line := by
  induction line using List.reverseRecOn with
  | nil => rfl
  | append_singleton front last ih =>
      by_cases space : isSpace last = true
      · rw [List.rdropWhile_concat_pos _ _ _ space, ih, stripChars, stripChars]
        by_cases blank : ∀ char ∈ front, isSpace char = true
        · have all : ∀ char ∈ front ++ [last], isSpace char = true := by
            intro char member
            obtain inFront | atEnd := List.mem_append.mp member
            · exact blank char inFront
            · rwa [List.mem_singleton.mp atEnd]
          rw [List.dropWhile_eq_nil_iff.mpr blank, List.dropWhile_eq_nil_iff.mpr all]
        · have visible : front.dropWhile isSpace ≠ [] :=
            fun none => blank (List.dropWhile_eq_nil_iff.mp none)
          rw [List.dropWhile_append, if_neg (by simpa [List.isEmpty_iff] using visible),
            List.rdropWhile_concat_pos _ _ _ space]
      · rw [List.rdropWhile_concat_neg _ _ _ space]

/-- Stripped, what the loop keeps of a line is what stands before its comment. -/
theorem stripChars_withoutComment (line : List Char) :
    stripChars (withoutComment line) = stripChars (uncommented line) := by
  rw [withoutComment_eq]
  split
  · exact stripChars_idempotent _
  · rename_i unmarked
    have whole : uncommented line = line := by
      refine List.takeWhile_eq_self_iff.mpr ?_
      intro char member
      simpa using List.any_eq_false.mp (by simpa using unmarked) char member
    rw [stripChars_rdropWhile, whole]

theorem cleanLine_eq_header_iff (line : List Char) :
    cleanLine line = some interfaceHeader ↔ IsInterfaceHeader line := by
  rw [IsInterfaceHeader, ← stripChars_withoutComment]
  constructor
  · intro found
    unfold cleanLine at found
    dsimp only at found
    split at found
    · exact absurd (Option.some.inj found) (by decide)
    · split at found
      · cases found
      · split at found
        · assumption
        · split at found
          · exact absurd (Option.some.inj found) (by decide)
          · rw [Option.some.inj found]
            decide
  · intro isHeader
    have visible : isBlankLine (withoutComment line) = false := by
      rw [isBlankLine, isHeader]
      rfl
    have hasValue : isEmptyKey (withoutComment line) = false := by
      rw [isEmptyKey, isHeader]
      rfl
    unfold cleanLine
    dsimp only
    rw [visible, hasValue, if_neg Bool.false_ne_true, if_neg Bool.false_ne_true, if_pos isHeader]

/-- Of an idle line the loop keeps at most a blank one. -/
theorem isIdleLine_iff (line : List Char) :
    IsIdleLine line ↔ cleanLine line = none ∨ cleanLine line = some [] := by
  rw [IsIdleLine, isBlankLine, isEmptyKey, ← stripChars_withoutComment]
  constructor
  · rintro (blank | emptyKey)
    · refine Or.inr ?_
      unfold cleanLine
      dsimp only
      rw [isBlankLine, if_pos blank]
    · by_cases blank : isBlankLine (withoutComment line) = true
      · exact Or.inr (if_pos blank)
      · refine Or.inl ?_
        unfold cleanLine
        dsimp only
        rw [if_neg blank, isEmptyKey, if_pos emptyKey]
  · rintro (dropped | blank)
    · unfold cleanLine at dropped
      dsimp only at dropped
      split at dropped
      · cases dropped
      · split at dropped
        · rename_i emptyKey
          exact Or.inr emptyKey
        · split at dropped
          · cases dropped
          · split at dropped <;> cases dropped
    · unfold cleanLine at blank
      dsimp only at blank
      split at blank
      · rename_i isBlank
        exact Or.inl isBlank
      · rename_i visible
        split at blank
        · cases blank
        · split at blank
          · exact absurd (Option.some.inj blank) (by decide)
          · split at blank
            · exact absurd (Option.some.inj blank) (by decide)
            · rw [Option.some.inj blank] at visible
              exact absurd rfl visible

theorem byteOrderMark_visible : isSpace byteOrderMark = false := by decide

/-- White space at the end is not where a byte order mark at the start can be. -/
theorem head?_rdropWhile_isSpace (line : List Char) :
    (line.rdropWhile isSpace).head? = some byteOrderMark ↔ line.head? = some byteOrderMark := by
  cases line with
  | nil => exact Iff.rfl
  | cons first rest =>
      constructor
      · intro marked
        have front := List.rdropWhile_prefix isSpace (first :: rest)
        rw [List.head?_eq_some_iff] at marked
        obtain ⟨more, isMarked⟩ := marked
        rw [isMarked, List.cons_prefix_cons] at front
        rw [List.head?_cons, front.1]
      · intro marked
        obtain rfl := Option.some.inj marked
        rw [LinePasses.rdropWhile_cons_neg (by rw [byteOrderMark_visible]; exact Bool.false_ne_true)]
        rfl

theorem startsMarked_iff (line : List Char) :
    StartsMarked line ↔ (withoutComment line).head? = some byteOrderMark := by
  rw [StartsMarked, withoutComment_eq]
  split
  · exact Iff.rfl
  · exact (head?_rdropWhile_isSpace line).symm

/-- A line that begins with a byte order mark stays, and so does the mark. -/
theorem startsMarked_iff_cleaned (line : List Char) :
    StartsMarked line ↔
      ∃ first, cleanLine line = some first ∧ first.head? = some byteOrderMark := by
  rw [startsMarked_iff]
  constructor
  · intro marked
    obtain ⟨rest, isContent⟩ := List.head?_eq_some_iff.mp marked
    have stripped : ∃ more, stripChars (withoutComment line) = byteOrderMark :: more := by
      rw [isContent, stripChars,
        List.dropWhile_cons_of_neg (by rw [byteOrderMark_visible]; exact Bool.false_ne_true),
        LinePasses.rdropWhile_cons_neg (by rw [byteOrderMark_visible]; exact Bool.false_ne_true)]
      exact ⟨_, rfl⟩
    obtain ⟨more, stripped⟩ := stripped
    refine ⟨withoutComment line, ?_, marked⟩
    have visible : isBlankLine (withoutComment line) = false := by simp [isBlankLine, stripped]
    have hasValue : isEmptyKey (withoutComment line) = false := by
      rw [isEmptyKey, stripped]
      rfl
    have notHeader : ∀ header : List Char, header.head? = some '[' →
        stripChars (withoutComment line) ≠ header := by
      rintro _ atHead rfl
      rw [stripped, List.head?_cons] at atHead
      exact absurd (Option.some.inj atHead) (by decide)
    unfold cleanLine
    dsimp only
    rw [visible, hasValue, if_neg Bool.false_ne_true, if_neg Bool.false_ne_true,
      if_neg (notHeader _ rfl), if_neg (notHeader _ rfl)]
  · rintro ⟨first, found, marked⟩
    obtain rfl | rfl | rfl | ⟨rfl, _, _, _, _⟩ := cleanLine_cases found
    · cases marked
    · exact absurd (Option.some.inj marked) (by decide)
    · exact absurd (Option.some.inj marked) (by decide)
    · exact marked

/-! ### The lines of a sanitised text -/

/-- The cleaned lines from the first visible one on. -/
def topLines (chars : List Char) : List (List Char) :=
  ((linesOf (unmarkedText chars)).filterMap cleanLine).dropWhile isBlankLine

/-- The lines of the sanitised text, but for the empty one after its last line break. -/
def sanitizedLines (chars : List Char) : List (List Char) :=
  (LinePasses.collapse [] false (interfaceFirst (topLines chars))).rdropWhile (fun line => line = [])

/-- Lines in which nothing is left to clean, move or drop. -/
structure Normal (lines : List (List Char)) : Prop where
  cleaned : ∀ line ∈ lines, cleanLine line = some line
  unbroken : ∀ line ∈ lines, '\n' ∉ line
  spaced : lines.IsChain (Apart [])
  starts : lines.head? ≠ some []
  ends : lines.getLast? ≠ some []
  headed : interfaceHeader ∈ lines → lines.head? = some interfaceHeader

theorem interfaceFirst_perm (lines : List (List Char)) : (interfaceFirst lines).Perm lines := by
  unfold interfaceFirst
  split
  · rfl
  · split
    · rfl
    · split
      · rename_i there
        exact (List.perm_cons_erase there).symm
      · rfl

/-- After a first line that is visible the header is moved exactly when it stands later. -/
theorem interfaceFirst_cons {first : List Char} (visible : first ≠ [])
    (cleaned : cleanLine first = some first) (rest : List (List Char)) :
    ∃ others, interfaceFirst (first :: rest) =
      (if interfaceHeader ∈ first :: rest then interfaceHeader else first) :: others := by
  have notBlank : isBlankLine first = false := by
    rw [← Bool.not_eq_true, isBlankLine_cleaned cleaned]
    exact visible
  unfold interfaceFirst
  rw [List.find?_cons_of_pos (by rw [notBlank]; rfl)]
  dsimp only
  split
  · rename_i stripped
    obtain rfl | rfl | rfl | ⟨_, _, _, other, _⟩ := cleanLine_cases cleaned
    · exact absurd rfl visible
    · rw [if_pos List.mem_cons_self]
      exact ⟨rest, rfl⟩
    · exact absurd stripped (by decide)
    · exact absurd stripped other
  · split
    · exact ⟨_, rfl⟩
    · exact ⟨rest, rfl⟩

theorem interfaceFirst_eq_self {first : List Char} {rest : List (List Char)}
    (visible : ¬ isBlankLine first = true)
    (headed : interfaceHeader ∈ first :: rest → first = interfaceHeader) :
    interfaceFirst (first :: rest) = first :: rest := by
  unfold interfaceFirst
  rw [List.find?_cons_of_pos (by simpa using visible)]
  dsimp only
  split
  · rfl
  · rename_i other
    rw [if_neg]
    intro there
    rw [headed there] at other
    exact other (by decide)

theorem mem_topLines {chars line : List Char} (member : line ∈ topLines chars) :
    cleanLine line = some line ∧ '\n' ∉ line := by
  obtain ⟨raw, isRaw, found⟩ :=
    List.mem_filterMap.mp ((List.dropWhile_suffix isBlankLine).subset member)
  exact ⟨cleanLine_idempotent raw line found,
    cleanLine_unbroken (not_mem_of_mem_linesOf isRaw) found⟩

theorem mem_sanitizedLines {chars line : List Char} (member : line ∈ sanitizedLines chars) :
    line ∈ topLines chars := by
  have collapsed := (List.rdropWhile_prefix _ _).subset member
  exact (interfaceFirst_perm _).subset ((LinePasses.collapse_sublist [] false _).subset collapsed)

theorem topLines_head {chars first : List Char} {rest : List (List Char)}
    (top : topLines chars = first :: rest) : first ≠ [] := by
  have some : topLines chars ≠ [] := by
    rw [top]
    exact List.cons_ne_nil first rest
  have visible : isBlankLine ((topLines chars).head some) = false :=
    List.head_dropWhile_not isBlankLine some
  simp only [top, List.head_cons] at visible
  rintro rfl
  cases visible

/-- The first line of the sanitised text. -/
theorem sanitizedLines_head {chars first : List Char} {rest : List (List Char)}
    (top : topLines chars = first :: rest) :
    (sanitizedLines chars).head? =
      some (if interfaceHeader ∈ topLines chars then interfaceHeader else first) := by
  have visible := topLines_head top
  have cleaned := (mem_topLines (top ▸ List.mem_cons_self : first ∈ topLines chars)).1
  obtain ⟨others, moved⟩ := interfaceFirst_cons visible cleaned rest
  have stays : (if interfaceHeader ∈ first :: rest then interfaceHeader else first) ≠ [] := by
    split
    · decide
    · exact visible
  rw [sanitizedLines, top, moved, LinePasses.collapse, if_neg stays,
    LinePasses.rdropWhile_cons_neg (by simpa using stays), List.head?_cons]

theorem normal_sanitizedLines (chars : List Char) : Normal (sanitizedLines chars) := by
  refine ⟨fun line member => (mem_topLines (mem_sanitizedLines member)).1,
    fun line member => (mem_topLines (mem_sanitizedLines member)).2, ?_, ?_, ?_, ?_⟩
  · have spaced : (LinePasses.collapse [] false (interfaceFirst (topLines chars))).IsChain
        (Apart []) := (LinePasses.collapse_isChain false _).1
    exact spaced.prefix (List.rdropWhile_prefix _ _)
  · cases top : topLines chars with
    | nil =>
        rw [sanitizedLines, top]
        exact nofun
    | cons first rest =>
        rw [sanitizedLines_head top]
        split
        · decide
        · exact fun blank => topLines_head top (Option.some.inj blank)
  · intro blank
    obtain ⟨some, isLast⟩ := List.mem_getLast?_eq_getLast blank
    exact List.rdropWhile_last_not _ _ some (decide_eq_true isLast.symm)
  · intro there
    have inTop := mem_sanitizedLines there
    cases top : topLines chars with
    | nil =>
        rw [top] at inTop
        cases inTop
    | cons first rest => rw [sanitizedLines_head top, if_pos inTop]

/-- The sanitised text in lines. -/
theorem sanitizeAwgConf_eq {confText : String} (given : confText ≠ "") :
    (sanitizeAwgConf confText).toList = joinLines (sanitizedLines confText.toList) ++ ['\n'] := by
  have blanks : ∀ line ∈ interfaceFirst (topLines confText.toList),
      isBlankLine line = true ↔ line = [] := by
    intro line member
    exact isBlankLine_cleaned (mem_topLines ((interfaceFirst_perm _).subset member)).1
  have unbroken : ∀ line ∈ LinePasses.collapse [] false (interfaceFirst (topLines confText.toList)),
      '\n' ∉ line := by
    intro line member
    have inTop := (interfaceFirst_perm _).subset ((LinePasses.collapse_sublist [] false _).subset
      member)
    exact (mem_topLines inTop).2
  unfold sanitizeAwgConf
  rw [if_neg given]
  dsimp only
  rw [filterMap_linesOf_crlfToLf cleanLine_withoutReturn, String.toList_ofList]
  change (joinLines (collapseBlankLines false (interfaceFirst (topLines confText.toList)))).rdropWhile
    (fun char => char = '\n') ++ ['\n'] = _
  rw [collapseBlankLines_eq blanks, rdropWhile_joinLines unbroken]
  rfl

theorem linesOf_joined {lines : List (List Char)} (some : lines ≠ [])
    (unbroken : ∀ line ∈ lines, '\n' ∉ line) :
    linesOf (joinLines lines ++ ['\n']) = lines ++ [[]] := by
  rw [linesOf_append, linesOf_joinLines some, flatMap_linesOf unbroken]
  rfl

section Again

variable {lines : List (List Char)} (normal : Normal lines)

include normal

/-- Normal lines whose text begins with no byte order mark are sanitised already. -/
theorem Normal.sanitizedLines_eq
    (unmarked : (joinLines lines ++ ['\n']).head? ≠ some byteOrderMark) :
    sanitizedLines (joinLines lines ++ ['\n']) = lines := by
  have whole : unmarkedText (joinLines lines ++ ['\n']) = joinLines lines ++ ['\n'] := by
    rw [unmarkedText, List.dropWhile_eq_self_iff]
    intro some isMark
    refine unmarked ?_
    rw [List.head?_eq_getElem?, List.getElem?_eq_getElem some]
    exact congrArg _ (of_decide_eq_true isMark)
  cases lines with
  | nil => decide
  | cons first rest =>
      have visible : first ≠ [] := fun blank => normal.starts (congrArg some blank)
      have cleanedFirst := normal.cleaned first List.mem_cons_self
      have notBlank : ¬ isBlankLine first = true := by
        rw [isBlankLine_cleaned cleanedFirst]
        exact visible
      have kept : ∀ line ∈ first :: rest ++ [[]], cleanLine line = some line := by
        intro line member
        obtain there | isEnd := List.mem_append.mp member
        · exact normal.cleaned line there
        · rw [List.mem_singleton.mp isEnd]
          rfl
      have top : topLines (joinLines (first :: rest) ++ ['\n']) = first :: (rest ++ [[]]) := by
        rw [topLines, whole, linesOf_joined (List.cons_ne_nil _ _) normal.unbroken,
          List.filterMap_congr (g := some) kept, List.filterMap_some, List.cons_append,
          List.dropWhile_cons_of_neg notBlank]
      have headed : interfaceHeader ∈ first :: (rest ++ [[]]) → first = interfaceHeader := by
        intro there
        obtain early | isEnd := List.mem_append.mp (List.cons_append ▸ there)
        · exact Option.some.inj (normal.headed early)
        · exact absurd (List.mem_singleton.mp isEnd) (by decide)
      have spaced : (first :: rest ++ [[]]).IsChain (Apart []) := by
        refine normal.spaced.append (List.isChain_singleton _) ?_
        rintro last isLast _ _ ⟨blank, _⟩
        exact normal.ends (blank ▸ isLast)
      rw [sanitizedLines, top, interfaceFirst_eq_self notBlank headed, ← List.cons_append,
        LinePasses.collapse_of_isChain spaced (fun fresh => absurd fresh Bool.false_ne_true),
        List.rdropWhile_concat_pos _ _ _ (by simp), List.rdropWhile_eq_self_iff]
      intro some blank
      refine normal.ends ?_
      rw [List.getLast?_eq_some_getLast some]
      exact congrArg _ (of_decide_eq_true blank)

theorem Normal.linesOf_cases (line : List Char)
    (member : line ∈ linesOf (joinLines lines ++ ['\n'])) : line ∈ lines ∨ line = [] := by
  by_cases some : lines = []
  · subst some
    refine Or.inr ?_
    have blanks : ∀ line ∈ linesOf (joinLines ([] : List (List Char)) ++ ['\n']), line = [] := by
      decide
    exact blanks line member
  · rw [linesOf_joined some normal.unbroken] at member
    obtain there | isEnd := List.mem_append.mp member
    · exact Or.inl there
    · exact Or.inr (List.mem_singleton.mp isEnd)

theorem Normal.unmarked (char : Char) (member : char ∈ joinLines lines ++ ['\n']) :
    isCommentMark char = false := by
  obtain rfl | ⟨line, isLine, inLine⟩ := @mem_splitOn '\n' char _ member
  · decide
  · obtain there | rfl := normal.linesOf_cases line isLine
    · have plain := (cleanLine_unmarked (normal.cleaned line there)).1
      simpa using List.any_eq_false.mp plain char inLine
    · cases inLine

theorem Normal.hasValue (line : List Char) (member : line ∈ linesOf (joinLines lines ++ ['\n'])) :
    isEmptyKey line = false := by
  obtain there | rfl := normal.linesOf_cases line member
  · exact (cleanLine_unmarked (normal.cleaned line there)).2.2
  · decide

/-- No line of the text ends in a carriage return. -/
theorem Normal.returns : ¬ ['\r', '\n'] <:+: joinLines lines ++ ['\n'] := by
  rintro ⟨before, after, whole⟩
  have split : before ++ ['\r', '\n'] ++ after = (before ++ ['\r']) ++ '\n' :: after := by simp
  obtain ⟨front, last, isLast, ended⟩ := @linesOf_getLast (before ++ ['\r']) '\r'
    (by decide) List.getLast?_concat
  have member : last ∈ linesOf (joinLines lines ++ ['\n']) := by
    rw [← whole, split, linesOf_append, isLast]
    simp
  obtain there | rfl := normal.linesOf_cases last member
  · have trimmed := (cleanLine_unmarked (normal.cleaned last there)).2.1
    exact absurd (isSpace_of_trimmed trimmed ended) (by decide)
  · cases ended

theorem Normal.spacedLines {front back : List (List Char)} {first second : List Char}
    (whole : linesOf (joinLines lines ++ ['\n']) = front ++ first :: second :: back)
    (more : back ≠ []) : ¬ (isBlankLine first = true ∧ isBlankLine second = true) := by
  obtain ⟨others, last, rfl⟩ := (List.eq_nil_or_concat' back).resolve_left more
  by_cases some : lines = []
  · subst some
    have two : (linesOf (joinLines ([] : List (List Char)) ++ ['\n'])).length = 2 := by decide
    rw [whole] at two
    simp only [List.length_append, List.length_cons] at two
    omega
  · rw [linesOf_joined some normal.unbroken, ← List.cons_append, ← List.cons_append,
      ← List.append_assoc] at whole
    have body := (List.append_inj' whole rfl).1
    have spaced := normal.spaced
    rw [body] at spaced
    have apart := (List.isChain_cons_cons.mp (List.isChain_append.mp spaced).2.1).1
    have cleanedFirst := normal.cleaned first (by rw [body]; simp)
    have cleanedSecond := normal.cleaned second (by rw [body]; simp)
    rwa [isBlankLine_cleaned cleanedFirst, isBlankLine_cleaned cleanedSecond]

theorem Normal.body_ends : (joinLines lines).getLast? ≠ some '\n' := by
  have trimmed : lines.rdropWhile (fun line => line = []) = lines := by
    rw [List.rdropWhile_eq_self_iff]
    intro some blank
    refine normal.ends ?_
    rw [List.getLast?_eq_some_getLast some]
    exact congrArg _ (of_decide_eq_true blank)
  have whole := rdropWhile_joinLines normal.unbroken
  rw [trimmed, List.rdropWhile_eq_self_iff] at whole
  intro broken
  obtain ⟨some, isLast⟩ := List.mem_getLast?_eq_getLast broken
  exact whole some (decide_eq_true isLast.symm)

end Again

theorem header_mem_topLines {chars line : List Char} (member : line ∈ linesOf (unmarkedText chars))
    (header : IsInterfaceHeader line) : interfaceHeader ∈ topLines chars := by
  have cleaned : interfaceHeader ∈ (linesOf (unmarkedText chars)).filterMap cleanLine :=
    List.mem_filterMap.mpr ⟨line, member, (cleanLine_eq_header_iff line).mpr header⟩
  have whole : ((linesOf (unmarkedText chars)).filterMap cleanLine).takeWhile isBlankLine ++
      topLines chars = (linesOf (unmarkedText chars)).filterMap cleanLine :=
    List.takeWhile_append_dropWhile
  rw [← whole, List.mem_append] at cleaned
  obtain blank | there := cleaned
  · exact absurd (List.mem_takeWhile_imp blank) (by decide)
  · exact there

theorem header_of_mem_topLines {chars : List Char} (member : interfaceHeader ∈ topLines chars) :
    ∃ line ∈ linesOf (unmarkedText chars), IsInterfaceHeader line := by
  obtain ⟨line, isLine, found⟩ :=
    List.mem_filterMap.mp ((List.dropWhile_suffix isBlankLine).subset member)
  exact ⟨line, isLine, (cleanLine_eq_header_iff line).mp found⟩

/-- A sanitised text that begins with no byte order mark is as it should be. -/
theorem isSanitized_of_unmarked {chars : List Char}
    (unmarked : (joinLines (sanitizedLines chars) ++ ['\n']).head? ≠ some byteOrderMark) :
    IsSanitized chars (joinLines (sanitizedLines chars) ++ ['\n']) := by
  have normal := normal_sanitizedLines chars
  refine ⟨unmarked, normal.returns, normal.unmarked, normal.hasValue,
    fun _ _ _ _ whole more => normal.spacedLines whole more, ⟨_, rfl, normal.body_ends⟩, ?_⟩
  rintro ⟨line, member, header⟩
  have inTop := header_mem_topLines member header
  cases top : topLines chars with
  | nil =>
      rw [top] at inTop
      cases inTop
  | cons first rest =>
      have atHead := sanitizedLines_head top
      rw [if_pos inTop] at atHead
      have some : sanitizedLines chars ≠ [] := by
        intro none
        rw [none] at atHead
        cases atHead
      rw [linesOf_joined some normal.unbroken, List.head?_append_of_ne_nil _ some, atHead]

/-! ### A byte order mark at the start -/

/-- The first of the top lines is the first line that is not idle, cleaned. -/
theorem topLines_cons {lines rest : List (List Char)} {first : List Char}
    (top : (lines.filterMap cleanLine).dropWhile isBlankLine = first :: rest) :
    ∃ before line after, lines = before ++ line :: after ∧
      (∀ earlier ∈ before, IsIdleLine earlier) ∧ cleanLine line = some first := by
  induction lines with
  | nil => cases top
  | cons line others ih =>
      have later (idle : IsIdleLine line)
          (same : (others.filterMap cleanLine).dropWhile isBlankLine = first :: rest) :
          ∃ before chosen after, line :: others = before ++ chosen :: after ∧
            (∀ earlier ∈ before, IsIdleLine earlier) ∧ cleanLine chosen = some first := by
        obtain ⟨before, chosen, after, rfl, allIdle, found⟩ := ih same
        exact ⟨line :: before, chosen, after, rfl, List.forall_mem_cons.mpr ⟨idle, allIdle⟩, found⟩
      cases found : cleanLine line with
      | none =>
          rw [List.filterMap_cons_none found] at top
          exact later ((isIdleLine_iff line).mpr (Or.inl found)) top
      | some cleaned =>
          rw [List.filterMap_cons_some found] at top
          by_cases blank : isBlankLine cleaned = true
          · rw [List.dropWhile_cons_of_pos blank] at top
            have empty := (isBlankLine_cleaned found).mp blank
            exact later ((isIdleLine_iff line).mpr (Or.inr (by rw [found, empty]))) top
          · rw [List.dropWhile_cons_of_neg blank] at top
            refine ⟨[], line, others, rfl, fun _ member => absurd member List.not_mem_nil, ?_⟩
            rw [found, (List.cons.inj top).1]

theorem topLines_of_idle {before after : List (List Char)} {line first : List Char}
    (idle : ∀ earlier ∈ before, IsIdleLine earlier) (found : cleanLine line = some first)
    (visible : first ≠ []) :
    ∃ rest, ((before ++ line :: after).filterMap cleanLine).dropWhile isBlankLine =
      first :: rest := by
  induction before with
  | nil =>
      rw [List.nil_append, List.filterMap_cons_some found, List.dropWhile_cons_of_neg]
      · exact ⟨_, rfl⟩
      · rw [isBlankLine_cleaned found]
        exact visible
  | cons earlier others ih =>
      obtain ⟨rest, top⟩ := ih (fun other member => idle other (List.mem_cons_of_mem _ member))
      refine ⟨rest, ?_⟩
      rw [← top, List.cons_append]
      obtain dropped | blank := (isIdleLine_iff earlier).mp (idle earlier List.mem_cons_self)
      · rw [List.filterMap_cons_none dropped]
      · rw [List.filterMap_cons_some blank, List.dropWhile_cons_of_pos (by decide)]

theorem joined_head {lines : List (List Char)} {first : List Char}
    (atHead : lines.head? = some first) (visible : first ≠ []) :
    (joinLines lines ++ ['\n']).head? = first.head? := by
  obtain ⟨rest, rfl⟩ := List.head?_eq_some_iff.mp atHead
  by_cases more : rest = []
  · subst more
    rw [joinLines, List.intercalate_singleton, List.head?_append_of_ne_nil _ visible]
  · rw [joinLines_cons first more, List.append_assoc, List.head?_append_of_ne_nil _ visible]

/-- The sanitised text begins with a byte order mark exactly when no header covers it. -/
theorem marked_iff (chars : List Char) :
    (joinLines (sanitizedLines chars) ++ ['\n']).head? = some byteOrderMark ↔
      ¬ MarksCovered chars := by
  constructor
  · intro marked covered
    cases top : topLines chars with
    | nil =>
        have none : sanitizedLines chars = [] := by
          rw [sanitizedLines, top]
          rfl
        rw [none] at marked
        exact absurd marked (by decide)
    | cons first rest =>
        have atHead := sanitizedLines_head top
        by_cases there : interfaceHeader ∈ topLines chars
        · rw [if_pos there] at atHead
          rw [joined_head atHead (by decide)] at marked
          exact absurd marked (by decide)
        · rw [if_neg there] at atHead
          rw [joined_head atHead (topLines_head top)] at marked
          obtain ⟨before, line, after, whole, idle, found⟩ := topLines_cons top
          obtain ⟨header, member, isHeader⟩ := covered before line after whole idle
            ((startsMarked_iff_cleaned line).mpr ⟨first, found, marked⟩)
          exact there (header_mem_topLines member isHeader)
  · intro uncovered
    simp only [MarksCovered, not_forall, not_exists, not_and] at uncovered
    obtain ⟨before, line, after, whole, idle, starts, noHeader⟩ := uncovered
    obtain ⟨first, found, marked⟩ := (startsMarked_iff_cleaned line).mp starts
    have visible : first ≠ [] := by
      rintro rfl
      cases marked
    obtain ⟨rest, top⟩ := @topLines_of_idle _ after _ _ idle found visible
    rw [← whole] at top
    have absent : interfaceHeader ∉ topLines chars := by
      intro there
      obtain ⟨header, member, isHeader⟩ := header_of_mem_topLines there
      exact noHeader header member isHeader
    have atHead := sanitizedLines_head top
    rw [if_neg absent] at atHead
    rw [joined_head atHead visible, marked]

/-! ### The exact condition -/

/-- Sanitising does what it should on exactly the texts whose marks are covered. -/
theorem sanitize_law_iff (confText : String) :
    SanitizeLaw confText ↔ MarksCovered confText.toList := by
  by_cases given : confText = ""
  · subst given
    refine iff_of_true ⟨rfl, fun some => absurd rfl some⟩ ?_
    intro before line after whole _ marked
    obtain rfl : line = [] := by
      have member : line ∈ linesOf (unmarkedText "".toList) := by
        rw [whole]
        simp
      exact List.mem_singleton.mp member
    cases marked
  · have result := sanitizeAwgConf_eq given
    constructor
    · rintro ⟨_, sanitized⟩
      by_contra uncovered
      have marked := (marked_iff confText.toList).mpr uncovered
      rw [← result] at marked
      exact (sanitized given).unmarked marked
    · intro covered
      have unmarked : (joinLines (sanitizedLines confText.toList) ++ ['\n']).head? ≠
          some byteOrderMark := fun marked => (marked_iff _).mp marked covered
      refine ⟨?_, fun _ => by rw [result]; exact isSanitized_of_unmarked unmarked⟩
      have nonempty : sanitizeAwgConf confText ≠ "" := by
        intro empty
        rw [empty] at result
        exact absurd result.symm (by simp)
      have again := sanitizeAwgConf_eq nonempty
      rw [result, (normal_sanitizedLines _).sanitizedLines_eq unmarked, ← result] at again
      exact String.toList_inj.mp again

/-- A byte order mark behind a blank line comes to the top, and only a second pass takes it. -/
theorem uncovered_mark_stays : ¬ SanitizeLaw "\n\ufeff[Peer]" := by
  intro law
  exact (law.result (by decide)).unmarked (by decide)

end VpnSuite.Config
