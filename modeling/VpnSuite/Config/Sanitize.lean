/-
The normaliser of AmneziaWG texts (`sanitize_awg_conf` of `core/amnezia_vpn_key.py`).

It goes over the lines once: comments and empty keys go, blank lines become empty ones, and
one of several stays.  On a text that begins with the `[Interface]` header it is a pass in the
sense of `LinePasses`; the regular expressions see lines without a line break.
-/

import VpnSuite.Foundations.LinePasses
import VpnSuite.Foundations.TextLines

set_option autoImplicit false

namespace VpnSuite.Config

open Foundations
open Foundations.PythonText

/-! ### One line -/

def isCommentMark (char : Char) : Bool := char == '#' || char == ';'

/-- The line without white space at its end and without a comment. -/
def withoutComment (line : List Char) : List Char :=
  let content := line.rdropWhile isSpace
  let stripped := content.dropWhile isSpace
  if stripped.any isCommentMark then
    (stripped.takeWhile (fun char => !isCommentMark char)).rdropWhile isSpace
  else content

def isKeyChar (char : Char) : Bool := isAsciiAlphanumeric char || char == '_'

/-- `_EMPTY_KEY_RE`. -/
def isEmptyKey (line : List Char) : Bool :=
  let text := stripChars line
  text.head?.any isKeyChar && (text.dropWhile isKeyChar).dropWhile isSpace = ['=']

def interfaceHeader : List Char := "[Interface]".toList

def peerHeader : List Char := "[Peer]".toList

def isBlankLine (line : List Char) : Bool := stripChars line = []

/-- What the loop appends for a line. -/
def cleanLine (line : List Char) : Option (List Char) :=
  let content := withoutComment line
  if isBlankLine content then some []
  else if isEmptyKey content then none
  else if stripChars content = interfaceHeader then some interfaceHeader
  else if stripChars content = peerHeader then some peerHeader
  else some content

/-! ### The whole text -/

/-- The `[Interface]` header goes to the top. -/
def interfaceFirst (lines : List (List Char)) : List (List Char) :=
  match lines.find? (fun line => !isBlankLine line) with
  | none => lines
  | some line =>
      if stripChars line = interfaceHeader then lines
      else if interfaceHeader ∈ lines then interfaceHeader :: lines.erase interfaceHeader
      else lines

def collapseBlankLines : Bool → List (List Char) → List (List Char)
  | _, [] => []
  | after, line :: rest =>
      if isBlankLine line then
        if after then collapseBlankLines true rest else [] :: collapseBlankLines true rest
      else line :: collapseBlankLines false rest

def byteOrderMark : Char := Char.ofNat 0xfeff

/-- `sanitize_awg_conf`. -/
def sanitizeAwgConf (confText : String) : String :=
  if confText = "" then confText
  else
    let text := crlfToLf (confText.toList.dropWhile (fun char => char = byteOrderMark))
    let cleaned := ((linesOf text).filterMap cleanLine).dropWhile isBlankLine
    let normalized := collapseBlankLines false (interfaceFirst cleaned)
    String.ofList ((joinLines normalized).rdropWhile (fun char => char = '\n') ++ ['\n'])

/-! ### What a cleaned line is -/

theorem withoutComment_spec (line : List Char) :
    (withoutComment line).rdropWhile isSpace = withoutComment line ∧
      ((withoutComment line).dropWhile isSpace).any isCommentMark = false := by
  unfold withoutComment
  dsimp only
  split
  · refine ⟨List.rdropWhile_idempotent _ _, ?_⟩
    rw [List.any_eq_false]
    intro char member
    have early := (List.dropWhile_suffix isSpace).subset member
    have kept := (List.rdropWhile_prefix isSpace _).subset early
    simpa using List.mem_takeWhile_imp kept
  · rename_i noMark
    exact ⟨List.rdropWhile_idempotent _ _, by simpa using noMark⟩

theorem withoutComment_idempotent (line : List Char) :
    withoutComment (withoutComment line) = withoutComment line := by
  obtain ⟨ended, noMark⟩ := withoutComment_spec line
  generalize withoutComment line = content at ended noMark
  unfold withoutComment
  dsimp only
  rw [ended, noMark]
  rfl

/-- A cleaned line is empty, a header, or the visible rest of the line. -/
theorem cleanLine_cases {line cleaned : List Char} (found : cleanLine line = some cleaned) :
    cleaned = [] ∨ cleaned = interfaceHeader ∨ cleaned = peerHeader ∨
      (cleaned = withoutComment line ∧ isBlankLine cleaned = false ∧
        isEmptyKey cleaned = false ∧ stripChars cleaned ≠ interfaceHeader ∧
        stripChars cleaned ≠ peerHeader) := by
  unfold cleanLine at found
  dsimp only at found
  split at found
  · exact Or.inl (Option.some.inj found).symm
  · rename_i visible
    split at found
    · cases found
    · rename_i hasValue
      split at found
      · exact Or.inr (Or.inl (Option.some.inj found).symm)
      · rename_i notInterface
        split at found
        · exact Or.inr (Or.inr (Or.inl (Option.some.inj found).symm))
        · rename_i notPeer
          obtain rfl := Option.some.inj found
          exact Or.inr (Or.inr (Or.inr ⟨rfl, by simpa using visible, by simpa using hasValue,
            notInterface, notPeer⟩))

theorem cleanLine_idempotent (line cleaned : List Char) (found : cleanLine line = some cleaned) :
    cleanLine cleaned = some cleaned := by
  obtain rfl | rfl | rfl | ⟨isRest, visible, hasValue, notInterface, notPeer⟩ :=
    cleanLine_cases found
  · decide
  · decide
  · decide
  · have same : withoutComment cleaned = cleaned := by rw [isRest, withoutComment_idempotent]
    unfold cleanLine
    simp [same, visible, hasValue, notInterface, notPeer]

theorem isBlankLine_cleaned {line cleaned : List Char} (found : cleanLine line = some cleaned) :
    isBlankLine cleaned = true ↔ cleaned = [] := by
  obtain rfl | rfl | rfl | ⟨_, visible, _, _, _⟩ := cleanLine_cases found
  · decide
  · decide
  · decide
  · constructor
    · intro blank
      rw [visible] at blank
      cases blank
    · rintro rfl
      exact (Bool.false_ne_true (visible.symm.trans (by decide))).elim

theorem cleanLine_unbroken {line cleaned : List Char} (unbroken : '\n' ∉ line)
    (found : cleanLine line = some cleaned) : '\n' ∉ cleaned := by
  obtain rfl | rfl | rfl | ⟨rfl, _, _, _, _⟩ := cleanLine_cases found
  · exact List.not_mem_nil
  · decide
  · decide
  · intro broken
    refine unbroken ?_
    unfold withoutComment at broken
    dsimp only at broken
    have content := (List.rdropWhile_prefix isSpace line).subset
    split at broken
    · have kept := (List.rdropWhile_prefix isSpace _).subset broken
      exact content ((List.dropWhile_suffix isSpace).subset
        ((List.takeWhile_prefix _).subset kept))
    · exact content broken

theorem cleanLine_withoutReturn (line : List Char) :
    cleanLine (withoutReturn line) = cleanLine line := by
  have ended : (withoutReturn line).rdropWhile isSpace = line.rdropWhile isSpace := by
    unfold withoutReturn
    split
    · rename_i isReturn
      obtain ⟨front, rfl⟩ := List.getLast?_eq_some_iff.mp isReturn
      rw [List.dropLast_concat, List.rdropWhile_concat_pos _ _ _ (by decide)]
    · rfl
  unfold cleanLine withoutComment
  rw [ended]

/-! ### The text as lines -/

theorem collapseBlankLines_eq {lines : List (List Char)}
    (cleaned : ∀ line ∈ lines, isBlankLine line = true ↔ line = []) (after : Bool) :
    collapseBlankLines after lines = LinePasses.collapse [] after lines := by
  induction lines generalizing after with
  | nil => rfl
  | cons line rest ih =>
      have later := fun flag => ih (fun other member =>
        cleaned other (List.mem_cons_of_mem line member)) flag
      simp only [collapseBlankLines, LinePasses.collapse, cleaned line List.mem_cons_self, later]
      split
      · rename_i blank
        rw [blank]
      · rfl

theorem collapse_cleaned_unbroken {lines : List (List Char)} (unbroken : ∀ line ∈ lines, '\n' ∉ line) :
    ∀ line ∈ LinePasses.collapse [] false (lines.filterMap cleanLine), '\n' ∉ line := by
  intro line member
  have early := (LinePasses.collapse_sublist [] false _).subset member
  obtain ⟨raw, isRaw, found⟩ := List.mem_filterMap.mp early
  exact cleanLine_unbroken (unbroken raw isRaw) found

/-- A text that begins with the `[Interface]` header is sanitised by one pass over its lines. -/
theorem linesOf_sanitizeAwgConf {confText : String} {rest : List (List Char)}
    (headed : linesOf confText.toList = interfaceHeader :: rest) :
    linesOf (sanitizeAwgConf confText).toList =
      LinePasses.pass [] cleanLine (linesOf confText.toList) := by
  have nonempty : confText ≠ "" := by
    rintro rfl
    exact absurd (List.cons.inj headed).1 (by decide)
  have unmarked : confText.toList.dropWhile (fun char => char = byteOrderMark) =
      confText.toList := by
    have whole := joinLines_linesOf confText.toList
    rw [headed] at whole
    rw [← whole]
    cases rest with
    | nil => rfl
    | cons next more => rfl
  have cleaned : (linesOf confText.toList).filterMap cleanLine =
      interfaceHeader :: rest.filterMap cleanLine := by
    rw [headed, List.filterMap_cons]
    rfl
  have topped : interfaceFirst (interfaceHeader :: rest.filterMap cleanLine) =
      interfaceHeader :: rest.filterMap cleanLine := rfl
  have blanks : ∀ line ∈ interfaceHeader :: rest.filterMap cleanLine,
      isBlankLine line = true ↔ line = [] := by
    intro line member
    rw [← cleaned] at member
    obtain ⟨raw, _, found⟩ := List.mem_filterMap.mp member
    exact isBlankLine_cleaned found
  have unbroken : ∀ line ∈ LinePasses.collapse [] false
      ((linesOf confText.toList).filterMap cleanLine), '\n' ∉ line :=
    collapse_cleaned_unbroken (fun line => not_mem_of_mem_linesOf)
  unfold sanitizeAwgConf
  rw [if_neg nonempty]
  dsimp only
  rw [unmarked, filterMap_linesOf_crlfToLf cleanLine_withoutReturn, cleaned,
    List.dropWhile_cons_of_neg (by decide), topped, collapseBlankLines_eq blanks, ← cleaned,
    rdropWhile_joinLines unbroken, String.toList_ofList, linesOf_append, linesOf_joinLines,
    flatMap_linesOf]
  · rfl
  · intro line member
    exact unbroken line ((List.rdropWhile_prefix _ _).subset member)
  · intro dropped
    have allBlank := List.rdropWhile_eq_nil_iff.mp dropped interfaceHeader (by
      rw [cleaned]
      exact List.mem_cons_self)
    exact absurd allBlank (by decide)

end VpnSuite.Config
