/-
Texts of settings under section headers, `key = value` line by line.

The reader takes any notion of a line break that covers the line feed and concerns white
space other than the blank, and cuts a line at a hash mark.  A written text is read back
exactly when no value holds a line break or a hash mark: a value that was read never does.
-/

import VpnSuite.Foundations.PythonText
import VpnSuite.Foundations.TextLines

set_option autoImplicit false

namespace VpnSuite.Foundations.IniText

open PythonText

/-! ### Reading -/

/-- Which characters end a line. -/
structure LineBreaks where
  isBreak : Char → Bool
  feed : isBreak '\n' = true
  isSpace_of_break : ∀ char, isBreak char = true → isSpace char = true
  blank : isBreak ' ' = false

/-- What a line that is not blank says. -/
inductive IniLine where
  | comment
  | header (text : List Char)
  | setting (key value : List Char)
  | other (text : List Char)
  deriving DecidableEq, Repr

/-- The line up to a hash mark. -/
def contentOf (line : List Char) : List Char := line.takeWhile (fun char => char ≠ '#')

def readLine (line : List Char) : Option IniLine :=
  match (contentOf line).dropWhile isSpace with
  | [] => if '#' ∈ line then some .comment else none
  | ';' :: _ => some .comment
  | '[' :: rest => some (.header (stripChars ('[' :: rest)))
  | _ =>
      if '=' ∈ contentOf line then
        some (.setting (stripChars (partition '=' (contentOf line)).1)
          (stripChars (partition '=' (contentOf line)).2))
      else some (.other (contentOf line))

def readLines (breaks : LineBreaks) (text : List Char) : List IniLine :=
  (text.splitOnP breaks.isBreak).filterMap readLine

/-! ### Writing -/

def settingChars (entry : String × String) : List Char :=
  entry.1.toList ++ " = ".toList ++ entry.2.toList

def settingRead (entry : String × String) : IniLine := .setting entry.1.toList entry.2.toList

/-- The lines of a text, each with its line feed. -/
def endedLines (lines : List (List Char)) : List Char := lines.flatMap (fun line => line ++ ['\n'])

/-- A key that starts a setting: no white space, and no character with a meaning of its own. -/
def isKey (key : List Char) : Bool :=
  !key.isEmpty && key.all (fun char =>
    !isSpace char && char ≠ '#' && char ≠ ';' && char ≠ '[' && char ≠ '=')

/-- Neither a line break nor a hash mark. -/
def isClean (breaks : LineBreaks) (value : List Char) : Bool :=
  value.all (fun char => !breaks.isBreak char && char ≠ '#')

theorem isClean_iff (breaks : LineBreaks) (value : List Char) :
    isClean breaks value = true ↔
      ∀ char ∈ value, breaks.isBreak char = false ∧ char ≠ '#' := by
  simp [isClean]

/-! ### Lines -/

theorem splitOnP_endedLines {breaks : LineBreaks} {lines : List (List Char)}
    (unbroken : ∀ line ∈ lines, ∀ char ∈ line, breaks.isBreak char = false) :
    (endedLines lines).splitOnP breaks.isBreak = lines ++ [[]] := by
  induction lines with
  | nil => rfl
  | cons line rest ih =>
      have here := unbroken line List.mem_cons_self
      have later := ih (fun other member => unbroken other (List.mem_cons_of_mem line member))
      have split : endedLines (line :: rest) = line ++ '\n' :: endedLines rest := by
        rw [endedLines, List.flatMap_cons, List.append_assoc]
        rfl
      rw [split, List.splitOnP_append_cons_of_forall_mem here _ breaks.feed, later]
      rfl

theorem unbroken_of_mem_splitOnP {isBreak : Char → Bool} {text line : List Char}
    (member : line ∈ text.splitOnP isBreak) : ∀ char ∈ line, isBreak char = false := by
  induction text generalizing line with
  | nil =>
      rw [List.splitOnP_nil, List.mem_singleton] at member
      rw [member]
      exact fun _ absent => absurd absent List.not_mem_nil
  | cons first rest ih =>
      rw [List.splitOnP_cons_eq_if_modifyHead] at member
      split at member
      · cases member with
        | head => exact fun _ absent => absurd absent List.not_mem_nil
        | tail _ later => exact ih later
      · rename_i unbroken
        obtain ⟨head, others, lines⟩ := List.exists_cons_of_ne_nil
          (List.splitOnP_ne_nil isBreak rest)
        rw [lines, List.modifyHead_cons] at member
        cases member with
        | head =>
            intro char inLine
            rcases List.mem_cons.mp inLine with rfl | inHead
            · simpa using unbroken
            · exact ih (by rw [lines]; exact List.mem_cons_self) char inHead
        | tail _ later => exact ih (by rw [lines]; exact List.mem_cons_of_mem head later)

theorem mem_of_mem_splitOnP {isBreak : Char → Bool} {text line : List Char}
    (member : line ∈ text.splitOnP isBreak) : ∀ char ∈ line, char ∈ text := by
  induction text generalizing line with
  | nil =>
      rw [List.splitOnP_nil, List.mem_singleton] at member
      rw [member]
      exact fun _ absent => absent
  | cons first rest ih =>
      intro char inLine
      rw [List.splitOnP_cons_eq_if_modifyHead] at member
      split at member
      · cases member with
        | head => exact absurd inLine List.not_mem_nil
        | tail _ later => exact List.mem_cons_of_mem first (ih later char inLine)
      · obtain ⟨head, others, lines⟩ := List.exists_cons_of_ne_nil
          (List.splitOnP_ne_nil isBreak rest)
        rw [lines, List.modifyHead_cons] at member
        cases member with
        | head =>
            rcases List.mem_cons.mp inLine with rfl | inHead
            · exact List.mem_cons_self
            · exact List.mem_cons_of_mem first (ih (by rw [lines]; exact List.mem_cons_self) char
                inHead)
        | tail _ later =>
            exact List.mem_cons_of_mem first
              (ih (by rw [lines]; exact List.mem_cons_of_mem head later) char inLine)

theorem contentOf_of_clean {line : List Char} (unmarked : ∀ char ∈ line, char ≠ '#') :
    contentOf line = line :=
  List.takeWhile_eq_self_iff.mpr (by simpa using unmarked)

/-- A setting is read as it was written. -/
theorem readLine_setting {entry : String × String} (named : isKey entry.1.toList = true)
    (stripped : stripChars entry.2.toList = entry.2.toList)
    (unmarked : ∀ char ∈ entry.2.toList, char ≠ '#') :
    readLine (settingChars entry) = some (settingRead entry) := by
  obtain ⟨key, value⟩ := entry
  dsimp only at named stripped unmarked
  simp only [isKey, Bool.and_eq_true, Bool.not_eq_true', List.isEmpty_eq_false_iff,
    List.all_eq_true, decide_eq_true_eq] at named
  obtain ⟨nonempty, plain⟩ := named
  have content : contentOf (settingChars (key, value)) = settingChars (key, value) := by
    apply contentOf_of_clean
    intro char member
    rw [settingChars, List.append_assoc] at member
    rcases List.mem_append.mp member with inKey | inRest
    · exact (plain char inKey).1.1.1.2
    · rcases List.mem_append.mp inRest with between | inValue
      · have marks : (" = ".toList).all (fun char => char ≠ '#') = true := by decide
        simpa using List.all_eq_true.mp marks char between
      · exact unmarked char inValue
  obtain ⟨first, rest, isKey⟩ := List.exists_cons_of_ne_nil nonempty
  have firstPlain := plain first (by rw [isKey]; exact List.mem_cons_self)
  have front : (settingChars (key, value)).dropWhile isSpace =
      first :: (rest ++ (" = ".toList ++ value.toList)) := by
    rw [settingChars, isKey, List.cons_append, List.cons_append, List.append_assoc]
    exact List.dropWhile_cons_of_neg (by simp [firstPlain.1.1.1.1])
  have keyBefore : partition '=' (settingChars (key, value)) =
      (key.toList ++ [' '], ' ' :: value.toList) := by
    have shape : settingChars (key, value) =
        (key.toList ++ [' ']) ++ '=' :: (' ' :: value.toList) := by
      simp [settingChars]
    have absent : '=' ∉ key.toList ++ [' '] := by
      rw [List.mem_append, List.mem_singleton, not_or]
      exact ⟨fun inKey => (plain '=' inKey).2 rfl, by decide⟩
    rw [shape]
    exact partition_append absent _
  have keyStripped : stripChars (key.toList ++ [' ']) = key.toList := by
    obtain ⟨_, back, _⟩ := @stripChars_of_ends key.toList
      (fun char atHead => (plain char (List.mem_of_mem_head? atHead)).1.1.1.1)
      (fun char atEnd => (plain char (List.mem_of_mem_getLast? atEnd)).1.1.1.1)
    have kept : (key.toList ++ [' ']).dropWhile isSpace = key.toList ++ [' '] := by
      rw [isKey, List.cons_append]
      exact List.dropWhile_cons_of_neg (by simp [firstPlain.1.1.1.1])
    rw [stripChars, kept, List.rdropWhile_concat_pos _ _ _ (by decide), back]
  have valueStripped : stripChars (' ' :: value.toList) = value.toList := by
    rw [stripChars, List.dropWhile_cons_of_pos (by decide)]
    exact stripped
  have delimited : '=' ∈ settingChars (key, value) := by simp [settingChars]
  unfold readLine
  rw [content, front, keyBefore, if_pos delimited, keyStripped, valueStripped]
  split
  · rename_i impossible
    cases impossible
  · rename_i semicolon
    exact absurd (List.cons.inj semicolon).1 firstPlain.1.1.2
  · rename_i bracket
    exact absurd (List.cons.inj bracket).1 firstPlain.1.2
  · rfl

/-- A header that starts with a bracket and ends in a visible character is read as such. -/
theorem readLine_header {rest : List Char} (unmarked : ∀ char ∈ '[' :: rest, char ≠ '#')
    (stripped : stripChars ('[' :: rest) = '[' :: rest) :
    readLine ('[' :: rest) = some (.header ('[' :: rest)) := by
  have kept : ('[' :: rest).dropWhile isSpace = '[' :: rest :=
    List.dropWhile_cons_of_neg (by decide)
  unfold readLine
  rw [contentOf_of_clean unmarked, kept]
  exact congrArg (fun text => some (IniLine.header text)) stripped

/-- What is read has neither line breaks nor hash marks. -/
theorem isClean_of_read {breaks : LineBreaks} {text key value : List Char}
    (read : .setting key value ∈ readLines breaks text) : isClean breaks value = true := by
  obtain ⟨line, member, readHere⟩ := List.mem_filterMap.mp read
  have unbroken := unbroken_of_mem_splitOnP member
  have inContent : ∀ char ∈ value, char ∈ contentOf line := by
    unfold readLine at readHere
    split at readHere
    · split at readHere <;> cases readHere
    · cases readHere
    · cases readHere
    · split at readHere
      · cases readHere
        intro char inValue
        have inTail := stripChars_subset _ inValue
        exact (List.dropWhile_suffix _).subset (List.mem_of_mem_tail inTail)
      · cases readHere
  rw [isClean_iff]
  intro char inValue
  have here := inContent char inValue
  exact ⟨unbroken char ((List.takeWhile_prefix _).subset here), by
    simpa using List.mem_takeWhile_imp here⟩

/-! ### Written settings -/

/-- Settings whose keys are keys and whose values have no white space around them. -/
def Writable (entries : List (String × String)) : Prop :=
  ∀ entry ∈ entries, isKey entry.1.toList = true ∧ stripChars entry.2.toList = entry.2.toList

theorem filterMap_settings {entries : List (String × String)} (writable : Writable entries)
    (unmarked : ∀ entry ∈ entries, ∀ char ∈ entry.2.toList, char ≠ '#') :
    (entries.map settingChars).filterMap readLine = entries.map settingRead := by
  induction entries with
  | nil => rfl
  | cons entry rest ih =>
      obtain ⟨named, stripped⟩ := writable entry List.mem_cons_self
      rw [List.map_cons, List.filterMap_cons,
        readLine_setting named stripped (unmarked entry List.mem_cons_self), List.map_cons,
        ih (fun other member => writable other (List.mem_cons_of_mem entry member))
          (fun other member => unmarked other (List.mem_cons_of_mem entry member))]

theorem settingChars_unbroken {breaks : LineBreaks} {entry : String × String}
    (named : isKey entry.1.toList = true) (clean : isClean breaks entry.2.toList = true) :
    ∀ char ∈ settingChars entry, breaks.isBreak char = false := by
  intro char member
  rw [settingChars, List.append_assoc] at member
  rcases List.mem_append.mp member with inKey | inRest
  · simp only [isKey, Bool.and_eq_true, List.all_eq_true, Bool.not_eq_true',
      decide_eq_true_eq] at named
    have visible := (named.2 char inKey).1.1.1.1
    rw [← Bool.not_eq_true]
    intro isBreak
    rw [breaks.isSpace_of_break char isBreak] at visible
    cases visible
  · rcases List.mem_append.mp inRest with between | inValue
    · have delimiter : char = ' ' ∨ char = '=' := by
        simpa [or_comm, or_left_comm] using between
      rcases delimiter with rfl | rfl
      · exact breaks.blank
      · rw [← Bool.not_eq_true]
        intro isBreak
        exact absurd (breaks.isSpace_of_break _ isBreak) (by decide)
    · exact ((isClean_iff breaks _).mp clean char inValue).1

/-! ### Written sections -/

/-- A header starts with a bracket and holds no white space and no hash mark. -/
def isHeader (header : List Char) : Bool :=
  header.head? = some '[' && header.all (fun char => !isSpace char && char ≠ '#')

structure IniSection where
  header : List Char
  entries : List (String × String)
  shaped : isHeader header = true

def IniSection.lines (part : IniSection) : List (List Char) :=
  part.header :: part.entries.map settingChars

def IniSection.read (part : IniSection) : List IniLine :=
  .header part.header :: part.entries.map settingRead

/-- The sections one after the other, an empty line between two. -/
def sectionLines : List IniSection → List (List Char)
  | [] => []
  | [last] => last.lines
  | first :: rest => first.lines ++ [] :: sectionLines rest

theorem sectionLines_cons (part : IniSection) {rest : List IniSection} (more : rest ≠ []) :
    sectionLines (part :: rest) = part.lines ++ [] :: sectionLines rest := by
  obtain ⟨next, others, rfl⟩ := List.exists_cons_of_ne_nil more
  rfl

theorem header_facts {header : List Char} (shaped : isHeader header = true) :
    (∃ rest, header = '[' :: rest) ∧ stripChars header = header ∧
      (∀ char ∈ header, char ≠ '#') ∧ ∀ char ∈ header, isSpace char = false := by
  simp only [isHeader, Bool.and_eq_true, decide_eq_true_eq, List.all_eq_true,
    Bool.not_eq_true'] at shaped
  obtain ⟨atHead, plain⟩ := shaped
  obtain ⟨_, _, stripped⟩ := @stripChars_of_ends header
    (fun char first => (plain char (List.mem_of_mem_head? first)).1)
    (fun char last => (plain char (List.mem_of_mem_getLast? last)).1)
  exact ⟨List.head?_eq_some_iff.mp atHead, stripped, fun char member => (plain char member).2,
    fun char member => (plain char member).1⟩

theorem filterMap_section {part : IniSection} (writable : Writable part.entries)
    (unmarked : ∀ entry ∈ part.entries, ∀ char ∈ entry.2.toList, char ≠ '#') :
    part.lines.filterMap readLine = part.read := by
  obtain ⟨⟨rest, isHeader⟩, stripped, plain, _⟩ := header_facts part.shaped
  have readHere : readLine part.header = some (.header part.header) := by
    rw [isHeader] at stripped plain ⊢
    exact readLine_header plain stripped
  rw [IniSection.lines, List.filterMap_cons, readHere, filterMap_settings writable unmarked]
  rfl

theorem filterMap_sectionLines {parts : List IniSection}
    (writable : ∀ part ∈ parts, Writable part.entries)
    (unmarked : ∀ part ∈ parts, ∀ entry ∈ part.entries, ∀ char ∈ entry.2.toList, char ≠ '#') :
    (sectionLines parts).filterMap readLine = parts.flatMap IniSection.read := by
  induction parts with
  | nil => rfl
  | cons part rest ih =>
      have here := filterMap_section (writable part List.mem_cons_self)
        (unmarked part List.mem_cons_self)
      have later := ih (fun other member => writable other (List.mem_cons_of_mem part member))
        (fun other member => unmarked other (List.mem_cons_of_mem part member))
      by_cases more : rest = []
      · subst more
        rw [List.flatMap_singleton]
        exact here
      · rw [sectionLines_cons part more, List.filterMap_append, here, List.filterMap_cons, later,
          List.flatMap_cons]
        rfl

theorem sectionLines_unbroken {breaks : LineBreaks} {parts : List IniSection}
    (writable : ∀ part ∈ parts, Writable part.entries)
    (clean : ∀ part ∈ parts, ∀ entry ∈ part.entries, isClean breaks entry.2.toList = true) :
    ∀ line ∈ sectionLines parts, ∀ char ∈ line, breaks.isBreak char = false := by
  have inSection : ∀ part ∈ parts, ∀ line ∈ part.lines, ∀ char ∈ line,
      breaks.isBreak char = false := by
    intro part member line inPart char inLine
    rcases List.mem_cons.mp inPart with rfl | inEntries
    · rw [← Bool.not_eq_true]
      intro isBreak
      have visible := (header_facts part.shaped).2.2.2 char inLine
      rw [breaks.isSpace_of_break char isBreak] at visible
      cases visible
    · obtain ⟨entry, listed, rfl⟩ := List.mem_map.mp inEntries
      exact settingChars_unbroken (writable part member entry listed).1
        (clean part member entry listed) char inLine
  clear writable clean
  induction parts with
  | nil => exact fun _ absent => absurd absent List.not_mem_nil
  | cons part rest ih =>
      have later := ih (fun other member => inSection other (List.mem_cons_of_mem part member))
      by_cases more : rest = []
      · subst more
        exact inSection part List.mem_cons_self
      · rw [sectionLines_cons part more]
        intro line member
        rcases List.mem_append.mp member with here | afterwards
        · exact inSection part List.mem_cons_self line here
        · rcases List.mem_cons.mp afterwards with rfl | there
          · exact fun _ absent => absurd absent List.not_mem_nil
          · exact later line there

/-- A written text is read back exactly when its values are clean. -/
theorem readLines_written_iff (breaks : LineBreaks) {parts : List IniSection}
    (writable : ∀ part ∈ parts, Writable part.entries) :
    readLines breaks (endedLines (sectionLines parts)) = parts.flatMap IniSection.read ↔
      ∀ part ∈ parts, ∀ entry ∈ part.entries, isClean breaks entry.2.toList = true := by
  constructor
  · intro readBack part member entry listed
    apply @isClean_of_read breaks (endedLines (sectionLines parts)) entry.1.toList
    rw [readBack]
    exact List.mem_flatMap.mpr ⟨part, member,
      List.mem_cons_of_mem _ (List.mem_map.mpr ⟨entry, listed, rfl⟩)⟩
  · intro clean
    rw [readLines, splitOnP_endedLines (sectionLines_unbroken writable clean),
      List.filterMap_append,
      filterMap_sectionLines writable (fun part member entry listed char inValue =>
        ((isClean_iff breaks _).mp (clean part member entry listed) char inValue).2)]
    exact List.append_nil _

end VpnSuite.Foundations.IniText
