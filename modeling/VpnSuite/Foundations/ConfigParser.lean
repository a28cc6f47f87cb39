/-
`configparser.ConfigParser.read_string` with its default options and no interpolation.

A line is a comment, blank, the continuation of a value, a section header or an option.  Text
written as sections of settings is read as these sections, whatever its values hold but line
feeds.
-/

import VpnSuite.Foundations.IniText
import VpnSuite.Foundations.OrderedDict

set_option autoImplicit false

namespace VpnSuite.Foundations.ConfigParser

open PythonText
open IniText

/-! ### Reading -/

inductive ParserError where
  | missingSectionHeader
  | duplicateSection
  | duplicateOption
  | parsing
  deriving DecidableEq, Repr

/-- The options of a section, each with the lines of its value. -/
abbrev Options := Dict String (List (List Char))

/-- The variables of the loop over the lines. -/
structure ParserState where
  sections : Dict String Options
  sectName : Option String
  optName : Option String
  indent : Nat
  failed : Bool

def defaultSection : String := "DEFAULT"

def initialState : ParserState :=
  { sections := Dict.ofList [(defaultSection, Dict.empty)]
    sectName := none
    optName := none
    indent := 0
    failed := false }

def isCommentPrefix (char : Char) : Bool := char == '#' || char == ';'

def isDelimiter (char : Char) : Bool := char == '=' || char == ':'

/-- The header between the first bracket and the last closing one. -/
def sectionHeader : List Char → Option (List Char)
  | '[' :: rest =>
      if ']' ∈ rest ∧ (rpartition ']' rest).1 ≠ [] then some (rpartition ']' rest).1 else none
  | _ => none

/-- The option and the value around the first delimiter. -/
def optionParts (text : List Char) : Option (List Char × List Char) :=
  if text.any isDelimiter then
    some ((text.takeWhile (fun char => !isDelimiter char)).rdropWhile isSpace,
      stripChars (text.dropWhile (fun char => !isDelimiter char)).tail)
  else none

/-- Another line for the value of the current option. -/
def ParserState.extend (state : ParserState) (line : List Char) : ParserState :=
  match state.sectName, state.optName with
  | some name, some option =>
      match state.sections.get? name with
      | none => state
      | some options =>
          match options.get? option with
          | none => state
          | some lines =>
              { state with
                sections := state.sections.set name (options.set option (lines ++ [line])) }
  | _, _ => state

def ParserState.openSection (state : ParserState) (name : String) (indent : Nat) :
    Except ParserError ParserState :=
  if name ≠ defaultSection ∧ name ∈ state.sections.keys then .error .duplicateSection
  else
    .ok { state with
      sections :=
        if name ∈ state.sections.keys then state.sections else state.sections.set name Dict.empty
      sectName := some name
      optName := none
      indent := indent }

def ParserState.addOption (state : ParserState) (name : String) (text : List Char)
    (indent : Nat) : Except ParserError ParserState :=
  match optionParts text with
  | none => .ok { state with indent := indent, failed := true }
  | some (option, value) =>
      let options := (state.sections.get? name).getD Dict.empty
      if String.ofList option ∈ options.keys then .error .duplicateOption
      else
        .ok { state with
          sections := state.sections.set name (options.set (String.ofList option) [value])
          optName := orNone (String.ofList option)
          indent := indent
          failed := state.failed || option.isEmpty }

/-- One turn of the loop of `_read`. -/
def parseLine (state : ParserState) (line : List Char) : Except ParserError ParserState :=
  let text := stripChars line
  if text.head?.any isCommentPrefix then .ok state
  else if text = [] then .ok (state.extend [])
  else
    let indent := (line.takeWhile isSpace).length
    if state.sectName.isSome ∧ state.optName.isSome ∧ state.indent < indent then
      .ok (state.extend text)
    else
      match sectionHeader text with
      | some header => state.openSection (String.ofList header) indent
      | none =>
          match state.sectName with
          | none => .error .missingSectionHeader
          | some name => state.addOption name text indent

/-- The lines a file gives; a line feed at the end starts none. -/
def fileLines (text : List Char) : List (List Char) :=
  let lines := linesOf text
  if lines.getLast? = some [] then lines.dropLast else lines

/-- `_join_multiline_values` of one value. -/
def joinedValue (lines : List (List Char)) : String :=
  String.ofList ((joinLines lines).rdropWhile isSpace)

/-- `read_string`: the sections and their values. -/
def readString (text : String) : Except ParserError (Dict String (Dict String String)) := do
  let state ← (fileLines text.toList).foldlM parseLine initialState
  if state.failed then .error .parsing
  else .ok (state.sections.mapValues (fun options => options.mapValues joinedValue))

/-- `parser[section].get(option)`, which falls back on the default section. -/
def getOption (parsed : Dict String (Dict String String)) (name option : String) :
    Option String :=
  ((parsed.get? name).bind (fun options => options.get? option)).orElse
    (fun _ => (parsed.get? defaultSection).bind (fun options => options.get? option))

/-! ### What a state shows -/

/-- The value of an option, as it will be joined. -/
def ParserState.shown (state : ParserState) (name option : String) : Option String :=
  ((state.sections.get? name).bind (fun options => options.get? option)).map joinedValue

/-- In the named section, between two flush lines. -/
structure Reading (state : ParserState) (name : String) : Prop where
  sectName : state.sectName = some name
  present : name ∈ state.sections.keys
  flush : state.indent = 0
  sound : state.failed = false

/-- An empty line at the end of a value does not show. -/
theorem joinedValue_concat_nil (lines : List (List Char)) :
    joinedValue (lines ++ [[]]) = joinedValue lines := by
  by_cases some : lines = []
  · rw [some]
    rfl
  · rw [joinedValue, joinLines_concat [] some, joinedValue]
    exact congrArg String.ofList (List.rdropWhile_concat_pos _ _ _ (by decide))

theorem shown_extend_nil (state : ParserState) (name option : String) :
    (state.extend []).shown name option = state.shown name option := by
  unfold ParserState.extend
  split
  · rename_i current option' isSection isOption
    split
    · rfl
    · rename_i options stored
      split
      · rfl
      · rename_i lines held
        unfold ParserState.shown
        rw [Dict.get?_set]
        split
        · rename_i same
          subst same
          rw [stored, Option.bind_some, Option.bind_some, Dict.get?_set]
          split
          · rename_i sameOption
            subst sameOption
            rw [held, Option.map_some, Option.map_some, joinedValue_concat_nil]
          · rfl
        · rfl
  · rfl

theorem reading_extend_nil {state : ParserState} {name : String} (reading : Reading state name) :
    Reading (state.extend []) name ∧ (state.extend []).sections.keys = state.sections.keys := by
  unfold ParserState.extend
  split
  · rename_i current option _ _
    split
    · exact ⟨reading, rfl⟩
    · rename_i options stored
      split
      · exact ⟨reading, rfl⟩
      · rename_i lines _
        have kept := state.sections.keys_set current (options.set option (lines ++ [[]]))
        rw [if_pos (Dict.mem_keys_of_get? stored)] at kept
        exact ⟨⟨reading.sectName, by rw [kept]; exact reading.present, reading.flush,
          reading.sound⟩, kept⟩
  · exact ⟨reading, rfl⟩

/-! ### One written line -/

theorem rdropWhile_append_cons {p : Char → Bool} {char : Char} (stops : p char = false)
    (before after : List Char) :
    (before ++ char :: after).rdropWhile p = before ++ char :: after.rdropWhile p := by
  simp only [List.rdropWhile, List.reverse_append, List.reverse_cons, List.append_assoc,
    List.dropWhile_append]
  split
  · rename_i empty
    rw [List.isEmpty_iff] at empty
    simp [stops, empty]
  · simp

/-- A key that ends at the first delimiter. -/
def isOptionKey (key : List Char) : Bool := isKey key && key.all (fun char => char ≠ ':')

section Setting

variable {entry : String × String} (named : isOptionKey entry.1.toList = true)
  (stripped : stripChars entry.2.toList = entry.2.toList)

include named

theorem optionKey_facts :
    (∃ first rest, entry.1.toList = first :: rest) ∧
      ∀ char ∈ entry.1.toList, isSpace char = false ∧ isDelimiter char = false ∧
        isCommentPrefix char = false ∧ char ≠ '[' := by
  simp only [isOptionKey, isKey, Bool.and_eq_true, Bool.not_eq_true', List.isEmpty_eq_false_iff,
    List.all_eq_true, decide_eq_true_eq] at named
  obtain ⟨⟨nonempty, plain⟩, noColon⟩ := named
  refine ⟨List.exists_cons_of_ne_nil nonempty, ?_⟩
  intro char member
  obtain ⟨⟨⟨⟨visible, noHash⟩, noSemicolon⟩, noBracket⟩, noEquals⟩ := plain char member
  exact ⟨visible, by simp [isDelimiter, noEquals, noColon char member],
    by simp [isCommentPrefix, noHash, noSemicolon], noBracket⟩

/-- The text of a setting line: the key, the delimiter and what the value leaves. -/
theorem stripChars_setting :
    stripChars (settingChars entry) =
      (entry.1.toList ++ [' ']) ++ '=' :: (' ' :: entry.2.toList).rdropWhile isSpace := by
  obtain ⟨⟨first, rest, isKey⟩, plain⟩ := optionKey_facts named
  have visible := (plain first (by rw [isKey]; exact List.mem_cons_self)).1
  have shape : settingChars entry =
      (entry.1.toList ++ [' ']) ++ '=' :: (' ' :: entry.2.toList) := by
    simp [settingChars]
  have front : (settingChars entry).dropWhile isSpace = settingChars entry := by
    rw [shape, isKey]
    exact List.dropWhile_cons_of_neg (by simp [visible])
  rw [stripChars, front, shape]
  exact rdropWhile_append_cons (by decide) _ _

include stripped

theorem optionParts_setting :
    optionParts (stripChars (settingChars entry)) = some (entry.1.toList, entry.2.toList) := by
  obtain ⟨_, plain⟩ := optionKey_facts named
  have undelimited : ∀ char ∈ entry.1.toList ++ [' '], (!isDelimiter char) = true := by
    intro char member
    rcases List.mem_append.mp member with inKey | blank
    · rw [(plain char inKey).2.1]
      rfl
    · rw [List.mem_singleton.mp blank]
      decide
  have keyEnds : (entry.1.toList ++ [' ']).rdropWhile isSpace = entry.1.toList := by
    rw [List.rdropWhile_concat_pos _ _ _ (by decide), List.rdropWhile_eq_self_iff]
    intro nonempty
    simp [(plain _ (List.getLast_mem nonempty)).1]
  have valueLeft : stripChars ((' ' :: entry.2.toList).rdropWhile isSpace) = entry.2.toList := by
    by_cases empty : entry.2.toList = []
    · rw [empty]
      decide
    · have back : entry.2.toList.rdropWhile isSpace = entry.2.toList := by
        rw [← stripped, stripChars]
        exact List.rdropWhile_idempotent _ _
      have whole : (' ' :: entry.2.toList).rdropWhile isSpace = ' ' :: entry.2.toList := by
        rw [List.rdropWhile_eq_self_iff] at back ⊢
        intro nonempty
        rw [List.getLast_cons empty]
        exact back empty
      rw [whole, stripChars, List.dropWhile_cons_of_pos (by decide)]
      exact stripped
  rw [stripChars_setting named, optionParts, if_pos (by simp [isDelimiter]),
    List.takeWhile_append_of_pos undelimited, List.dropWhile_append_of_pos undelimited,
    List.takeWhile_cons_of_neg (by decide), List.dropWhile_cons_of_neg (by decide),
    List.append_nil, List.tail_cons, keyEnds, valueLeft]

/-- A setting line adds its option. -/
theorem parseLine_setting {state : ParserState} {name : String} (reading : Reading state name)
    (fresh : state.shown name entry.1 = none) :
    ∃ next, parseLine state (settingChars entry) = .ok next ∧ Reading next name ∧
      next.sections.keys = state.sections.keys ∧
      ∀ other option, next.shown other option =
        if other = name ∧ option = entry.1 then some entry.2 else state.shown other option := by
  obtain ⟨⟨first, rest, isKey⟩, plain⟩ := optionKey_facts named
  obtain ⟨visible, _, noComment, noBracket⟩ :=
    plain first (by rw [isKey]; exact List.mem_cons_self)
  have text := stripChars_setting named
  rw [isKey] at text
  have parts := optionParts_setting named stripped
  have lineFront : (settingChars entry).takeWhile isSpace = [] := by
    rw [settingChars, isKey]
    exact List.takeWhile_cons_of_neg (by simp [visible])
  have noHeader : sectionHeader (stripChars (settingChars entry)) = none := by
    rw [text]
    unfold sectionHeader
    split
    · rename_i bracket
      exact absurd (List.cons.inj bracket).1 noBracket
    · rfl
  obtain ⟨options, stored⟩ := (Dict.mem_keys_iff ..).mp reading.present
  have absent : entry.1 ∉ Dict.keys options := by
    rw [ParserState.shown, stored, Option.bind_some, Option.map_eq_none_iff] at fresh
    exact (Dict.get?_eq_none_iff ..).mp fresh
  have keyText : String.ofList entry.1.toList = entry.1 := String.ofList_toList
  refine ⟨{ sections := state.sections.set name (Dict.set options entry.1 [entry.2.toList])
            sectName := some name
            optName := orNone entry.1
            indent := 0
            failed := state.failed || entry.1.toList.isEmpty }, ?_, ?_, ?_, ?_⟩
  · unfold parseLine
    dsimp only
    rw [if_neg (by rw [text]; simp [noComment]), if_neg (by rw [text]; simp), lineFront,
      if_neg (by simp [reading.flush]), noHeader, reading.sectName]
    dsimp only
    rw [ParserState.addOption, parts]
    dsimp only
    rw [stored, Option.getD_some, keyText, if_neg absent, reading.sectName]
    rfl
  · have kept := state.sections.keys_set name (Dict.set options entry.1 [entry.2.toList])
    rw [if_pos reading.present] at kept
    exact ⟨rfl, by dsimp only; rw [kept]; exact reading.present, rfl,
      by rw [reading.sound, isKey]; rfl⟩
  · have kept := state.sections.keys_set name (Dict.set options entry.1 [entry.2.toList])
    rw [if_pos reading.present] at kept
    exact kept
  · intro other option
    have joined : joinedValue [entry.2.toList] = entry.2 := by
      have back : entry.2.toList.rdropWhile isSpace = entry.2.toList := by
        rw [← stripped, stripChars]
        exact List.rdropWhile_idempotent _ _
      rw [joinedValue, joinLines, List.intercalate_singleton, back, String.ofList_toList]
    unfold ParserState.shown
    dsimp only
    rw [Dict.get?_set]
    by_cases here : other = name
    · rw [if_pos here, Option.bind_some, Dict.get?_set]
      by_cases same : option = entry.1
      · rw [if_pos same, if_pos ⟨here, same⟩, Option.map_some, joined]
      · rw [if_neg same, if_neg (fun both => same both.2), here, stored, Option.bind_some]
    · rw [if_neg here, if_neg (fun both => here both.1)]

end Setting

/-! ### Written sections -/

/-- The text between the brackets. -/
def title (part : IniSection) : String :=
  String.ofList ((sectionHeader part.header).getD [])

/-- A header with a title, and settings with different keys. -/
structure Parseable (part : IniSection) : Prop where
  titled : (sectionHeader part.header).isSome = true
  named : ∀ entry ∈ part.entries, isOptionKey entry.1.toList = true
  stripped : ∀ entry ∈ part.entries, stripChars entry.2.toList = entry.2.toList
  once : (part.entries.map Prod.fst).Nodup

/-- An empty line keeps what is shown. -/
theorem parseLine_blank (state : ParserState) : parseLine state [] = .ok (state.extend []) := rfl

theorem shown_of_absent {state : ParserState} {name : String}
    (absent : name ∉ state.sections.keys) (option : String) : state.shown name option = none := by
  rw [ParserState.shown, (Dict.get?_eq_none_iff ..).mpr absent]
  rfl

/-- A header of a section that is not there opens it. -/
theorem parseLine_header {state : ParserState} {part : IniSection} (sound : state.failed = false)
    (titled : (sectionHeader part.header).isSome = true)
    (fresh : title part ∉ state.sections.keys) :
    ∃ next, parseLine state part.header = .ok next ∧ Reading next (title part) ∧
      (∀ other, other ∈ next.sections.keys ↔ other = title part ∨ other ∈ state.sections.keys) ∧
      ∀ other option, next.shown other option = state.shown other option := by
  obtain ⟨⟨rest, bracket⟩, stripped, _, visible⟩ := header_facts part.shaped
  obtain ⟨chars, isTitle⟩ := Option.isSome_iff_exists.mp titled
  have named : String.ofList chars = title part := by rw [title, isTitle, Option.getD_some]
  have front : part.header.takeWhile isSpace = [] := by
    have atHead := visible '[' (by rw [bracket]; exact List.mem_cons_self)
    rw [bracket]
    exact List.takeWhile_cons_of_neg (by simp [atHead])
  have members := state.sections.mem_keys_set (title part)
  refine ⟨{ sections := state.sections.set (title part) Dict.empty
            sectName := some (title part)
            optName := none
            indent := 0
            failed := state.failed }, ?_, ?_, ?_, ?_⟩
  · unfold parseLine
    dsimp only
    rw [stripped, if_neg (by rw [bracket]; exact Bool.false_ne_true), if_neg (by rw [bracket]; simp),
      front, if_neg (by simp), isTitle]
    dsimp only
    rw [named, ParserState.openSection, if_neg (fun both => fresh both.2), if_neg fresh]
    rfl
  · exact ⟨rfl, (members _ _).mpr (Or.inl rfl), rfl, sound⟩
  · exact fun other => members other _
  · intro other option
    by_cases here : other = title part
    · rw [here, shown_of_absent fresh, ParserState.shown, Dict.get?_set, if_pos rfl]
      rfl
    · rw [ParserState.shown, Dict.get?_set, if_neg here]
      rfl

/-- The settings of a section, one after the other: no key comes twice. -/
theorem parse_settings {entries : List (String × String)}
    (named : ∀ entry ∈ entries, isOptionKey entry.1.toList = true)
    (stripped : ∀ entry ∈ entries, stripChars entry.2.toList = entry.2.toList)
    (once : (entries.map Prod.fst).Nodup) {state : ParserState} {name : String}
    (reading : Reading state name)
    (fresh : ∀ entry ∈ entries, state.shown name entry.1 = none) :
    ∃ next, (entries.map settingChars).foldlM parseLine state = .ok next ∧ Reading next name ∧
      next.sections.keys = state.sections.keys ∧
      ∀ other option, next.shown other option =
        if other = name then (entries.lookup option).or (state.shown name option)
        else state.shown other option := by
  induction entries generalizing state with
  | nil =>
      refine ⟨state, rfl, reading, rfl, ?_⟩
      intro other option
      split
      · rename_i here
        rw [here, List.lookup_nil, Option.none_or]
      · rfl
  | cons entry rest ih =>
      rw [List.map_cons, List.nodup_cons] at once
      obtain ⟨notLater, onceLater⟩ := once
      obtain ⟨middle, parsed, readingMiddle, keysMiddle, shownMiddle⟩ :=
        parseLine_setting (named entry List.mem_cons_self) (stripped entry List.mem_cons_self)
          reading (fresh entry List.mem_cons_self)
      have freshLater : ∀ other ∈ rest, middle.shown name other.1 = none := by
        intro other member
        have different : other.1 ≠ entry.1 :=
          fun same => notLater (same ▸ List.mem_map_of_mem member)
        rw [shownMiddle, if_neg (fun both => different both.2)]
        exact fresh other (List.mem_cons_of_mem entry member)
      obtain ⟨next, parsedRest, readingNext, keysNext, shownNext⟩ :=
        ih (fun other member => named other (List.mem_cons_of_mem entry member))
          (fun other member => stripped other (List.mem_cons_of_mem entry member)) onceLater
          readingMiddle freshLater
      refine ⟨next, ?_, readingNext, keysNext.trans keysMiddle, ?_⟩
      · rw [List.map_cons, List.foldlM_cons, parsed]
        exact parsedRest
      · intro other option
        rw [shownNext, Dict.lookup_cons_eq]
        by_cases here : other = name
        · rw [if_pos here, if_pos here, shownMiddle]
          by_cases same : option = entry.1
          · have absent : rest.lookup option = none := by
              rw [List.lookup_eq_none_iff]
              intro later member
              rw [bne_iff_ne, same]
              exact fun equal => notLater (equal ▸ List.mem_map_of_mem member)
            rw [if_pos ⟨rfl, same⟩, if_pos same, absent, Option.none_or, Option.some_or]
          · rw [if_neg (fun both => same both.2), if_neg same]
        · rw [if_neg here, if_neg here, shownMiddle, if_neg (fun both => here both.1)]

theorem parse_section {part : IniSection} (parseable : Parseable part) {state : ParserState}
    (sound : state.failed = false) (fresh : title part ∉ state.sections.keys) :
    ∃ next, part.lines.foldlM parseLine state = .ok next ∧ Reading next (title part) ∧
      (∀ other, other ∈ next.sections.keys ↔ other = title part ∨ other ∈ state.sections.keys) ∧
      ∀ other option, next.shown other option =
        if other = title part then part.entries.lookup option else state.shown other option := by
  obtain ⟨opened, parsed, reading, keysOpened, shownOpened⟩ :=
    parseLine_header sound parseable.titled fresh
  have empty : ∀ option, opened.shown (title part) option = none := by
    intro option
    rw [shownOpened]
    exact shown_of_absent fresh option
  obtain ⟨next, parsedRest, readingNext, keysNext, shownNext⟩ :=
    parse_settings parseable.named parseable.stripped parseable.once reading
      (fun entry _ => empty entry.1)
  refine ⟨next, ?_, readingNext, ?_, ?_⟩
  · rw [IniSection.lines, List.foldlM_cons, parsed]
    exact parsedRest
  · intro other
    rw [keysNext]
    exact keysOpened other
  · intro other option
    rw [shownNext, empty, Option.or_none, shownOpened]

/-- Sections with different titles: each shows its own settings, and none touches another. -/
theorem parse_sections {parts : List IniSection} (parseable : ∀ part ∈ parts, Parseable part)
    (once : (parts.map title).Nodup) {state : ParserState} (sound : state.failed = false)
    (fresh : ∀ part ∈ parts, title part ∉ state.sections.keys) :
    ∃ next, (sectionLines parts).foldlM parseLine state = .ok next ∧ next.failed = false ∧
      (∀ other, other ∈ next.sections.keys ↔
        other ∈ parts.map title ∨ other ∈ state.sections.keys) ∧
      (∀ part ∈ parts, ∀ option, next.shown (title part) option = part.entries.lookup option) ∧
      ∀ other, other ∉ parts.map title →
        ∀ option, next.shown other option = state.shown other option := by
  induction parts generalizing state with
  | nil =>
      refine ⟨state, rfl, sound, ?_, ?_, ?_⟩
      · simp
      · exact fun _ absent => absurd absent List.not_mem_nil
      · exact fun _ _ _ => rfl
  | cons part rest ih =>
      rw [List.map_cons, List.nodup_cons] at once
      obtain ⟨notLater, onceLater⟩ := once
      obtain ⟨first, parsed, reading, keysFirst, shownFirst⟩ :=
        parse_section (parseable part List.mem_cons_self) sound
          (fresh part List.mem_cons_self)
      by_cases more : rest = []
      · subst more
        refine ⟨first, parsed, reading.sound, ?_, ?_, ?_⟩
        · intro other
          rw [keysFirst, List.map_singleton, List.mem_singleton]
        · intro other member option
          obtain rfl := List.mem_singleton.mp member
          rw [shownFirst, if_pos rfl]
        · intro other absent option
          rw [shownFirst, if_neg (fun same => absent (List.mem_singleton.mpr same))]
      · obtain ⟨readingBlank, keysBlank⟩ := reading_extend_nil reading
        have freshLater : ∀ other ∈ rest, title other ∉ (first.extend []).sections.keys := by
          intro other member
          rw [keysBlank, keysFirst]
          rintro (same | present)
          · exact notLater (same ▸ List.mem_map_of_mem member)
          · exact fresh other (List.mem_cons_of_mem part member) present
        obtain ⟨next, parsedRest, soundNext, keysNext, shownNext, keptNext⟩ :=
          ih (fun other member => parseable other (List.mem_cons_of_mem part member)) onceLater
            readingBlank.sound freshLater
        refine ⟨next, ?_, soundNext, ?_, ?_, ?_⟩
        · rw [sectionLines_cons part more, List.foldlM_append, parsed]
          change (do
            let blank ← parseLine first []
            (sectionLines rest).foldlM parseLine blank) = .ok next
          rw [parseLine_blank]
          exact parsedRest
        · intro other
          rw [keysNext, keysBlank, keysFirst, List.map_cons, List.mem_cons]
          tauto
        · intro other member option
          rcases List.mem_cons.mp member with rfl | later
          · rw [keptNext _ notLater, shown_extend_nil, shownFirst, if_pos rfl]
          · exact shownNext other later option
        · intro other absent option
          rw [List.map_cons, List.mem_cons, not_or] at absent
          rw [keptNext other absent.2, shown_extend_nil, shownFirst, if_neg absent.1]

/-! ### A whole text -/

theorem fileLines_endedLines {lines : List (List Char)} (unbroken : ∀ line ∈ lines, '\n' ∉ line) :
    fileLines (endedLines lines) = lines := by
  have split : linesOf (endedLines lines) = lines ++ [[]] := by
    induction lines with
    | nil => rfl
    | cons line rest ih =>
        have shape : endedLines (line :: rest) = line ++ '\n' :: endedLines rest := by
          rw [endedLines, List.flatMap_cons, List.append_assoc]
          rfl
        rw [shape, linesOf_append, linesOf_of_not_mem (unbroken line List.mem_cons_self),
          ih (fun other member => unbroken other (List.mem_cons_of_mem line member))]
        rfl
  rw [fileLines, split, List.getLast?_concat, if_pos rfl, List.dropLast_concat]

theorem getOption_mapValues (state : ParserState) (name option : String) :
    getOption (state.sections.mapValues (fun options => options.mapValues joinedValue)) name
        option =
      (state.shown name option).orElse (fun _ => state.shown defaultSection option) := by
  have read : ∀ other, (((state.sections.mapValues
      (fun options => options.mapValues joinedValue)).get? other).bind
        (fun options => options.get? option)) = state.shown other option := by
    intro other
    rw [Dict.get?_mapValues, ParserState.shown]
    cases state.sections.get? other with
    | none => rfl
    | some options => exact Dict.get?_mapValues ..
  rw [getOption, read, read]

/-- A written text is read as its sections. -/
theorem readString_written {parts : List IniSection} {text : String}
    (parseable : ∀ part ∈ parts, Parseable part)
    (once : (defaultSection :: parts.map title).Nodup)
    (unbroken : ∀ line ∈ sectionLines parts, '\n' ∉ line)
    (written : text.toList = endedLines (sectionLines parts)) :
    ∃ parsed, readString text = .ok parsed ∧ ∀ part ∈ parts, title part ∈ parsed.keys ∧
      ∀ option, getOption parsed (title part) option = part.entries.lookup option := by
  obtain ⟨notDefault, different⟩ := List.nodup_cons.mp once
  obtain ⟨next, parsed, sound, keys, shown, kept⟩ :=
    parse_sections parseable different (show initialState.failed = false from rfl)
      (fun part member => by
        rw [show initialState.sections.keys = [defaultSection] from rfl, List.mem_singleton]
        exact fun same => notDefault (same ▸ List.mem_map_of_mem member))
  refine ⟨next.sections.mapValues (fun options => options.mapValues joinedValue), ?_, ?_⟩
  · rw [readString, written, fileLines_endedLines unbroken, parsed]
    change (if next.failed then Except.error ParserError.parsing else _) = _
    rw [sound]
    rfl
  · intro part member
    constructor
    · have present := (keys (title part)).mpr (Or.inl (List.mem_map_of_mem member))
      obtain ⟨options, stored⟩ := (Dict.mem_keys_iff ..).mp present
      exact Dict.mem_keys_of_get? (by rw [Dict.get?_mapValues, stored]; rfl)
    · intro option
      rw [getOption_mapValues, shown part member, kept defaultSection notDefault]
      cases part.entries.lookup option with
      | none => rfl
      | some value => rfl

end VpnSuite.Foundations.ConfigParser
