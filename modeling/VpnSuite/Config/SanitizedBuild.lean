/-
Sanitising a configuration that the builder returned.

The builder writes keys, numbers and headers that no rule of the sanitiser touches.  The
address, the DNS, the endpoint, the allowed addresses and `I1` to `I5` are written as they are
given, so that what the sanitiser takes for a comment or an empty key can stand in them.
-/

import VpnSuite.Config.ConfigReading
import VpnSuite.Config.SanitizeOnce
import Mathlib.Logic.Function.Iterate

set_option autoImplicit false

namespace VpnSuite.Config

open Foundations
open Foundations.PythonText
open Foundations.IniText
open Foundations.LinePasses (Apart CleanerLaws Undisturbed pass_seen_iff undisturbed_flatten)

/-! ### The condition -/

/-- A value without comment marks that begins with something.  Where it holds line breaks, no
line of it ends in white space, no later line is an empty key or an indented header, and no
two blank lines follow each other. -/
structure KeptValue (value : List Char) : Prop where
  unmarked : ∀ char ∈ value, isCommentMark char = false
  begins : (linesOf value).head? ≠ some []
  trimmed : ∀ line ∈ linesOf value, line.rdropWhile isSpace = line
  hasValue : ∀ line ∈ (linesOf value).tail, isEmptyKey line = false
  headers : ∀ line ∈ (linesOf value).tail, ∀ header ∈ [interfaceHeader, peerHeader],
    stripChars line = header → line = header
  spaced : (linesOf value).IsChain (Apart [])

instance (value : List Char) : Decidable (KeptValue value) :=
  decidable_of_iff (value.any isCommentMark = false ∧
      (linesOf value).head? ≠ some [] ∧
      (∀ line ∈ linesOf value, line.rdropWhile isSpace = line) ∧
      (∀ line ∈ (linesOf value).tail, isEmptyKey line = false) ∧
      (∀ line ∈ (linesOf value).tail, ∀ header ∈ [interfaceHeader, peerHeader],
        stripChars line = header → line = header) ∧
      LinePasses.collapse [] false (linesOf value) = linesOf value)
    ⟨fun ⟨unmarked, begins, trimmed, hasValue, headers, spaced⟩ =>
        ⟨by simpa using unmarked, begins, trimmed, hasValue, headers,
          (LinePasses.collapse_eq_self_iff _).mp spaced⟩,
      fun ⟨unmarked, begins, trimmed, hasValue, headers, spaced⟩ =>
        ⟨by simpa using unmarked, begins, trimmed, hasValue, headers,
          (LinePasses.collapse_eq_self_iff _).mpr spaced⟩⟩

/-! ### Lines that a pass keeps -/

theorem id_laws : CleanerLaws [] cleanLine id :=
  ⟨by decide, cleanLine_idempotent, fun _ same => same⟩

theorem withoutComment_of_unmarked {line : List Char} (unmarked : line.any isCommentMark = false)
    (trimmed : line.rdropWhile isSpace = line) : withoutComment line = line := by
  rw [withoutComment_eq, unmarked, if_neg Bool.false_ne_true, trimmed]

theorem eq_nil_of_blank {line : List Char} (trimmed : line.rdropWhile isSpace = line)
    (blank : isBlankLine line = true) : line = [] := by
  rw [← trimmed, List.rdropWhile_eq_nil_iff]
  intro char member
  by_contra visible
  have kept := mem_stripChars member (by simpa using visible)
  rw [of_decide_eq_true blank] at kept
  cases kept

/-- The lines that cleaning leaves alone. -/
theorem cleanLine_eq_self_iff (line : List Char) :
    cleanLine line = some line ↔ line.any isCommentMark = false ∧
      line.rdropWhile isSpace = line ∧ isEmptyKey line = false ∧
      ∀ header ∈ [interfaceHeader, peerHeader], stripChars line = header → line = header := by
  constructor
  · intro kept
    obtain ⟨unmarked, trimmed, hasValue⟩ := cleanLine_unmarked kept
    refine ⟨unmarked, trimmed, hasValue, ?_⟩
    intro header isHeader stripped
    obtain rfl | rfl | rfl | ⟨_, _, _, notInterface, notPeer⟩ := cleanLine_cases kept
    · rw [← stripped]
      rfl
    · rw [← stripped]
      decide
    · rw [← stripped]
      decide
    · rcases List.mem_pair.mp isHeader with rfl | rfl
      · exact absurd stripped notInterface
      · exact absurd stripped notPeer
  · rintro ⟨unmarked, trimmed, hasValue, headers⟩
    unfold cleanLine
    dsimp only
    rw [withoutComment_of_unmarked unmarked trimmed]
    split
    · rename_i blank
      rw [eq_nil_of_blank trimmed blank]
    · rw [hasValue, if_neg Bool.false_ne_true]
      split
      · rename_i stripped
        rw [headers interfaceHeader (by simp) stripped]
      · split
        · rename_i stripped
          rw [headers peerHeader (by simp) stripped]
        · rfl

/-- The first line of a setting is left alone when its value begins with something. -/
theorem cleanLine_first_iff {key value : List Char} (named : isSettingKey key = true) :
    cleanLine (key ++ (" = ".toList ++ value)) = some (key ++ (" = ".toList ++ value)) ↔
      value ≠ [] ∧ value.any isCommentMark = false ∧ value.rdropWhile isSpace = value := by
  constructor
  · intro kept
    obtain ⟨unmarked, trimmed, _⟩ := cleanLine_unmarked kept
    rw [List.any_append, List.any_append, Bool.or_eq_false_iff, Bool.or_eq_false_iff] at unmarked
    have some : value ≠ [] := by
      rintro rfl
      have blankEnd : (key ++ (" = ".toList ++ [])).getLast? = Option.some ' ' := by simp
      exact absurd (isSpace_of_trimmed trimmed blankEnd) (by decide)
    refine ⟨some, unmarked.2.2, List.rdropWhile_eq_self_iff.mpr (fun _ => ?_)⟩
    rw [Bool.not_eq_true]
    refine isSpace_of_trimmed trimmed ?_
    rw [List.getLast?_append_of_ne_nil _ (by simp), List.getLast?_append_of_ne_nil _ some,
      List.getLast?_eq_some_getLast some]
  · rintro ⟨some, unmarked, trimmed⟩
    exact cleanLine_visible_setting named some unmarked trimmed

/-- The lines of a setting are left alone exactly when its value is one that is kept. -/
theorem undisturbed_setting_iff {key value : List Char} (named : isSettingKey key = true) :
    Undisturbed [] cleanLine id (linesOf (key ++ (" = ".toList ++ value))) ↔ KeptValue value := by
  have unbroken : '\n' ∉ key ++ " = ".toList := by
    rw [isSettingKey, Bool.and_eq_true] at named
    intro broken
    obtain inKey | between := List.mem_append.mp broken
    · exact absurd (List.all_eq_true.mp named.2 _ inKey) (by decide)
    · exact absurd between (by decide)
  obtain ⟨first, rest, whole⟩ := List.exists_cons_of_ne_nil (linesOf_ne_nil value)
  have lines : linesOf (key ++ (" = ".toList ++ value)) =
      (key ++ (" = ".toList ++ first)) :: rest := by
    rw [← List.append_assoc, linesOf_append_front unbroken, whole, List.modifyHead_cons,
      List.append_assoc]
  have visible : key ++ (" = ".toList ++ first) ≠ [] := by simp
  have marks : (∀ char ∈ value, isCommentMark char = false) ↔
      ∀ line ∈ first :: rest, line.any isCommentMark = false := by
    rw [← whole]
    constructor
    · intro unmarked line member
      rw [List.any_eq_false]
      intro char inLine
      rw [unmarked char (mem_of_mem_splitOnP member char inLine)]
      exact Bool.false_ne_true
    · intro unmarked char member
      obtain rfl | ⟨line, isLine, inLine⟩ := @mem_splitOn '\n' char _ member
      · decide
      · simpa using List.any_eq_false.mp (unmarked line isLine) char inLine
  rw [lines]
  constructor
  · rintro ⟨kept, spaced⟩
    have fixed : ∀ line ∈ (key ++ (" = ".toList ++ first)) :: rest, cleanLine line = some line := by
      intro line member
      simpa using kept line member
    obtain ⟨someFirst, unmarkedFirst, trimmedFirst⟩ :=
      (cleanLine_first_iff named).mp (fixed _ List.mem_cons_self)
    have later : ∀ line ∈ rest, _ := fun line member =>
      (cleanLine_eq_self_iff line).mp (fixed line (List.mem_cons_of_mem _ member))
    rw [LinePasses.collapse_eq_self_iff, LinePasses.isChain_cons_visible visible] at spaced
    constructor
    · exact marks.mpr (List.forall_mem_cons.mpr
        ⟨unmarkedFirst, fun line member => (later line member).1⟩)
    · rw [whole]
      exact fun blank => someFirst (Option.some.inj blank)
    · rw [whole]
      exact List.forall_mem_cons.mpr ⟨trimmedFirst, fun line member => (later line member).2.1⟩
    · rw [whole]
      exact fun line member => (later line member).2.2.1
    · rw [whole]
      exact fun line member => (later line member).2.2.2
    · rw [whole]
      exact (LinePasses.isChain_cons_visible someFirst rest).mpr spaced
  · rintro ⟨unmarked, begins, trimmed, hasValue, headers, spaced⟩
    rw [whole] at begins trimmed hasValue headers spaced
    have someFirst : first ≠ [] := fun blank => begins (congrArg some blank)
    have plain := marks.mp unmarked
    refine ⟨?_, ?_⟩
    · have firstKept := (cleanLine_first_iff named).mpr ⟨someFirst,
        plain first List.mem_cons_self, trimmed first List.mem_cons_self⟩
      refine List.forall_mem_cons.mpr ⟨by rw [firstKept]; rfl, ?_⟩
      intro line member
      rw [(cleanLine_eq_self_iff line).mpr ⟨plain line (List.mem_cons_of_mem _ member),
        trimmed line (List.mem_cons_of_mem _ member), hasValue line member, headers line member⟩]
      rfl
    · rw [LinePasses.collapse_eq_self_iff, LinePasses.isChain_cons_visible visible]
      exact (LinePasses.isChain_cons_visible someFirst rest).mp spaced

theorem keptValue_of_plain (value : List Char) (plain : isPlainValue value = true) :
    KeptValue value := by
  obtain ⟨someValue, visible⟩ := (isPlainValue_iff value).mp plain
  have whole : linesOf value = [value] := linesOf_of_not_mem (plain_unbroken plain)
  refine ⟨fun char member => (visible char member).2, ?_, ?_, ?_, ?_, ?_⟩
  · rw [whole]
    exact fun blank => someValue (Option.some.inj blank)
  · rw [whole]
    intro line member
    obtain rfl := List.mem_singleton.mp member
    exact (stripChars_of_ends (fun char atHead => (visible char (List.mem_of_mem_head? atHead)).1)
      (fun char atEnd => (visible char (List.mem_of_mem_getLast? atEnd)).1)).2.1
  · rw [whole]
    exact fun _ absent => absurd absent List.not_mem_nil
  · rw [whole]
    exact fun _ absent => absurd absent List.not_mem_nil
  · rw [whole]
    exact List.isChain_singleton value

/-- A text under the `[Interface]` header is left alone exactly when its lines are. -/
theorem sanitizeAwgConf_eq_self_iff {text : String} {rest front : List (List Char)}
    {last : List Char} (headed : linesOf text.toList = interfaceHeader :: rest)
    (ended : linesOf text.toList = front ++ [last] ++ [[]]) (visible : last ≠ []) :
    sanitizeAwgConf text = text ↔ Undisturbed [] cleanLine id (linesOf text.toList) := by
  have once := linesOf_sanitizeAwgConf headed
  have seen : (LinePasses.pass [] cleanLine (front ++ [last] ++ [[]])).map id =
      (front ++ [last] ++ [[]]).map id ↔
        Undisturbed [] cleanLine id (front ++ [last] ++ [[]]) := pass_seen_iff id_laws visible
  rw [List.map_id, List.map_id, ← ended, ← once] at seen
  rw [← seen]
  constructor
  · intro same
    rw [same]
  · intro same
    rw [← String.toList_inj, ← joinLines_linesOf (sanitizeAwgConf text).toList, same,
      joinLines_linesOf]

/-! ### The groups of lines of a built text -/

theorem linesOf_endedLines (lines : List (List Char)) :
    linesOf (endedLines lines) = lines.flatMap linesOf ++ [[]] := by
  induction lines with
  | nil => rfl
  | cons line rest ih =>
      have shape : endedLines (line :: rest) = line ++ '\n' :: endedLines rest := by
        rw [endedLines, List.flatMap_cons, List.append_assoc]
        rfl
      rw [shape, linesOf_append, ih, List.flatMap_cons, List.append_assoc]

/-- The settings of a section with its header, the blank line before `[Peer]` with it. -/
def builtGroups (interface : InterfaceFields) (peer : PeerFields) (profile : ConfigProfile)
    (obfuscation : Option Obfuscation) : List (List Char) :=
  interfaceHeader :: (interfaceEntries interface peer profile obfuscation).map settingChars ++
    ('\n' :: peerHeader) :: (peerEntries interface peer).map settingChars

theorem mem_builtGroups {interface : InterfaceFields} {peer : PeerFields} {profile : ConfigProfile}
    {obfuscation : Option Obfuscation} {group : List Char} :
    group ∈ builtGroups interface peer profile obfuscation ↔
      (group = interfaceHeader ∨ group = '\n' :: peerHeader) ∨
        ∃ part ∈ builtSections interface peer profile obfuscation, ∃ entry ∈ part.entries,
          settingChars entry = group := by
  simp only [builtGroups, builtSections, List.mem_append, List.mem_cons, List.mem_map,
    List.not_mem_nil, or_false, exists_eq_or_imp, exists_eq_left]
  exact or_or_or_comm

theorem builtGroups_kept_iff {interface : InterfaceFields} {peer : PeerFields}
    {profile : ConfigProfile} {obfuscation : Option Obfuscation} :
    (∀ group ∈ (builtGroups interface peer profile obfuscation).map linesOf,
        Undisturbed [] cleanLine id group) ↔
      ∀ part ∈ builtSections interface peer profile obfuscation, ∀ entry ∈ part.entries,
        KeptValue entry.2.toList := by
  have keys : settingKeys.all (fun key => isSettingKey key.toList) = true := by decide
  have setting : ∀ part ∈ builtSections interface peer profile obfuscation,
      ∀ entry ∈ part.entries, Undisturbed [] cleanLine id (linesOf (settingChars entry)) ↔
        KeptValue entry.2.toList := by
    intro part member entry listed
    rw [settingChars, List.append_assoc]
    exact undisturbed_setting_iff
      (List.all_eq_true.mp keys entry.1 (settingKeys_of_listed member listed))
  rw [List.forall_mem_map]
  constructor
  · intro kept part member entry listed
    exact (setting part member entry listed).mp
      (kept _ (mem_builtGroups.mpr (Or.inr ⟨part, member, entry, listed, rfl⟩)))
  · intro kept group member
    rcases mem_builtGroups.mp member with (rfl | rfl) | ⟨part, isPart, entry, listed, rfl⟩
    · decide
    · decide
    · exact (setting part isPart entry listed).mpr (kept part isPart entry listed)

section Built

variable {interface : InterfaceFields} {peer : PeerFields} {profile : ConfigProfile}
  {obfuscation : Option Obfuscation} {text : String}
  (built : buildConfig interface peer profile obfuscation = .ok text)

include built

theorem built_linesOf :
    linesOf text.toList =
      ((builtGroups interface peer profile obfuscation).map linesOf).flatten ++ [[]] := by
  have blankAndPeer : linesOf ('\n' :: peerHeader) = linesOf [] ++ linesOf peerHeader := by decide
  rw [built_toList built, linesOf_endedLines, builtSections,
    sectionLines_cons _ (List.cons_ne_nil _ _), sectionLines, builtGroups, List.flatMap_def]
  simp only [IniSection.lines, List.map_append, List.map_cons, List.flatten_append,
    List.flatten_cons, blankAndPeer, List.append_assoc, List.cons_append]

/-- Every group ends in a line with something in it. -/
theorem builtGroups_end :
    ∀ group ∈ (builtGroups interface peer profile obfuscation).map linesOf,
      ∃ front last, group = front ++ [last] ∧ last ≠ [] := by
  intro lines isGroup
  obtain ⟨group, member, rfl⟩ := List.mem_map.mp isGroup
  rcases mem_builtGroups.mp member with (rfl | rfl) | ⟨part, isPart, entry, listed, rfl⟩
  · exact linesOf_ends (by decide) (by decide)
  · exact linesOf_ends (by decide) (by decide)
  · have stripped := (builtSections_writable built part isPart entry listed).2
    refine linesOf_ends (by simp [settingChars]) ?_
    by_cases blank : entry.2.toList = []
    · rw [settingChars, blank, List.append_nil, List.getLast?_append_of_ne_nil _ (by simp)]
      decide
    · rw [settingChars, List.getLast?_append_of_ne_nil _ blank]
      intro broken
      exact absurd (isSpace_of_trimmed (stripped ▸ stripChars_trimmed _) broken) (by decide)

theorem sanitize_built_iff :
    sanitizeAwgConf text = text ↔
      ∀ value ∈ shownValues interface peer obfuscation, KeptValue value := by
  have lines := built_linesOf built
  have ends := builtGroups_end built
  have headed : linesOf text.toList = interfaceHeader ::
      ((((interfaceEntries interface peer profile obfuscation).map settingChars ++
        ('\n' :: peerHeader) :: (peerEntries interface peer).map settingChars).map
          linesOf).flatten ++ [[]]) := lines
  obtain ⟨front, last, ended, visible⟩ : ∃ front last, linesOf text.toList =
      front ++ [last] ++ [[]] ∧ last ≠ [] := by
    obtain ⟨groups, final, whole⟩ := (List.eq_nil_or_concat'
      ((builtGroups interface peer profile obfuscation).map linesOf)).resolve_left
        (List.cons_ne_nil _ _)
    rw [whole] at lines ends
    obtain ⟨front, last, isFinal, visible⟩ := ends final (by simp)
    refine ⟨groups.flatten ++ front, last, ?_, visible⟩
    rw [lines, isFinal]
    simp
  have endKept : Undisturbed [] cleanLine id [([] : List Char)] := by decide
  have byGroups : Undisturbed [] cleanLine id (linesOf text.toList) ↔
      ∀ group ∈ (builtGroups interface peer profile obfuscation).map linesOf,
        Undisturbed [] cleanLine id group := by
    rw [lines, undisturbed_flatten ends]
    exact and_iff_left endKept
  rw [← entries_shown_iff built keptValue_of_plain, ← builtGroups_kept_iff, ← byGroups,
    ← sanitizeAwgConf_eq_self_iff headed ended visible]

/-- Sanitising, however often, leaves a built text alone exactly when the values shown in it are
kept. -/
theorem built_text_kept_iff :
    (∀ times, sanitizeAwgConf^[times] text = text) ↔
      ∀ value ∈ shownValues interface peer obfuscation, KeptValue value := by
  rw [← sanitize_built_iff built]
  constructor
  · intro always
    exact always 1
  · intro once times
    exact Function.iterate_fixed once times

end Built

/-- A signature without a hash mark stays as it was built. -/
theorem sample_text_kept :
    ∃ text, buildConfig (sampleInterface "1.1.1.1") samplePeer .awg20Asc
        (some (Dict.ofList [("Jc", .int 3), ("I1", .str "<b 0xc0>")])) = .ok text ∧
      ∀ times, sanitizeAwgConf^[times] text = text := by
  have isBuilt : (buildConfig (sampleInterface "1.1.1.1") samplePeer .awg20Asc
      (some (Dict.ofList [("Jc", .int 3), ("I1", .str "<b 0xc0>")]))).toOption.isSome = true := by
    decide +kernel
  cases built : buildConfig (sampleInterface "1.1.1.1") samplePeer .awg20Asc
      (some (Dict.ofList [("Jc", .int 3), ("I1", .str "<b 0xc0>")])) with
  | error errors =>
      rw [built] at isBuilt
      cases isBuilt
  | ok text => exact ⟨text, rfl, (built_text_kept_iff built).mpr (by decide +kernel)⟩

/-- What stands behind a hash mark in a signature is cut off. -/
theorem marked_signature_is_cut :
    ∃ text, buildConfig (sampleInterface "1.1.1.1") samplePeer .awg20Asc
        (some (Dict.ofList [("I1", .str "<b 0xc0>#1")])) = .ok text ∧
      sanitizeAwgConf text ≠ text := by
  have isBuilt : (buildConfig (sampleInterface "1.1.1.1") samplePeer .awg20Asc
      (some (Dict.ofList [("I1", .str "<b 0xc0>#1")]))).toOption.isSome = true := by
    decide +kernel
  cases built : buildConfig (sampleInterface "1.1.1.1") samplePeer .awg20Asc
      (some (Dict.ofList [("I1", .str "<b 0xc0>#1")])) with
  | error errors =>
      rw [built] at isBuilt
      cases isBuilt
  | ok text =>
      refine ⟨text, rfl, ?_⟩
      rw [Ne, sanitize_built_iff built]
      decide +kernel

end VpnSuite.Config
