/-
The obfuscation parameters a node reports (`_parse_wg_show_obfuscation` in
`services/node_runtime_docker.py` and in `node-agent/agent.py`).

Both parsers read `wg show <iface>` line by line, and a later line replaces an earlier one.
They differ in the headers only: the backend takes a number or a range `lo-hi`, the agent a
number.  `int` raises for a header that `isdigit` lets through and it cannot read; of the
other parameters such a line is passed over.
-/

import VpnSuite.Config.AmneziaConfig
import VpnSuite.Foundations.CheckedPasses

set_option autoImplicit false

namespace VpnSuite.Config

open Foundations
open Foundations.PythonText

/-! ### Lines -/

/-- The line boundaries of `str.splitlines`. -/
def isLineBoundary (char : Char) : Bool :=
  char.toNat ∈ [10, 11, 12, 13, 28, 29, 30, 0x85, 0x2028, 0x2029]

/-- `text.splitlines()`; `line` is what has been read of the current line, backwards. -/
def splitLinesFrom (line : List Char) : List Char → List (List Char)
  | [] => if line = [] then [] else [line.reverse]
  | '\r' :: '\n' :: rest => line.reverse :: splitLinesFrom [] rest
  | char :: rest =>
      if isLineBoundary char then line.reverse :: splitLinesFrom [] rest
      else splitLinesFrom (char :: line) rest

/-- A line `key: value`, the key in lower case. -/
def wgShowField (line : List Char) : Option (String × List Char) :=
  let content := stripChars line
  if ':' ∈ content then
    let (key, value) := partition ':' content
    some (lower (String.ofList (stripChars key)), stripChars value)
  else none

def wgShowFields (output : String) : List (String × List Char) :=
  (splitLinesFrom [] (stripChars output.toList)).filterMap wgShowField

/-! ### The two parsers -/

/-- The numbers of the output, and their keys in the result. -/
def numberNames : List (String × String) :=
  [("jc", "Jc"), ("jmin", "Jmin"), ("jmax", "Jmax"), ("s1", "S1"), ("s2", "S2"), ("s3", "S3"),
    ("s4", "S4")]

def headerNames : List (String × String) :=
  [("h1", "H1"), ("h2", "H2"), ("h3", "H3"), ("h4", "H4")]

/-- What the parser of a header makes of its value. -/
abbrev HeaderReader := List Char → Except IntError (Option Json)

def readDigits (value : List Char) : Except IntError (Option Json) :=
  match intOfChars value with
  | none => .error .valueError
  | some number => .ok (some (.int number))

/-- The headers of the agent. -/
def agentHeader : HeaderReader := fun value =>
  if textIsDigit value then readDigits value else .ok none

def rangeText (value : List Char) : String :=
  String.ofList (stripChars (partition '-' value).1 ++ '-' :: stripChars (partition '-' value).2)

def isRangeText (value : List Char) : Bool :=
  '-' ∈ value && textIsDigit (stripChars (partition '-' value).1) &&
    textIsDigit (stripChars (partition '-' value).2)

/-- The headers of the backend. -/
def backendHeader : HeaderReader := fun value =>
  if textIsDigit value then readDigits value
  else .ok (if isRangeText value then some (.str (rangeText value)) else none)

def obfuscationEntry (header : HeaderReader) (field : String × List Char) :
    Except IntError (Option (String × Json)) :=
  match numberNames.lookup field.1, headerNames.lookup field.1 with
  | some key, _ => .ok ((intOfChars field.2).map (fun number => (key, .int number)))
  | none, some key =>
      if field.2 = [] then .ok none
      else (header field.2).map (Option.map (fun value => (key, value)))
  | none, none => .ok none

/-- `_parse_wg_show_obfuscation`. -/
def parseWgShowObfuscation (header : HeaderReader) (output : String) :
    Except IntError (Option Obfuscation) := do
  let entries ← (wgShowFields output).mapM (obfuscationEntry header)
  let result := Dict.ofList (entries.filterMap id)
  .ok (if result.entries.isEmpty then none else some result)

/-! ### What a header line denotes -/

/-- The least and the greatest value of a number or a range. -/
def denotedRange (value : List Char) : Option (Int × Int) :=
  if textIsDigit value then (intOfChars value).map (fun number => (number, number))
  else if isRangeText value then
    match intOfChars (stripChars (partition '-' value).1),
        intOfChars (stripChars (partition '-' value).2) with
    | some low, some high => some (low, high)
    | _, _ => none
  else none

/-- The header lines of the output are numbers or ranges, and the last ones denote the ranges
of the node, which are disjoint and within bounds. -/
structure ReportsHeaders (output : String) (ranges : String → Int × Int) : Prop where
  readable : ∀ field ∈ wgShowFields output, field.1 ∈ headerNames.map Prod.fst →
    (denotedRange field.2).isSome = true
  last : ∀ name key, (name, key) ∈ headerNames → ∃ value,
    (wgShowFields output).reverse.lookup name = some value ∧
      denotedRange value = some (ranges key)
  bounded : ∀ key ∈ headerKeys, (ranges key).1 ≤ (ranges key).2 ∧ 1 ≤ (ranges key).2 ∧
    (ranges key).2 ≤ headerMax
  disjoint : ∀ left ∈ headerKeys, ∀ right ∈ headerKeys, left ≠ right →
    (ranges left).2 < (ranges right).1 ∨ (ranges right).2 < (ranges left).1

/-- The headers in effect are plain numbers. -/
def NumbersOnly (output : String) : Prop :=
  ∀ name key, (name, key) ∈ headerNames → ∀ value,
    (wgShowFields output).reverse.lookup name = some value → textIsDigit value = true

/-! ### What the parsers return -/

section Parsing

variable {header : HeaderReader} {output : String} {ranges : String → Int × Int}

/-- The entry of a line that is read without an exception. -/
def entryOf (header : HeaderReader) (field : String × List Char) : Option (String × Json) :=
  (obfuscationEntry header field).toOption.join

/-- Readers of headers that read whatever denotes a range. -/
def ReadsRanges (header : HeaderReader) : Prop :=
  ∀ value, (denotedRange value).isSome = true → ∃ result, header value = .ok result

theorem readDigits_of_denoted {value : List Char} (digits : textIsDigit value = true)
    {range : Int × Int} (denoted : denotedRange value = some range) :
    readDigits value = .ok (some (.int range.1)) ∧ range.2 = range.1 := by
  rw [denotedRange, if_pos digits] at denoted
  obtain ⟨number, read, rfl⟩ := Option.map_eq_some_iff.mp denoted
  rw [readDigits, read]
  exact ⟨rfl, rfl⟩

theorem agentHeader_reads : ReadsRanges agentHeader := by
  intro value some
  obtain ⟨range, denoted⟩ := Option.isSome_iff_exists.mp some
  unfold agentHeader
  split
  · rename_i digits
    exact ⟨_, (readDigits_of_denoted digits denoted).1⟩
  · exact ⟨none, rfl⟩

theorem backendHeader_reads : ReadsRanges backendHeader := by
  intro value some
  obtain ⟨range, denoted⟩ := Option.isSome_iff_exists.mp some
  unfold backendHeader
  split
  · rename_i digits
    exact ⟨_, (readDigits_of_denoted digits denoted).1⟩
  · exact ⟨_, rfl⟩

theorem obfuscationEntry_ok (reads : ReadsRanges header) {field : String × List Char}
    (readable : field.1 ∈ headerNames.map Prod.fst → (denotedRange field.2).isSome = true) :
    obfuscationEntry header field = .ok (entryOf header field) := by
  have returns : ∃ entry, obfuscationEntry header field = .ok entry := by
    unfold obfuscationEntry
    cases numberNames.lookup field.1 with
    | some key => exact ⟨_, rfl⟩
    | none =>
        cases named : headerNames.lookup field.1 with
        | none => exact ⟨_, rfl⟩
        | some key =>
            dsimp only
            split
            · exact ⟨_, rfl⟩
            · have isHeader := List.mem_map_of_mem (f := Prod.fst) (mem_of_lookup named)
              obtain ⟨result, read⟩ := reads field.2 (readable isHeader)
              rw [read]
              exact ⟨_, rfl⟩
  obtain ⟨entry, returned⟩ := returns
  rw [entryOf, returned]
  rfl

/-- The key of an entry belongs to the name of its line. -/
theorem entryOf_named {field : String × List Char} {key : String} {value : Json}
    (entry : entryOf header field = some (key, value)) :
    (field.1, key) ∈ numberNames ∧ (∃ number, value = .int number) ∨
      (field.1, key) ∈ headerNames ∧ header field.2 = .ok (some value) := by
  unfold entryOf obfuscationEntry at entry
  cases numbered : numberNames.lookup field.1 with
  | some name =>
      rw [numbered] at entry
      obtain ⟨number, -, same⟩ := Option.map_eq_some_iff.mp entry
      obtain ⟨rfl, rfl⟩ := Prod.mk.inj same
      exact Or.inl ⟨mem_of_lookup numbered, number, rfl⟩
  | none =>
      rw [numbered] at entry
      cases named : headerNames.lookup field.1 with
      | none =>
          rw [named] at entry
          cases entry
      | some name =>
          rw [named] at entry
          dsimp only at entry
          split at entry
          · cases entry
          · cases read : header field.2 with
            | error error =>
                rw [read] at entry
                cases entry
            | ok result =>
                rw [read] at entry
                obtain ⟨shown, found, same⟩ := Option.map_eq_some_iff.mp
                  (show result.map (fun value => (name, value)) = some (key, value) from entry)
                obtain ⟨rfl, rfl⟩ := Prod.mk.inj same
                exact Or.inr ⟨mem_of_lookup named, by rw [found]⟩

theorem names_distinct : ∀ left ∈ numberNames ++ headerNames, ∀ right ∈ numberNames ++ headerNames,
    left.2 = right.2 → left.1 = right.1 := by
  decide

theorem lookup_headerName {name key : String} (named : (name, key) ∈ headerNames) :
    numberNames.lookup name = none ∧ headerNames.lookup name = some key := by
  have all : ∀ entry ∈ headerNames,
      numberNames.lookup entry.1 = none ∧ headerNames.lookup entry.1 = some entry.2 := by decide
  exact all (name, key) named

/-- The parser keeps the last line of a header. -/
theorem lookup_header {name key : String} (named : (name, key) ∈ headerNames)
    {fields : List (String × List Char)} {value : List Char} {json : Json}
    (last : fields.lookup name = some value) (visible : value ≠ [])
    (read : header value = .ok (some json)) :
    (fields.filterMap (entryOf header)).lookup key = some json := by
  induction fields with
  | nil => cases last
  | cons field rest ih =>
      rw [Dict.lookup_cons_eq] at last
      rw [List.filterMap_cons]
      by_cases here : name = field.1
      · rw [if_pos here] at last
        have entry : entryOf header field = some (key, json) := by
          obtain ⟨unnumbered, lookup⟩ := lookup_headerName named
          rw [here] at unnumbered lookup
          rw [entryOf, obfuscationEntry, unnumbered, lookup, Option.some.inj last]
          simp only [if_neg visible, read]
          rfl
        rw [entry, Dict.lookup_cons_eq]
        exact if_pos rfl
      · rw [if_neg here] at last
        cases entry : entryOf header field with
        | none => exact ih last
        | some other =>
            have different : key ≠ other.1 := by
              intro same
              have member : (field.1, other.1) ∈ numberNames ++ headerNames := by
                rcases entryOf_named entry with ⟨number, -⟩ | ⟨isHeader, -⟩
                · exact List.mem_append_left _ number
                · exact List.mem_append_right _ isHeader
              exact here (names_distinct (name, key) (List.mem_append_right _ named) _ member same)
            rw [Dict.lookup_cons_eq, if_neg different]
            exact ih last

/-- The parameters read from the output. -/
def reportedParams (header : HeaderReader) (output : String) : Obfuscation :=
  Dict.ofList ((wgShowFields output).filterMap (entryOf header))

theorem reportedParams_header {name key : String} (named : (name, key) ∈ headerNames)
    {value : List Char} {json : Json}
    (last : (wgShowFields output).reverse.lookup name = some value) (visible : value ≠ [])
    (read : header value = .ok (some json)) :
    (reportedParams header output).get? key = some json := by
  rw [reportedParams, Dict.get?_ofList, ← List.filterMap_reverse]
  exact lookup_header named last visible read

theorem denoted_visible {value : List Char} {range : Int × Int}
    (denoted : denotedRange value = some range) : value ≠ [] := by
  rintro rfl
  cases denoted

/-- A header of the report is that of the last line. -/
theorem parse_ok (reads : ReadsRanges header) (reported : ReportsHeaders output ranges) :
    parseWgShowObfuscation header output =
      .ok (if (reportedParams header output).entries.isEmpty then none
        else some (reportedParams header output)) := by
  have entries : (wgShowFields output).mapM (obfuscationEntry header) =
      .ok ((wgShowFields output).map (entryOf header)) :=
    mapM_ok (fun field member => obfuscationEntry_ok reads (reported.readable field member))
  have collected : ((wgShowFields output).map (entryOf header)).filterMap id =
      (wgShowFields output).filterMap (entryOf header) := by
    rw [List.filterMap_map]
    rfl
  rw [parseWgShowObfuscation, entries]
  simp only [bind, Except.bind, collected]
  rfl

theorem nonempty_of_get? {params : Obfuscation} {key : String} {value : Json}
    (found : params.get? key = some value) : params.entries.isEmpty = false := by
  have member := (params.mem_entries_iff key value).mpr found
  cases entries : params.entries with
  | nil =>
      rw [entries] at member
      cases member
  | cons first rest => rfl

/-- Every parameter but a header is a number, and every key one of those the parsers know. -/
theorem reportedParams_get? {key : String} {value : Json}
    (found : (reportedParams header output).get? key = some value) :
    key ∈ numberNames.map Prod.snd ∧ (∃ number, value = .int number) ∨
      key ∈ headerNames.map Prod.snd ∧ ∃ text, header text = .ok (some value) := by
  rw [reportedParams, Dict.get?_ofList] at found
  obtain ⟨field, -, entry⟩ := List.mem_filterMap.mp (List.mem_reverse.mp (mem_of_lookup found))
  rcases entryOf_named entry with ⟨named, number⟩ | ⟨named, read⟩
  · exact Or.inl ⟨List.mem_map_of_mem (f := Prod.snd) named, number⟩
  · exact Or.inr ⟨List.mem_map_of_mem (f := Prod.snd) named, field.2, read⟩

/-- Entries that are no headers do not depend on the reader. -/
theorem lookup_number {key : String} (noHeader : key ∉ headerNames.map Prod.snd)
    (other : HeaderReader) (fields : List (String × List Char)) :
    (fields.filterMap (entryOf header)).lookup key =
      (fields.filterMap (entryOf other)).lookup key := by
  induction fields with
  | nil => rfl
  | cons field rest ih =>
      cases numbered : numberNames.lookup field.1 with
      | some name =>
          have same : entryOf header field = entryOf other field := by
            simp only [entryOf, obfuscationEntry, numbered]
          rw [List.filterMap_cons, List.filterMap_cons, same]
          cases entryOf other field with
          | none => exact ih
          | some entry => rw [Dict.lookup_cons_eq, Dict.lookup_cons_eq, ih]
      | none =>
          -- an entry of this line would be a header
          have skipped : ∀ reader, ((field :: rest).filterMap (entryOf reader)).lookup key =
              (rest.filterMap (entryOf reader)).lookup key := by
            intro reader
            rw [List.filterMap_cons]
            cases entry : entryOf reader field with
            | none => rfl
            | some pair =>
                have isHeader : pair.1 ∈ headerNames.map Prod.snd := by
                  rcases entryOf_named entry with ⟨named, -⟩ | ⟨named, -⟩
                  · obtain ⟨name, found⟩ : ∃ name, numberNames.lookup field.1 = some name := by
                      have all : ∀ known ∈ numberNames,
                          numberNames.lookup known.1 = some known.2 := by decide
                      exact ⟨_, all _ named⟩
                    rw [numbered] at found
                    cases found
                  · exact List.mem_map_of_mem (f := Prod.snd) named
                have different : key ≠ pair.1 := by
                  rintro rfl
                  exact noHeader isHeader
                rw [Dict.lookup_cons_eq, if_neg different]
          rw [skipped header, skipped other, ih]

theorem agentHeader_number {value : List Char} {json : Json}
    (read : agentHeader value = .ok (some json)) : ∃ number, json = .int number := by
  unfold agentHeader at read
  split at read
  · unfold readDigits at read
    split at read
    · cases read
    · rename_i number _
      obtain rfl := Option.some.inj (Except.ok.inj read)
      exact ⟨number, rfl⟩
  · cases read

/-! ### When the parsers agree -/

/-- Both are missing, or both have the same entries. -/
def SameDict (left right : Option Obfuscation) : Prop :=
  left.map Dict.get? = right.map Dict.get?

/-- A header in effect that is a number, as both parsers read it. -/
theorem reportedParams_number (reported : ReportsHeaders output ranges) (numbers : NumbersOnly output)
    (digits : ∀ value, textIsDigit value = true → header value = readDigits value)
    {key : String} (isHeader : key ∈ headerNames.map Prod.snd) :
    (reportedParams header output).get? key = some (.int (ranges key).1) ∧
      (ranges key).2 = (ranges key).1 := by
  obtain ⟨⟨name, _⟩, named, rfl⟩ := List.mem_map.mp isHeader
  obtain ⟨value, last, denoted⟩ := reported.last name _ named
  have isNumber := numbers name _ named value last
  obtain ⟨read, single⟩ := readDigits_of_denoted isNumber denoted
  exact ⟨reportedParams_header named last (denoted_visible denoted)
    ((digits value isNumber).trans read), single⟩

theorem agentHeader_digits (value : List Char) (digits : textIsDigit value = true) :
    agentHeader value = readDigits value := if_pos digits

theorem backendHeader_digits (value : List Char) (digits : textIsDigit value = true) :
    backendHeader value = readDigits value := if_pos digits

/-- The two parsers return the same dict exactly when the headers in effect are numbers. -/
theorem parsers_agree_iff (reported : ReportsHeaders output ranges) :
    (∃ backend agent, parseWgShowObfuscation backendHeader output = .ok backend ∧
        parseWgShowObfuscation agentHeader output = .ok agent ∧ SameDict agent backend) ↔
      NumbersOnly output := by
  have backendParsed := parse_ok backendHeader_reads reported
  have agentParsed := parse_ok agentHeader_reads reported
  constructor
  · rintro ⟨backend, agent, atBackend, atAgent, same⟩
    intro name key named value last
    by_contra range
    obtain ⟨other, atLast, denoted⟩ := reported.last name key named
    obtain rfl := Option.some.inj (last.symm.trans atLast)
    have text : ∃ shown, backendHeader value = .ok (some (.str shown)) := by
      rw [denotedRange, if_neg range] at denoted
      unfold backendHeader
      rw [if_neg range]
      split at denoted
      · rename_i isRange
        rw [if_pos isRange]
        exact ⟨_, rfl⟩
      · cases denoted
    obtain ⟨shown, read⟩ := text
    have stored : (reportedParams backendHeader output).get? key = some (.str shown) :=
      reportedParams_header named last (denoted_visible denoted) read
    rw [nonempty_of_get? stored] at backendParsed
    obtain rfl := Except.ok.inj (atBackend.symm.trans backendParsed)
    obtain rfl := Except.ok.inj (atAgent.symm.trans agentParsed)
    -- the agent has no text under any key
    cases empty : (reportedParams agentHeader output).entries.isEmpty with
    | true =>
        rw [empty] at same
        cases same
    | false =>
        rw [empty] at same
        have equal := congrFun (Option.some.inj same) key
        rw [stored] at equal
        rcases reportedParams_get? equal with ⟨-, number, impossible⟩ | ⟨-, source, taken⟩
        · cases impossible
        · obtain ⟨number, impossible⟩ := agentHeader_number taken
          cases impossible
  · intro numbers
    have backendNumber : ∀ key ∈ headerNames.map Prod.snd,
        (reportedParams backendHeader output).get? key = some (.int (ranges key).1) :=
      fun _ isHeader => (reportedParams_number reported numbers backendHeader_digits isHeader).1
    have agentNumber : ∀ key ∈ headerNames.map Prod.snd,
        (reportedParams agentHeader output).get? key = some (.int (ranges key).1) :=
      fun _ isHeader => (reportedParams_number reported numbers agentHeader_digits isHeader).1
    have first : "H1" ∈ headerNames.map Prod.snd := by decide
    rw [nonempty_of_get? (backendNumber "H1" first)] at backendParsed
    rw [nonempty_of_get? (agentNumber "H1" first)] at agentParsed
    refine ⟨_, _, backendParsed, agentParsed, congrArg some (funext ?_)⟩
    intro key
    by_cases isHeader : key ∈ headerNames.map Prod.snd
    · rw [agentNumber key isHeader, backendNumber key isHeader]
    · rw [reportedParams, reportedParams, Dict.get?_ofList, Dict.get?_ofList,
        ← List.filterMap_reverse, ← List.filterMap_reverse]
      exact lookup_number isHeader backendHeader _

end Parsing

end VpnSuite.Config
