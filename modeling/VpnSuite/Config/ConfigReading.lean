/-
A built configuration, read back as settings under section headers.

The keys, the numbers and the headers cannot break a line.  The address, the DNS, the
endpoint, the allowed addresses and `I1` to `I5` can: a scope id may hold any character, the
label expression ends in `$`, `int` passes over white space around a port, and the DNS and
the signatures are not checked at all.
-/

import VpnSuite.Config.ConfigLines
import VpnSuite.Config.NodeObfuscation
import VpnSuite.Foundations.IniText

set_option autoImplicit false

namespace VpnSuite.Config

open Foundations
open Foundations.PythonText
open Foundations.IniText

/-! ### The settings the builder writes -/

/-- The parameters a built configuration has. -/
def emittedObfuscation (interface : InterfaceFields) (profile : ConfigProfile)
    (obfuscation : Option Obfuscation) : Obfuscation :=
  match normalizedObfuscation profile obfuscation (effectiveMtu profile interface.mtu) with
  | .ok obf => obf
  | .error _ => Dict.empty

def interfaceEntries (interface : InterfaceFields) (peer : PeerFields) (profile : ConfigProfile)
    (obfuscation : Option Obfuscation) : List (String × String) :=
  [("PrivateKey", (checkedFields interface peer).privateKey),
    ("Address", (checkedFields interface peer).address),
    ("DNS", dnsText interface.dns)] ++
  (((effectiveMtu profile interface.mtu).filter (fun value => 0 < value)).map
    (fun value => ("MTU", toString value))).toList ++
  awgEmitOrder.filterMap (fun key =>
    ((emittedObfuscation interface profile obfuscation).get? key).map
      (fun value => (key, value.toText)))

def peerEntries (interface : InterfaceFields) (peer : PeerFields) : List (String × String) :=
  [("PublicKey", (checkedFields interface peer).publicKey),
    ("Endpoint", (checkedFields interface peer).endpoint),
    ("AllowedIPs", (checkedFields interface peer).allowedIps),
    ("PersistentKeepalive", toString peer.persistentKeepalive)] ++
  ((peer.presharedKey.bind orNone).map (fun key =>
    ("PresharedKey", textOf (validateKeyB64 key "PresharedKey")))).toList

/-- The sections of a built configuration, with the values the checks return. -/
def builtSections (interface : InterfaceFields) (peer : PeerFields) (profile : ConfigProfile)
    (obfuscation : Option Obfuscation) : List IniSection :=
  [⟨interfaceHeader, interfaceEntries interface peer profile obfuscation, by decide⟩,
    ⟨peerHeader, peerEntries interface peer, by decide⟩]

/-- The text reads as the two sections and nothing else, each key once. -/
structure ReadsBack (breaks : LineBreaks) (interface : InterfaceFields) (peer : PeerFields)
    (profile : ConfigProfile) (obfuscation : Option Obfuscation) (text : String) : Prop where
  sections : readLines breaks text.toList =
    (.header interfaceHeader ::
      (interfaceEntries interface peer profile obfuscation).map settingRead) ++
    (.header peerHeader :: (peerEntries interface peer).map settingRead)
  once : ((interfaceEntries interface peer profile obfuscation ++
    peerEntries interface peer).map Prod.fst).Nodup

/-! ### What is left open -/

/-- `I1` to `I5` as they are written. -/
def signatureValues (obfuscation : Option Obfuscation) : List (List Char) :=
  signatureKeys.filterMap (fun key =>
    match obfuscation.bind (fun obf => setValue obf key) with
    | some (.str raw) => some (stripChars raw.toList)
    | _ => none)

/-- The items of a comma-separated list. -/
def allowedItems (allowedIps : String) : List (List Char) :=
  (allowedIps.toList.splitOn ',').map stripChars

/-- The values whose characters no check restricts. -/
def openValues (interface : InterfaceFields) (peer : PeerFields)
    (obfuscation : Option Obfuscation) : List (List Char) :=
  stripChars interface.address.toList :: (dnsText interface.dns).toList ::
    stripChars peer.endpoint.toList ::
    (allowedItems peer.allowedIps ++ signatureValues obfuscation)

/-- The open values as they are written, the items of the list in one. -/
def shownValues (interface : InterfaceFields) (peer : PeerFields)
    (obfuscation : Option Obfuscation) : List (List Char) :=
  stripChars interface.address.toList :: (dnsText interface.dns).toList ::
    stripChars peer.endpoint.toList :: ", ".toList.intercalate (allowedItems peer.allowedIps) ::
    signatureValues obfuscation

/-! ### Values -/

theorem stripChars_of_plain {value : List Char} (plain : isPlainValue value = true) :
    stripChars value = value := by
  obtain ⟨_, visible⟩ := (isPlainValue_iff value).mp plain
  exact (stripChars_of_ends (fun char atHead => (visible char (List.mem_of_mem_head? atHead)).1)
    (fun char atEnd => (visible char (List.mem_of_mem_getLast? atEnd)).1)).2.2

theorem isClean_of_plain (breaks : LineBreaks) {value : List Char}
    (plain : isPlainValue value = true) : isClean breaks value = true := by
  obtain ⟨_, visible⟩ := (isPlainValue_iff value).mp plain
  rw [isClean_iff]
  intro char member
  obtain ⟨noSpace, noMark⟩ := visible char member
  constructor
  · rw [← Bool.not_eq_true]
    intro isBreak
    rw [breaks.isSpace_of_break char isBreak] at noSpace
    cases noSpace
  · rintro rfl
    cases noMark

theorem validateAllowedIps_ok {allowedIps text : String}
    (checked : validateAllowedIps allowedIps = .ok text) :
    text.toList = ", ".toList.intercalate (allowedItems allowedIps) ∧
      ∀ item ∈ allowedItems allowedIps, item ≠ [] ∧ stripChars item = item := by
  unfold validateAllowedIps at checked
  dsimp only at checked
  split at checked
  · cases checked
  · split at checked
    · cases checked
    · rename_i visible
      split at checked
      · cases checked
      · obtain rfl := Except.ok.inj checked
        constructor
        · rw [join, String.toList_ofList, List.map_map]
          simp [allowedItems, Function.comp_def]
        · intro item member
          constructor
          · rintro rfl
            exact visible (List.any_eq_true.mpr ⟨[], member, rfl⟩)
          · obtain ⟨raw, _, rfl⟩ := List.mem_map.mp member
            exact stripChars_idempotent raw

theorem strip_dnsText (dns : Option String) :
    stripChars (dnsText dns).toList = (dnsText dns).toList := by
  unfold dnsText
  split
  · decide
  · rw [strip, String.toList_ofList, stripChars_idempotent]

theorem head?_intercalate {item : List Char} (separator : List Char) (rest : List (List Char))
    (nonempty : item ≠ []) : (separator.intercalate (item :: rest)).head? = item.head? := by
  by_cases more : rest = []
  · rw [more, List.intercalate_singleton]
  · rw [List.intercalate_cons_of_ne_nil more, List.append_assoc,
      List.head?_append_of_ne_nil _ nonempty]

theorem getLast?_intercalate {items : List (List Char)} (separator : List Char)
    (nonempty : ∀ item ∈ items, item ≠ []) :
    (separator.intercalate items).getLast? = items.getLast?.bind List.getLast? := by
  induction items with
  | nil => rfl
  | cons item rest ih =>
      by_cases more : rest = []
      · rw [more, List.intercalate_singleton, List.getLast?_singleton, Option.bind_some]
      · obtain ⟨next, others, rfl⟩ := List.exists_cons_of_ne_nil more
        have visible : separator.intercalate (next :: others) ≠ [] := by
          intro empty
          have first := head?_intercalate separator others (nonempty next (by simp))
          rw [empty, List.head?_nil, eq_comm, List.head?_eq_none_iff] at first
          exact nonempty next (by simp) first
        rw [List.intercalate_cons_of_ne_nil more, List.getLast?_append_of_ne_nil _ visible,
          ih (fun other member => nonempty other (List.mem_cons_of_mem item member)),
          List.getLast?_cons_cons]

/-- Joined texts without white space at their ends have none at the ends of the whole. -/
theorem stripChars_intercalate {items : List (List Char)} (separator : List Char)
    (stripped : ∀ item ∈ items, item ≠ [] ∧ stripChars item = item) :
    stripChars (separator.intercalate items) = separator.intercalate items := by
  refine (stripChars_of_ends ?_ ?_).2.2
  · cases items with
    | nil => simp
    | cons item rest =>
        obtain ⟨nonempty, whole⟩ := stripped item List.mem_cons_self
        intro char atHead
        rw [head?_intercalate separator rest nonempty] at atHead
        obtain ⟨others, rfl⟩ := List.head?_eq_some_iff.mp atHead
        exact isSpace_of_stripChars_cons whole
  · intro char atEnd
    rw [getLast?_intercalate separator (fun item member => (stripped item member).1)] at atEnd
    obtain ⟨item, isLast, atEnd⟩ := Option.bind_eq_some_iff.mp atEnd
    obtain ⟨_, whole⟩ := stripped item (List.mem_of_mem_getLast? isLast)
    exact isSpace_of_trimmed (whole ▸ stripChars_trimmed item) atEnd

theorem isClean_append (breaks : LineBreaks) (front back : List Char) :
    isClean breaks (front ++ back) = (isClean breaks front && isClean breaks back) :=
  List.all_append

theorem isClean_separator (breaks : LineBreaks) : isClean breaks ", ".toList = true := by
  have comma : breaks.isBreak ',' = false := by
    rw [← Bool.not_eq_true]
    intro isBreak
    exact absurd (breaks.isSpace_of_break _ isBreak) (by decide)
  rw [isClean_iff]
  intro char member
  have known : char = ',' ∨ char = ' ' := by simpa using member
  rcases known with rfl | rfl
  · exact ⟨comma, by decide⟩
  · exact ⟨breaks.blank, by decide⟩

theorem isClean_intercalate {breaks : LineBreaks} {separator : List Char}
    (plain : isClean breaks separator = true) (items : List (List Char)) :
    isClean breaks (separator.intercalate items) = true ↔
      ∀ item ∈ items, isClean breaks item = true := by
  induction items with
  | nil => simp [isClean]
  | cons item rest ih =>
      by_cases more : rest = []
      · subst more
        simp
      · rw [List.intercalate_cons_of_ne_nil more, isClean_append, isClean_append, plain,
          Bool.and_true, Bool.and_eq_true, ih]
        simp

/-! ### The settings of a built configuration -/

theorem stripped_of_strip {raw text : String} (same : text = strip raw) :
    text.toList = stripChars raw.toList ∧ stripChars text.toList = text.toList := by
  rw [same, strip, String.toList_ofList]
  exact ⟨rfl, stripChars_idempotent _⟩

theorem settingLine_chars (key value : String) :
    (settingLine key value).toList = settingChars (key, value) := by
  rw [settingLine_toList, settingChars, List.append_assoc]

theorem mtuLines_entries (mtu : Option Int) :
    (mtuLines mtu).map String.toList =
      (((mtu.filter (fun value => 0 < value)).map
        (fun value => ("MTU", toString value))).toList).map settingChars := by
  unfold mtuLines
  cases mtu.filter (fun value => 0 < value) with
  | none => rfl
  | some value => exact congrArg List.singleton (settingLine_chars "MTU" (toString value))

theorem obfuscationLines_entries (obf : Obfuscation) :
    (obfuscationLines obf).map String.toList =
      (awgEmitOrder.filterMap (fun key =>
        (obf.get? key).map (fun value => (key, value.toText)))).map settingChars := by
  rw [obfuscationLines, List.map_filterMap, List.map_filterMap]
  congr 1
  funext key
  cases obf.get? key with
  | none => rfl
  | some value => exact congrArg some (settingLine_chars key value.toText)

theorem presharedKeyLines_entries {presharedKey : Option String} {lines : List String}
    (keyed : presharedKeyLines presharedKey = .ok lines) :
    lines.map String.toList =
      (((presharedKey.bind orNone).map (fun key =>
        ("PresharedKey", textOf (validateKeyB64 key "PresharedKey")))).toList).map settingChars := by
  unfold presharedKeyLines at keyed
  cases given : presharedKey.bind orNone with
  | none =>
      rw [given] at keyed
      obtain rfl := Except.ok.inj keyed
      rfl
  | some key =>
      rw [given] at keyed
      dsimp only at keyed
      cases accepted : validateKeyB64 key "PresharedKey" with
      | error error =>
          rw [accepted] at keyed
          cases keyed
      | ok checkedKey =>
          rw [accepted] at keyed
          obtain rfl := Except.ok.inj keyed
          rw [Option.map_some, accepted]
          exact congrArg List.singleton (settingLine_chars "PresharedKey" checkedKey)

theorem endedLines_join {lines : List String} (some : lines ≠ []) :
    (join "\n" lines ++ "\n").toList = endedLines (lines.map String.toList) := by
  have joined : ∀ items : List (List Char), items ≠ [] →
      joinLines items ++ ['\n'] = endedLines items := by
    intro items
    induction items with
    | nil => exact fun absent => absurd rfl absent
    | cons item rest ih =>
        intro _
        by_cases more : rest = []
        · subst more
          simp [joinLines, endedLines]
        · rw [joinLines_cons item more, endedLines, List.flatMap_cons, ← endedLines, ← ih more]
          simp
  rw [String.toList_append, join, String.toList_ofList]
  exact joined _ (by simpa using some)

/-- The keys of a configuration, in the order in which they are written. -/
def settingKeys : List String :=
  ["PrivateKey", "Address", "DNS", "MTU"] ++ awgEmitOrder ++
    ["PublicKey", "Endpoint", "AllowedIPs", "PersistentKeepalive", "PresharedKey"]

theorem filterMap_keys {α : Type} (get : String → Option α) (keys : List String) :
    ((keys.filterMap (fun key => (get key).map (fun value => (key, value)))).map
      Prod.fst).Sublist keys := by
  induction keys with
  | nil => exact List.Sublist.slnil
  | cons key rest ih =>
      rw [List.filterMap_cons]
      cases get key with
      | none => exact ih.cons key
      | some value => exact ih.cons_cons key

theorem settingKeys_of_entries (interface : InterfaceFields) (peer : PeerFields)
    (profile : ConfigProfile) (obfuscation : Option Obfuscation) :
    ((interfaceEntries interface peer profile obfuscation ++ peerEntries interface peer).map
      Prod.fst).Sublist settingKeys := by
  have optional : ∀ {α : Type} (key : String) (value : α → String) (found : Option α),
      (((found.map (fun present => (key, value present))).toList).map Prod.fst).Sublist [key] := by
    intro α key value found
    cases found with
    | none => exact List.nil_sublist _
    | some present => exact List.Sublist.refl _
  have parameters := filterMap_keys (fun key =>
    ((emittedObfuscation interface profile obfuscation).get? key).map Json.toText) awgEmitOrder
  simp only [Option.map_map, Function.comp_def] at parameters
  rw [interfaceEntries, peerEntries, List.map_append, List.map_append, List.map_append,
    List.map_append]
  exact (((List.Sublist.refl _).append (optional "MTU" _ _)).append parameters).append
    ((List.Sublist.refl _).append (optional "PresharedKey" _ _))

theorem settingKeys_of_listed {interface : InterfaceFields} {peer : PeerFields}
    {profile : ConfigProfile} {obfuscation : Option Obfuscation} {part : IniSection}
    (member : part ∈ builtSections interface peer profile obfuscation)
    {entry : String × String} (listed : entry ∈ part.entries) : entry.1 ∈ settingKeys := by
  have subset := (settingKeys_of_entries interface peer profile obfuscation).subset
  simp only [builtSections, List.mem_cons, List.not_mem_nil, or_false] at member
  rcases member with rfl | rfl
  · exact subset (List.mem_map_of_mem (List.mem_append_left _ listed))
  · exact subset (List.mem_map_of_mem (List.mem_append_right _ listed))

section Built

variable {interface : InterfaceFields} {peer : PeerFields} {profile : ConfigProfile}
  {obfuscation : Option Obfuscation} {text : String}
  (built : buildConfig interface peer profile obfuscation = .ok text)

include built

/-- The parameters that are written are plain or signatures. -/
theorem emitted_normalised :
    (∀ key value, (emittedObfuscation interface profile obfuscation).get? key = some value →
      isPlainValue value.toText.toList = true ∨
        (stripChars value.toText.toList = value.toText.toList ∧
          value.toText.toList ∈ signatureValues obfuscation)) ∧
      ∀ value ∈ signatureValues obfuscation, ∃ key ∈ awgEmitOrder, ∃ shown,
        (emittedObfuscation interface profile obfuscation).get? key = some shown ∧
          shown.toText.toList = value := by
  obtain ⟨obf, presharedKey, _, normalized, _, _⟩ := buildConfig_ok built
  have emitted : emittedObfuscation interface profile obfuscation = obf := by
    rw [emittedObfuscation, normalized]
  rw [emitted]
  cases obfuscation with
  | none =>
      obtain rfl := Except.ok.inj normalized
      constructor
      · intro key value present
        cases present
      · intro value listed
        cases listed
  | some source =>
      by_cases universal : profile = .wireguardUniversal
      · subst universal
        have noErrors := buildConfig_noErrors built
        have empty : source.entries.isEmpty = true := by
          unfold fieldErrors at noErrors
          simp only [List.append_eq_nil_iff, true_and] at noErrors
          obtain ⟨_, allowed⟩ := noErrors
          split at allowed
          · cases allowed
          · rename_i absent
            simpa [isPresent] using absent
        obtain rfl := Except.ok.inj normalized
        constructor
        · intro key value present
          cases present
        · intro value listed
          obtain ⟨key, _, isSet⟩ := List.mem_filterMap.mp listed
          rw [Option.bind_some, setValue_of_isEmpty empty] at isSet
          cases isSet
      · have normalised := normalizedObfuscation_ok universal normalized
        constructor
        · intro key value present
          rcases normalised.entries key value present with plain | ⟨signature, raw, isSet, _, rfl⟩
          · exact Or.inl plain
          · refine Or.inr ⟨(stripped_of_strip rfl).2, List.mem_filterMap.mpr ⟨key, signature, ?_⟩⟩
            rw [Option.bind_some, isSet]
            exact congrArg some (stripped_of_strip rfl).1.symm
        · intro value listed
          obtain ⟨key, signature, isSet⟩ := List.mem_filterMap.mp listed
          rw [Option.bind_some] at isSet
          split at isSet
          · rename_i raw stored
            have ordered : ∀ key ∈ signatureKeys, key ∈ awgEmitOrder := by decide
            exact ⟨key, ordered key signature, _, normalised.signatures key signature raw stored,
              (stripped_of_strip rfl).1.trans (Option.some.inj isSet)⟩
          · cases isSet

theorem built_toList :
    text.toList = endedLines (sectionLines (builtSections interface peer profile obfuscation)) := by
  obtain ⟨obf, presharedKey, checked, normalized, keyed, rfl⟩ := buildConfig_ok built
  have emitted : emittedObfuscation interface profile obfuscation = obf := by
    rw [emittedObfuscation, normalized]
  have someLines : configLines (checkedFields interface peer) (dnsText interface.dns)
      (effectiveMtu profile interface.mtu) obf peer.persistentKeepalive presharedKey ≠ [] := by
    rw [configLines]
    exact List.cons_ne_nil _ _
  rw [endedLines_join someLines]
  apply congrArg endedLines
  rw [configLines, List.map_append, List.map_append, List.map_append, List.map_append,
    mtuLines_entries, obfuscationLines_entries, presharedKeyLines_entries keyed, ← emitted]
  rw [builtSections, sectionLines_cons _ (List.cons_ne_nil _ _), sectionLines, IniSection.lines,
    IniSection.lines, interfaceEntries, peerEntries, List.map_append, List.map_append, List.map_append]
  -- The optional parts are the same on both sides; only the fixed lines are compared.
  generalize List.map settingChars (Option.toList _) = mtuPart
  generalize List.map settingChars (List.filterMap _ _) = parameterPart
  generalize List.map settingChars (Option.toList _) = keyPart
  simp only [List.map_cons, List.map_nil, settingLine_chars, List.append_assoc, List.cons_append,
    List.nil_append]
  rfl

/-- The joined list of allowed addresses. -/
theorem built_allowedIps :
    (checkedFields interface peer).allowedIps.toList =
        ", ".toList.intercalate (allowedItems peer.allowedIps) ∧
      ∀ item ∈ allowedItems peer.allowedIps, item ≠ [] ∧ stripChars item = item := by
  obtain ⟨_, _, checked, _, _, _⟩ := buildConfig_ok built
  exact validateAllowedIps_ok checked.allowedIps

theorem interfaceEntry_cases {entry : String × String}
    (listed : entry ∈ interfaceEntries interface peer profile obfuscation) :
    isPlainValue entry.2.toList = true ∨
      (stripChars entry.2.toList = entry.2.toList ∧
        entry.2.toList ∈ shownValues interface peer obfuscation) := by
  obtain ⟨_, _, checked, _, _, _⟩ := buildConfig_ok built
  rw [interfaceEntries, List.append_assoc] at listed
  rcases List.mem_append.mp listed with fixed | parameters
  · simp only [List.mem_cons, List.not_mem_nil, or_false] at fixed
    rcases fixed with rfl | rfl | rfl
    · obtain ⟨_, nonempty, tokens⟩ := validateKeyB64_ok checked.privateKey
      exact Or.inl (isPlainValue_of_tokens nonempty tokens)
    · obtain ⟨raw, stripped⟩ := stripped_of_strip (validateAddress_ok checked.address).1
      refine Or.inr ⟨stripped, ?_⟩
      rw [raw]
      exact List.mem_cons_self
    · exact Or.inr ⟨strip_dnsText interface.dns, by simp [shownValues]⟩
  · rcases List.mem_append.mp parameters with mtu | parameter
    · obtain ⟨value, _, rfl⟩ := Option.map_eq_some_iff.mp (Option.mem_toList.mp mtu)
      obtain ⟨nonempty, tokens⟩ := toString_tokens value
      exact Or.inl (isPlainValue_of_tokens nonempty tokens)
    · obtain ⟨key, _, present⟩ := List.mem_filterMap.mp parameter
      obtain ⟨value, stored, rfl⟩ := Option.map_eq_some_iff.mp present
      rcases (emitted_normalised built).1 key value stored with plain | ⟨stripped, signature⟩
      · exact Or.inl plain
      · refine Or.inr ⟨stripped, ?_⟩
        simp only [shownValues, List.mem_cons]
        exact Or.inr (Or.inr (Or.inr (Or.inr signature)))

theorem peerEntry_cases {entry : String × String} (listed : entry ∈ peerEntries interface peer) :
    isPlainValue entry.2.toList = true ∨
      (stripChars entry.2.toList = entry.2.toList ∧
        entry.2.toList ∈ shownValues interface peer obfuscation) := by
  obtain ⟨_, _, checked, _, keyed, _⟩ := buildConfig_ok built
  rcases List.mem_append.mp listed with fixed | preshared
  · simp only [List.mem_cons, List.not_mem_nil, or_false] at fixed
    rcases fixed with rfl | rfl | rfl | rfl
    · obtain ⟨_, nonempty, tokens⟩ := validateKeyB64_ok checked.publicKey
      exact Or.inl (isPlainValue_of_tokens nonempty tokens)
    · obtain ⟨raw, stripped⟩ := stripped_of_strip (validateEndpoint_ok checked.endpoint).1
      refine Or.inr ⟨stripped, ?_⟩
      rw [raw]
      simp [shownValues]
    · obtain ⟨whole, items⟩ := built_allowedIps built
      dsimp only
      rw [whole]
      exact Or.inr ⟨stripChars_intercalate _ items, by simp [shownValues]⟩
    · obtain ⟨nonempty, tokens⟩ := toString_tokens peer.persistentKeepalive
      exact Or.inl (isPlainValue_of_tokens nonempty tokens)
  · obtain ⟨key, given, rfl⟩ := Option.map_eq_some_iff.mp (Option.mem_toList.mp preshared)
    obtain ⟨raw, stored, present⟩ := Option.bind_eq_some_iff.mp given
    obtain ⟨rfl, nonblank⟩ := orNone_eq_some present
    rw [stored] at keyed
    obtain ⟨text, accepted, _⟩ := presharedKeyLines_ok nonblank keyed
    obtain ⟨_, nonempty, tokens⟩ := validateKeyB64_ok accepted
    left
    dsimp only
    rw [accepted]
    exact isPlainValue_of_tokens nonempty tokens

/-- Every written value is plain or one of those that are shown as they are given. -/
theorem entry_cases {part : IniSection}
    (member : part ∈ builtSections interface peer profile obfuscation)
    {entry : String × String} (listed : entry ∈ part.entries) :
    isPlainValue entry.2.toList = true ∨
      (stripChars entry.2.toList = entry.2.toList ∧
        entry.2.toList ∈ shownValues interface peer obfuscation) := by
  simp only [builtSections, List.mem_cons, List.not_mem_nil, or_false] at member
  rcases member with rfl | rfl
  · exact interfaceEntry_cases built listed
  · exact peerEntry_cases built listed

theorem builtSections_writable :
    ∀ part ∈ builtSections interface peer profile obfuscation, Writable part.entries := by
  have keys : settingKeys.all (fun key => isKey key.toList) = true := by decide
  intro part member entry listed
  refine ⟨List.all_eq_true.mp keys entry.1 (settingKeys_of_listed member listed), ?_⟩
  rcases entry_cases built member listed with plain | ⟨stripped, _⟩
  · exact stripChars_of_plain plain
  · exact stripped

/-- What holds of plain values holds of all written ones when it holds of the shown ones. -/
theorem entries_shown_iff {holds : List Char → Prop}
    (plain : ∀ value, isPlainValue value = true → holds value) :
    (∀ part ∈ builtSections interface peer profile obfuscation, ∀ entry ∈ part.entries,
        holds entry.2.toList) ↔
      ∀ value ∈ shownValues interface peer obfuscation, holds value := by
  constructor
  · intro all
    have inInterface : ∀ entry ∈ interfaceEntries interface peer profile obfuscation,
        holds entry.2.toList :=
      fun entry listed => all _ List.mem_cons_self entry listed
    have inPeer : ∀ entry ∈ peerEntries interface peer, holds entry.2.toList :=
      fun entry listed => all _ (List.mem_cons_of_mem _ List.mem_cons_self) entry listed
    obtain ⟨_, _, checked, _, _, _⟩ := buildConfig_ok built
    intro value isShown
    simp only [shownValues, List.mem_cons] at isShown
    rcases isShown with rfl | rfl | rfl | rfl | signature
    · rw [← (stripped_of_strip (validateAddress_ok checked.address).1).1]
      exact inInterface ("Address", _) (by simp [interfaceEntries])
    · exact inInterface ("DNS", dnsText interface.dns) (by simp [interfaceEntries])
    · rw [← (stripped_of_strip (validateEndpoint_ok checked.endpoint).1).1]
      exact inPeer ("Endpoint", _) (by simp [peerEntries])
    · rw [← (built_allowedIps built).1]
      exact inPeer ("AllowedIPs", _) (by simp [peerEntries])
    · obtain ⟨key, ordered, shown, stored, rfl⟩ := (emitted_normalised built).2 value signature
      refine inInterface (key, shown.toText) (List.mem_append_right _ ?_)
      exact List.mem_filterMap.mpr ⟨key, ordered, by rw [stored]; rfl⟩
  · intro shown part member entry listed
    rcases entry_cases built member listed with isPlain | ⟨_, isShown⟩
    · exact plain _ isPlain
    · exact shown _ isShown

/-- The written values are clean when the open ones are. -/
theorem entries_clean_iff (breaks : LineBreaks) :
    (∀ part ∈ builtSections interface peer profile obfuscation, ∀ entry ∈ part.entries,
        isClean breaks entry.2.toList = true) ↔
      ∀ value ∈ openValues interface peer obfuscation, isClean breaks value = true := by
  have joined := isClean_intercalate (isClean_separator breaks) (allowedItems peer.allowedIps)
  rw [entries_shown_iff built (fun value => isClean_of_plain breaks)]
  simp only [shownValues, openValues, List.forall_mem_cons, List.forall_mem_append, joined]

/-- A built configuration is read back exactly when no open value holds a line break or a
hash mark. -/
theorem config_reads_back_iff (breaks : LineBreaks) :
    ReadsBack breaks interface peer profile obfuscation text ↔
      ∀ value ∈ openValues interface peer obfuscation, isClean breaks value = true := by
  have readBack := readLines_written_iff breaks (builtSections_writable built)
  have shape : (builtSections interface peer profile obfuscation).flatMap IniSection.read =
      (.header interfaceHeader ::
        (interfaceEntries interface peer profile obfuscation).map settingRead) ++
      (.header peerHeader :: (peerEntries interface peer).map settingRead) := by
    rw [builtSections, List.flatMap_cons, List.flatMap_singleton]
    rfl
  rw [entries_clean_iff built, ← built_toList built, shape] at readBack
  rw [← readBack]
  constructor
  · intro reads
    exact reads.sections
  · intro sections
    refine ⟨sections, ?_⟩
    have distinct : settingKeys.Nodup := by decide
    exact distinct.sublist (settingKeys_of_entries interface peer profile obfuscation)

end Built

/-! ### Two notions of a line break -/

/-- The line feed alone, as `wg` and `configparser` read a file. -/
def lineFeeds : LineBreaks where
  isBreak char := char = '\n'
  feed := rfl
  isSpace_of_break := by
    intro char isFeed
    rw [of_decide_eq_true isFeed]
    decide
  blank := rfl

/-- The boundaries of `str.splitlines`. -/
def lineBoundaries : LineBreaks where
  isBreak := isLineBoundary
  feed := by decide
  isSpace_of_break := by
    intro char isBoundary
    simp only [isLineBoundary, List.mem_cons, List.not_mem_nil, or_false,
      decide_eq_true_eq] at isBoundary
    simp only [isSpace, Bool.or_eq_true, Bool.and_eq_true, decide_eq_true_eq, beq_iff_eq]
    omega
  blank := by decide

def sampleInterface (dns : String) : InterfaceFields :=
  ⟨"AAAAAAAAAAAAAAAAAAAAAAAAAAAAAAAAAAAAAAAAAAA=", "10.8.1.2/32", some dns, none⟩

def samplePeer : PeerFields :=
  ⟨"AQAAAAAAAAAAAAAAAAAAAAAAAAAAAAAAAAAAAAAAAAA=", "vpn.example.com:51820", "0.0.0.0/0, ::/0", 15,
    none⟩

theorem sample_reads_back :
    ∃ text, buildConfig (sampleInterface "1.1.1.1") samplePeer .awg20Asc
        (some (Dict.ofList [("Jc", .int 3), ("I1", .str "<b 0xc0>")])) = .ok text ∧
      ReadsBack lineBoundaries (sampleInterface "1.1.1.1") samplePeer .awg20Asc
        (some (Dict.ofList [("Jc", .int 3), ("I1", .str "<b 0xc0>")])) text := by
  have isBuilt : (buildConfig (sampleInterface "1.1.1.1") samplePeer .awg20Asc
      (some (Dict.ofList [("Jc", .int 3), ("I1", .str "<b 0xc0>")]))).toOption.isSome = true := by
    decide +kernel
  cases built : buildConfig (sampleInterface "1.1.1.1") samplePeer .awg20Asc
      (some (Dict.ofList [("Jc", .int 3), ("I1", .str "<b 0xc0>")])) with
  | error errors =>
      rw [built] at isBuilt
      cases isBuilt
  | ok text =>
      refine ⟨text, rfl, (config_reads_back_iff built lineBoundaries).mpr ?_⟩
      decide +kernel

/-- The DNS is not checked, so that it adds a directive. -/
theorem dns_adds_directive :
    ∃ text, buildConfig (sampleInterface "1.1.1.1\nPostUp = reboot") samplePeer
        .wireguardUniversal none = .ok text ∧
      .setting "PostUp".toList "reboot".toList ∈ readLines lineFeeds text.toList ∧
      ¬ ReadsBack lineFeeds (sampleInterface "1.1.1.1\nPostUp = reboot") samplePeer
        .wireguardUniversal none text := by
  have isBuilt : (buildConfig (sampleInterface "1.1.1.1\nPostUp = reboot") samplePeer
      .wireguardUniversal none).toOption.isSome = true := by
    decide +kernel
  cases built : buildConfig (sampleInterface "1.1.1.1\nPostUp = reboot") samplePeer
      .wireguardUniversal none with
  | error errors =>
      rw [built] at isBuilt
      cases isBuilt
  | ok text =>
      refine ⟨text, rfl, by rw [built_toList built]; decide +kernel, ?_⟩
      intro reads
      have written : settingRead ("DNS", dnsText (some "1.1.1.1\nPostUp = reboot")) ∈
          readLines lineFeeds text.toList := by
        rw [reads.sections]
        simp [interfaceEntries, sampleInterface]
      have clean := isClean_of_read written
      revert clean
      decide +kernel

end VpnSuite.Config
