/-
The headers of a node in the configurations of its clients (`get_obfuscation_from_node` in
`services/node_runtime_docker.py` and `services/node_runtime_agent.py`, and the resync in
`services/issue_service.py` and `services/admin_issue_service.py`).

The backend asks the node itself, or takes what the agent has sent with its heartbeat.  The
issue paths make integers of the headers before they merge the report with the profile, and
nothing catches the `ValueError` of a range.  With plain numbers the report goes through.
-/

import VpnSuite.Config.NodeObfuscation
import VpnSuite.Fleet.SameConfigs

set_option autoImplicit false

namespace VpnSuite.Fleet

open Foundations
open Foundations.PythonText
open Foundations.LinePasses
open VpnSuite.Config
open VpnSuite.ControlPlane (LiveSources sampleKey)

/-! ### What the node is asked for -/

/-- The agent's report, unless a header is missing. -/
def obfuscationFromHeartbeat (reported : Option Obfuscation) : Option Obfuscation :=
  reported.filter (fun obf => headerKeys.all (fun key => (setValue obf key).isSome))

/-- The three calls return when the node reports nothing. -/
structure Issuable (settings : IssueSettings) (sources : LiveSources) (answers : RuntimeAnswers)
    (server : IssueServer) (keys : ClientKeys) : Prop where
  adapter : sources.adapter.isSome = true
  issue : ∃ configs, issueConfigs settings sources { answers with obfuscation := .ok none } server
    keys = .ok configs
  adminIssue : ∃ configs, adminIssueConfigs settings sources
    { answers with obfuscation := .ok none } server keys = .ok configs
  rotate : ∃ configs, rotateConfigs settings sources { answers with obfuscation := .ok none }
    server keys = .ok configs

/-- The numbers of the parameters are in range for the AWG 2.0 profile. -/
def NumbersInRange (obf : Obfuscation) (mtu : Int) : Prop :=
  ∃ numbers, collect (readNumber (checkAwg2Number (some mtu)) obf)
      ["Jc", "Jmin", "Jmax", "S1", "S2", "S3", "S4"] = .ok numbers ∧
    validateS1S2 numbers = .ok () ∧ validateJminJmax numbers = .ok ()

/-- The numbers of the report are in range, those it lacks being the ones of the profile. -/
def ReportInRange (settings : IssueSettings) (server : IssueServer) (reported : Obfuscation) :
    Prop :=
  ∀ base link, getObfuscationParams (requestParamsWithServerH settings.fleet.nodeMode
      (server.firstProfile.bind ServerProfile.requestParams)) = .ok base →
    linkSettings server = .ok link →
    NumbersInRange (mergeObfuscation base reported) link.mtu

/-! ### What a configuration shows -/

/-- A range as a header. -/
def rangeValue (range : Int × Int) : String :=
  if range.1 = range.2 then toString range.1 else toString range.1 ++ "-" ++ toString range.2

def setsKey (key line : String) : Bool := (key ++ " = ").toList.isPrefixOf line.toList

/-- The text is made of lines, perhaps sanitised, and for every header exactly one of them sets
it, to the range of the node; the text shows that line. -/
structure EmitsHeaders (ranges : String → Int × Int) (text : String) : Prop where
  written : ∃ lines : List String,
    (text = join "\n" lines ++ "\n" ∨
      text = sanitizeAwgConf (sanitizeAwgConf (join "\n" lines ++ "\n"))) ∧
    ∀ key ∈ headerKeys, lines.filter (setsKey key) = [settingLine key (rangeValue (ranges key))]
  shown : ∀ key ∈ headerKeys,
    (settingLine key (rangeValue (ranges key))).toList ∈ linesOf text.toList

structure ConfigsEmit (ranges : String → Int × Int) (configs : ClientConfigs) : Prop where
  awg : EmitsHeaders ranges configs.awg
  wgObf : EmitsHeaders ranges configs.wgObf

/-- With this report the three calls return wherever nothing else is in their way, and their
configurations have the headers of the node. -/
def CarriesHeaders (ranges : String → Int × Int) (reported : Option Obfuscation) : Prop :=
  ∃ obf, reported = some obf ∧ ∀ settings sources answers server keys,
    Issuable settings sources answers server keys → ReportInRange settings server obf →
    ∃ issued admin rotated,
      issueConfigs settings sources { answers with obfuscation := .ok reported } server keys =
          .ok issued ∧
        adminIssueConfigs settings sources { answers with obfuscation := .ok reported } server keys =
          .ok admin ∧
        rotateConfigs settings sources { answers with obfuscation := .ok reported } server keys =
          .ok rotated ∧
        ConfigsEmit ranges issued ∧ ConfigsEmit ranges admin ∧ ConfigsEmit ranges rotated

/-! ### A report of numbers -/

/-- A report with a number for every header, numbers for the rest, and no other keys. -/
structure NumericReport (ranges : String → Int × Int) (reported : Obfuscation) : Prop where
  headers : ∀ key ∈ headerKeys, reported.get? key = some (.int (ranges key).1)
  single : ∀ key ∈ headerKeys, (ranges key).2 = (ranges key).1
  bounded : ∀ key ∈ headerKeys, 1 ≤ (ranges key).1 ∧ (ranges key).1 ≤ headerMax
  distinct : ∀ left ∈ headerKeys, ∀ right ∈ headerKeys, left ≠ right →
    (ranges left).1 ≠ (ranges right).1
  known : ∀ key value, reported.get? key = some value →
    key ∈ ["Jc", "Jmin", "Jmax", "S1", "S2", "S3", "S4"] ∨ key ∈ headerKeys

section Report

variable {ranges : String → Int × Int} {base reported : Obfuscation}

theorem get?_mergeObfuscation (key : String) :
    (mergeObfuscation base reported).get? key = (reported.get? key).or (base.get? key) :=
  Dict.get?_foldl_set base reported key

theorem NumericReport.merged_header (report : NumericReport ranges reported) {key : String}
    (isHeader : key ∈ headerKeys) :
    (mergeObfuscation base reported).get? key = some (.int (ranges key).1) := by
  rw [get?_mergeObfuscation, report.headers key isHeader]
  rfl

theorem setValue_of_get? {obf : Obfuscation} {key : String} {number : Int}
    (stored : obf.get? key = some (.int number)) : setValue obf key = some (.int number) := by
  rw [setValue, stored]

theorem NumericReport.withNode (report : NumericReport ranges reported) :
    withNodeObfuscation base (some reported) = .ok (mergeObfuscation base reported) := by
  have set : headerKeys.all (fun key => (setValue reported key).isSome) = true := by
    rw [List.all_eq_true]
    intro key isHeader
    rw [setValue_of_get? (report.headers key isHeader)]
    rfl
  have read : headerKeys.mapM (fun key => readInteger ((reported.get? key).getD .null)) =
      .ok (headerKeys.map (fun key => (ranges key).1)) := by
    apply mapM_ok
    intro key isHeader
    rw [report.headers key isHeader]
    rfl
  rw [withNodeObfuscation]
  simp only [set, if_true, read, bind, Except.bind]

/-- A positive number in a header asks for the AWG 2.0 profile. -/
theorem NumericReport.profile (report : NumericReport ranges reported) :
    selectAwgProfile (some (mergeObfuscation base reported)) = .awg20Asc := by
  have first : "H1" ∈ headerKeys := by decide
  have positive : ¬ (ranges "H1").1 ≤ 0 := by
    have least := (report.bounded "H1" first).1
    omega
  have active : profileKeys.any (fun key =>
      ((mergeObfuscation base reported).get? key).any (fun value => !isInert value)) = true := by
    rw [List.any_eq_true]
    refine ⟨"H1", by decide, ?_⟩
    rw [report.merged_header first]
    simp only [Option.any_some, isInert, Json.asInt?]
    rw [decide_eq_false positive]
    rfl
  rw [selectAwgProfile]
  exact if_pos active

def headerEntry (ranges : String → Int × Int) (key : String) : HeaderRange :=
  ⟨(ranges key).1, (ranges key).1, toString (ranges key).1⟩

theorem NumericReport.readHeaders (report : NumericReport ranges reported) :
    collect (readHeader (mergeObfuscation base reported)) headerKeys =
      .ok (headerKeys.map (fun key => (key, headerEntry ranges key))) := by
  apply collect_all
  intro key isHeader
  obtain ⟨least, greatest⟩ := report.bounded key isHeader
  have positive : ¬ (ranges key).1 ≤ 0 := by omega
  have within : ¬ headerMax < (ranges key).1 := by omega
  rw [readHeader, setValue_of_get? (report.merged_header isHeader)]
  simp only [parseHValue, bind, Except.bind, if_neg positive, within, or_self, if_false, lt_irrefl,
    headerEntry]

theorem NumericReport.noOverlaps (report : NumericReport ranges reported) :
    checkOverlaps (headerKeys.map (fun key => (key, headerEntry ranges key))) = .ok () := by
  have apart : ∀ keys : List String, keys ⊆ headerKeys → keys.Nodup →
      checkOverlaps (keys.map (fun key => (key, headerEntry ranges key))) = .ok () := by
    intro keys within distinct
    induction keys with
    | nil => rfl
    | cons key rest ih =>
        rw [List.nodup_cons] at distinct
        have later := ih (fun other member => within (List.mem_cons_of_mem key member)) distinct.2
        rw [List.map_cons, checkOverlaps]
        have free : (rest.map (fun key => (key, headerEntry ranges key))).find? (fun other =>
            (headerEntry ranges key).overlaps other.2) = none := by
          rw [List.find?_eq_none]
          intro entry member
          obtain ⟨other, inRest, rfl⟩ := List.mem_map.mp member
          have different : key ≠ other := by
            rintro rfl
            exact distinct.1 inRest
          have unequal := report.distinct key (within List.mem_cons_self) other
            (within (List.mem_cons_of_mem key inRest)) different
          intro overlapping
          have common := of_decide_eq_true overlapping
          simp only [headerEntry] at common
          omega
        rw [free]
        exact later
  exact apart headerKeys (fun _ member => member) (by decide)

/-- The parameters are normalised, with the numbers of the node for headers. -/
theorem NumericReport.normalized (report : NumericReport ranges reported) {mtu : Int}
    (known : ∀ entry ∈ base.entries, entry.1 ∈ awgAscKeys)
    (signed : ∃ signatures, collect (readSignature base) signatureKeys = .ok signatures)
    (inRange : NumbersInRange (mergeObfuscation base reported) mtu) :
    ∃ normalized, normalizedObfuscation .awg20Asc (some (mergeObfuscation base reported))
        (some mtu) = .ok normalized ∧
      ∀ key ∈ headerKeys, normalized.get? key = some (.str (toString (ranges key).1)) := by
  have present : (mergeObfuscation base reported).entries.isEmpty = false :=
    nonempty_of_get? (report.merged_header (by decide : "H1" ∈ headerKeys))
  have keys : checkKeys (fun entry => entry.1 ∈ awgAscKeys) (mergeObfuscation base reported) =
      .ok () := by
    apply checkKeys_ok.mpr
    rintro ⟨key, value⟩ member
    have stored := ((mergeObfuscation base reported).mem_entries_iff key value).mp member
    rw [get?_mergeObfuscation, Option.or_eq_some_iff] at stored
    rcases stored with own | ⟨-, theirs⟩
    · rcases report.known key value own with number | header
      · have all : ∀ name ∈ ["Jc", "Jmin", "Jmax", "S1", "S2", "S3", "S4"], name ∈ awgAscKeys := by
          decide
        exact decide_eq_true (all key number)
      · have all : ∀ name ∈ headerKeys, name ∈ awgAscKeys := by decide
        exact decide_eq_true (all key header)
    · exact decide_eq_true (known (key, value) ((base.mem_entries_iff key value).mpr theirs))
  obtain ⟨signatures, readSignatures⟩ : ∃ signatures,
      collect (readSignature (mergeObfuscation base reported)) signatureKeys = .ok signatures := by
    obtain ⟨_, readBase⟩ := signed
    apply collect_of_reads
    intro key isSignature
    -- the node reports no signatures
    have absent : reported.get? key = none := by
      cases stored : reported.get? key with
      | none => rfl
      | some value =>
          have separate : ∀ name ∈ signatureKeys,
              name ∉ ["Jc", "Jmin", "Jmax", "S1", "S2", "S3", "S4"] ∧ name ∉ headerKeys := by
            decide
          rcases report.known key value stored with number | header
          · exact absurd number (separate key isSignature).1
          · exact absurd header (separate key isSignature).2
    have same : readSignature (mergeObfuscation base reported) key = readSignature base key := by
      rw [readSignature, readSignature, setValue, setValue, get?_mergeObfuscation, absent]
      rfl
    rw [same]
    exact collect_reads readBase isSignature
  obtain ⟨numbers, readNumbers, sums, bounds⟩ := inRange
  refine ⟨Dict.ofList (numberEntries numbers ++ textEntries signatures ++ textEntries
    ((headerKeys.map (fun key => (key, headerEntry ranges key))).map (fun header =>
      (header.1, header.2.rendered)))), ?_, ?_⟩
  · have ascending : normalizedObfuscation .awg20Asc (some (mergeObfuscation base reported))
        (some mtu) = normalizeObfuscationAwg2 (mergeObfuscation base reported) (some mtu) := by
      simp only [normalizedObfuscation, present]
      rfl
    rw [ascending, normalizeObfuscationAwg2, keys, readNumbers, readSignatures, report.readHeaders]
    simp only [bind, Except.bind, report.noOverlaps, sums, bounds]
  · intro key isHeader
    apply (get?_normalised (collect_keys readNumbers) (collect_keys readSignatures) ?_ (by decide)
      key _).mpr
    · refine Or.inr (Or.inr ⟨toString (ranges key).1, ?_, rfl⟩)
      rw [List.map_map, List.mem_map]
      exact ⟨key, isHeader, rfl⟩
    · rw [List.map_map, List.map_map]
      exact List.Sublist.refl headerKeys

end Report

/-! ### The lines of a configuration -/

section Emitted

variable {ranges : String → Int × Int} {key : String}

theorem setsKey_settingLine {other : String} (named : ' ' ∉ key.toList)
    (otherNamed : ' ' ∉ other.toList) (value : String) :
    setsKey key (settingLine other value) = decide (key = other) := by
  rw [Bool.eq_iff_iff, decide_eq_true_eq, setsKey, List.isPrefixOf_iff_prefix, settingLine_toList,
    String.toList_append]
  constructor
  · rintro ⟨rest, whole⟩
    rw [List.append_assoc] at whole
    exact String.toList_inj.mp (separator_inj named otherNamed whole).1
  · rintro rfl
    rw [← List.append_assoc]
    exact List.prefix_append _ _

theorem headerKey_named (isHeader : key ∈ headerKeys) : ' ' ∉ key.toList := by
  have all : ∀ name ∈ headerKeys, ' ' ∉ name.toList := by decide
  exact all key isHeader

theorem filter_emitted (isHeader : key ∈ headerKeys) {obf : Obfuscation} {value : Json}
    (stored : obf.get? key = some value) {keys : List String}
    (named : ∀ other ∈ keys, ' ' ∉ other.toList) (distinct : keys.Nodup) :
    (keys.filterMap (fun other =>
        (obf.get? other).map (fun found => settingLine other found.toText))).filter (setsKey key) =
      if key ∈ keys then [settingLine key value.toText] else [] := by
  induction keys with
  | nil => rfl
  | cons first rest ih =>
      rw [List.nodup_cons] at distinct
      have later := ih (fun other member => named other (List.mem_cons_of_mem first member))
        distinct.2
      have firstNamed := named first List.mem_cons_self
      rw [List.filterMap_cons]
      by_cases here : key = first
      · subst here
        rw [if_neg distinct.1] at later
        rw [stored, if_pos List.mem_cons_self]
        simp only [Option.map_some]
        rw [List.filter_cons_of_pos, later]
        rw [setsKey_settingLine firstNamed firstNamed]
        exact decide_eq_true rfl
      · have membership : key ∈ first :: rest ↔ key ∈ rest := by
          rw [List.mem_cons, or_iff_right here]
        simp only [membership]
        cases obf.get? first with
        | none => exact later
        | some found =>
            simp only [Option.map_some]
            rw [List.filter_cons_of_neg, later]
            rw [setsKey_settingLine (headerKey_named isHeader) firstNamed, decide_eq_true_eq]
            exact here

/-- A header that is stored has one line of its own. -/
theorem filter_configLines (isHeader : key ∈ headerKeys) {fields : CheckedFields} {dns : String}
    {mtu : Option Int} {obf : Obfuscation} {keepalive : Int} {presharedKey : List String}
    {value : Json} (stored : obf.get? key = some value)
    (keyed : ∀ line ∈ presharedKey, ∃ text, line = settingLine "PresharedKey" text) :
    (configLines fields dns mtu obf keepalive presharedKey).filter (setsKey key) =
      [settingLine key value.toText] := by
  have apart : ∀ name ∈ headerKeys, name ∉ ["PrivateKey", "Address", "DNS", "MTU", "PublicKey",
      "Endpoint", "AllowedIPs", "PersistentKeepalive", "PresharedKey"] := by decide
  have others : ∀ other ∈ ["PrivateKey", "Address", "DNS", "MTU", "PublicKey", "Endpoint",
      "AllowedIPs", "PersistentKeepalive", "PresharedKey"], ∀ text,
      setsKey key (settingLine other text) = false := by
    intro other member text
    have named : ∀ name ∈ ["PrivateKey", "Address", "DNS", "MTU", "PublicKey", "Endpoint",
        "AllowedIPs", "PersistentKeepalive", "PresharedKey"], ' ' ∉ name.toList := by decide
    rw [setsKey_settingLine (headerKey_named isHeader) (named other member)]
    apply decide_eq_false
    rintro rfl
    exact apart key isHeader member
  have noSettings : ∀ name ∈ headerKeys, ∀ text ∈ ["[Interface]", "", "[Peer]"],
      setsKey name text = false := by decide
  have mtuOthers : (mtuLines mtu).filter (setsKey key) = [] := by
    rw [List.filter_eq_nil_iff]
    intro line member
    obtain ⟨text, -, rfl⟩ := mtuLines_cases member
    rw [others "MTU" (by decide) text]
    exact Bool.false_ne_true
  have presharedOthers : presharedKey.filter (setsKey key) = [] := by
    rw [List.filter_eq_nil_iff]
    intro line member
    obtain ⟨text, rfl⟩ := keyed line member
    rw [others "PresharedKey" (by decide) text]
    exact Bool.false_ne_true
  have emitted : (obfuscationLines obf).filter (setsKey key) = [settingLine key value.toText] := by
    have ordered : ∀ name ∈ headerKeys, name ∈ awgEmitOrder := by decide
    rw [obfuscationLines, filter_emitted isHeader stored (by decide) (by decide),
      if_pos (ordered key isHeader)]
  simp only [configLines, List.filter_append, List.filter_cons, List.filter_nil, mtuOthers,
    presharedOthers, emitted, noSettings key isHeader "[Interface]" (by decide),
    noSettings key isHeader "" (by decide), noSettings key isHeader "[Peer]" (by decide),
    others "PrivateKey" (by decide), others "Address" (by decide), others "DNS" (by decide),
    others "PublicKey" (by decide), others "Endpoint" (by decide), others "AllowedIPs" (by decide),
    others "PersistentKeepalive" (by decide)]
  rfl

theorem headerKey_setting (isHeader : key ∈ headerKeys) : isSettingKey key.toList = true := by
  have all : ∀ name ∈ headerKeys, isSettingKey name.toList = true := by decide
  exact all key isHeader

/-- Lines that set every header once show them, sanitised or not. -/
theorem emitsHeaders_of_lines {rest : List String}
    (plain : ∀ key ∈ headerKeys, isPlainValue (rangeValue (ranges key)).toList = true)
    (once : ∀ key ∈ headerKeys, ("[Interface]" :: rest).filter (setsKey key) =
      [settingLine key (rangeValue (ranges key))]) :
    EmitsHeaders ranges (join "\n" ("[Interface]" :: rest) ++ "\n") ∧
      EmitsHeaders ranges
        (sanitizeAwgConf (sanitizeAwgConf (join "\n" ("[Interface]" :: rest) ++ "\n"))) := by
  have lines := linesOf_join (List.cons_ne_nil "[Interface]" rest)
  have written : ∀ key ∈ headerKeys, (settingLine key (rangeValue (ranges key))).toList ∈
      linesOf (join "\n" ("[Interface]" :: rest) ++ "\n").toList := by
    intro key isHeader
    have member : settingLine key (rangeValue (ranges key)) ∈ "[Interface]" :: rest := by
      have filtered : settingLine key (rangeValue (ranges key)) ∈
          ("[Interface]" :: rest).filter (setsKey key) := by
        rw [once key isHeader]
        exact List.mem_singleton_self _
      exact (List.mem_filter.mp filtered).1
    have keyUnbroken : '\n' ∉ key.toList := by
      have all : ∀ name ∈ headerKeys, '\n' ∉ name.toList := by decide
      exact all key isHeader
    rw [lines, List.mem_append]
    refine Or.inl (List.mem_flatMap.mpr ⟨_, member, ?_⟩)
    rw [linesOf_setting keyUnbroken (plain_unbroken (plain key isHeader))]
    exact List.mem_singleton_self _
  have headed : ∃ others, linesOf (join "\n" ("[Interface]" :: rest) ++ "\n").toList =
      interfaceHeader :: others := ⟨_, lines⟩
  have kept : ∀ text : String, (∃ others, linesOf text.toList = interfaceHeader :: others) →
      (∀ key ∈ headerKeys, (settingLine key (rangeValue (ranges key))).toList ∈
        linesOf text.toList) →
      (∃ others, linesOf (sanitizeAwgConf text).toList = interfaceHeader :: others) ∧
        ∀ key ∈ headerKeys, (settingLine key (rangeValue (ranges key))).toList ∈
          linesOf (sanitizeAwgConf text).toList := by
    rintro text ⟨others, atTop⟩ shown
    rw [linesOf_sanitizeAwgConf atTop]
    constructor
    · have headerVisible : interfaceHeader ≠ [] := by decide
      have headerStays : cleanLine interfaceHeader = some interfaceHeader := by decide
      rw [atTop]
      exact pass_cons headerVisible headerStays others
    · intro key isHeader
      have stays := cleanLine_setting (headerKey_setting isHeader) (plain key isHeader)
      have visible : (settingLine key (rangeValue (ranges key))).toList ≠ [] :=
        fun empty => (endsVisibly_setting (plain_ends (plain key isHeader))).1
          (String.toList_eq_nil_iff.mp empty)
      exact (mem_pass visible _).mpr (List.mem_filterMap.mpr ⟨_, shown key isHeader, stays⟩)
  obtain ⟨sanitizedHead, sanitized⟩ := kept _ headed written
  obtain ⟨-, sanitizedTwice⟩ := kept _ sanitizedHead sanitized
  exact ⟨⟨⟨_, Or.inl rfl, once⟩, written⟩, ⟨_, Or.inr rfl, once⟩, sanitizedTwice⟩

end Emitted

/-! ### The calls with a report of numbers -/

section Calls

variable {ranges : String → Int × Int} {reported base : Obfuscation}

theorem NumericReport.rangeValue (report : NumericReport ranges reported) {key : String}
    (isHeader : key ∈ headerKeys) : rangeValue (ranges key) = toString (ranges key).1 := by
  rw [Fleet.rangeValue, report.single key isHeader, if_pos rfl]

theorem NumericReport.plain (report : NumericReport ranges reported) :
    ∀ key ∈ headerKeys, isPlainValue (Fleet.rangeValue (ranges key)).toList = true := by
  intro key isHeader
  rw [report.rangeValue isHeader]
  have tokens := toString_tokens (ranges key).1
  exact isPlainValue_of_tokens tokens.1 tokens.2

/-- A configuration that is built without the report is built with it. -/
theorem NumericReport.built (report : NumericReport ranges reported) {interface : InterfaceFields}
    {peer : PeerFields} {mtu : Int} {text : String} (atMtu : interface.mtu = some mtu)
    (built : buildConfig interface peer (selectAwgProfile (some base)) (some base) = .ok text)
    (inRange : NumbersInRange (mergeObfuscation base reported) mtu) :
    ∃ rest, buildConfig interface peer (selectAwgProfile (some (mergeObfuscation base reported)))
        (some (mergeObfuscation base reported)) = .ok (join "\n" ("[Interface]" :: rest) ++ "\n") ∧
      ∀ key ∈ headerKeys, ("[Interface]" :: rest).filter (setsKey key) =
        [settingLine key (Fleet.rangeValue (ranges key))] := by
  have otherProfile : ConfigProfile.awg20Asc ≠ .wireguardUniversal := nofun
  have noErrors : fieldErrors interface peer .awg20Asc (some (mergeObfuscation base reported)) =
      [] :=
    (fieldErrors_obfuscated (selectAwgProfile_obfuscates (some base)) otherProfile).symm.trans
      (buildConfig_noErrors built)
  obtain ⟨normal, presharedKey, -, isNormal, keyed, -⟩ := buildConfig_ok built
  obtain ⟨known, signed⟩ := normalizedObfuscation_reads (selectAwgProfile_obfuscates _) isNormal
  obtain ⟨normalized, normalises, stored⟩ := report.normalized known signed inRange
  have effective : effectiveMtu .awg20Asc interface.mtu = some mtu := by
    rw [atMtu]
    rfl
  have keyLines : ∀ line ∈ presharedKey, ∃ value, line = settingLine "PresharedKey" value := by
    intro line member
    unfold presharedKeyLines at keyed
    split at keyed
    · obtain rfl := Except.ok.inj keyed
      cases member
    · rename_i key _
      cases checked : validateKeyB64 key "PresharedKey" with
      | error error =>
          rw [checked] at keyed
          cases keyed
      | ok value =>
          rw [checked] at keyed
          obtain rfl := Except.ok.inj keyed
          exact ⟨value, List.mem_singleton.mp member⟩
  rw [report.profile]
  refine ⟨_, buildConfig_eq noErrors (by rw [effective]; exact normalises) keyed, ?_⟩
  intro key isHeader
  rw [report.rangeValue isHeader]
  exact filter_configLines isHeader (stored key isHeader) keyLines

variable {settings : IssueSettings} {sources : LiveSources} {answers : RuntimeAnswers}
  {server : IssueServer}

/-- The configurations of a call are built with the report, and sanitising keeps the headers. -/
theorem NumericReport.builtConfigs (report : NumericReport ranges reported)
    {serverKey allowedIps : String} {link : LinkSettings} {keys : ClientKeys}
    {configs : ClientConfigs}
    (built : builtConfigs settings sources { answers with obfuscation := .ok none } server serverKey
      allowedIps link base keys = .ok configs)
    (inRange : NumbersInRange (mergeObfuscation base reported) link.mtu) :
    ∃ carried, Fleet.builtConfigs settings sources { answers with obfuscation := .ok (some reported) }
        server serverKey allowedIps link (mergeObfuscation base reported) keys = .ok carried ∧
      ConfigsEmit ranges carried ∧
      ConfigsEmit ranges { carried with awg := sanitizeAwgConf (sanitizeAwgConf carried.awg) } := by
  unfold Fleet.builtConfigs at built
  split at built
  · cases built
  · rename_i result returned
    obtain ⟨awg, awgBuilt, step⟩ := bind_eq_ok.mp returned
    obtain ⟨wgObf, wgObfBuilt, step⟩ := bind_eq_ok.mp step
    obtain ⟨wg, wgBuilt, _⟩ := bind_eq_ok.mp step
    obtain ⟨awgRest, awgCarried, awgOnce⟩ := report.built rfl awgBuilt inRange
    obtain ⟨wgObfRest, wgObfCarried, wgObfOnce⟩ := report.built rfl wgObfBuilt inRange
    obtain ⟨awgEmits, awgSanitized⟩ := emitsHeaders_of_lines report.plain awgOnce
    obtain ⟨wgObfEmits, -⟩ := emitsHeaders_of_lines report.plain wgObfOnce
    have all : buildAllConfigs (configRequest settings sources
        { answers with obfuscation := .ok (some reported) } server serverKey allowedIps link
        (mergeObfuscation base reported) keys) = .ok ⟨_, _, wg⟩ :=
      bind_eq_ok.mpr ⟨_, awgCarried, bind_eq_ok.mpr ⟨_, wgObfCarried,
        bind_eq_ok.mpr ⟨wg, wgBuilt, rfl⟩⟩⟩
    refine ⟨⟨_, _, wg⟩, ?_, ⟨awgEmits, wgObfEmits⟩, awgSanitized, wgObfEmits⟩
    rw [Fleet.builtConfigs, all]

theorem clientObfuscation_unreported :
    clientObfuscation settings sources { answers with obfuscation := .ok none } server =
      getObfuscationParams (requestParamsWithServerH settings.fleet.nodeMode
        (server.firstProfile.bind ServerProfile.requestParams)) := by
  have nothing : reportedObfuscation sources { answers with obfuscation := .ok none } = none := by
    unfold reportedObfuscation
    cases sources.adapter with
    | none => rfl
    | some answer => rfl
  rw [clientObfuscation, nothing]
  cases getObfuscationParams (requestParamsWithServerH settings.fleet.nodeMode
      (server.firstProfile.bind ServerProfile.requestParams)) with
  | error error => rfl
  | ok params => rfl

theorem NumericReport.clientObfuscation (report : NumericReport ranges reported)
    (adapter : sources.adapter.isSome = true)
    (read : getObfuscationParams (requestParamsWithServerH settings.fleet.nodeMode
      (server.firstProfile.bind ServerProfile.requestParams)) = .ok base) :
    clientObfuscation settings sources { answers with obfuscation := .ok (some reported) } server =
      .ok (mergeObfuscation base reported) := by
  have taken : reportedObfuscation sources { answers with obfuscation := .ok (some reported) } =
      some reported := by
    obtain ⟨answer, isAdapter⟩ := Option.isSome_iff_exists.mp adapter
    rw [reportedObfuscation, isAdapter]
  rw [Fleet.clientObfuscation, taken, read]
  exact report.withNode

/-- With a report of numbers the calls go through. -/
theorem NumericReport.carried (report : NumericReport ranges reported) :
    CarriesHeaders ranges (some reported) := by
  refine ⟨reported, rfl, ?_⟩
  intro settings sources answers server keys issuable inRange
  obtain ⟨adapter, ⟨_, issue⟩, ⟨_, adminIssue⟩, ⟨_, rotate⟩⟩ := issuable
  obtain ⟨issueKey, link, base, issueKeyed, linked, read, issueBuilt⟩ := issueConfigs_ok issue
  obtain ⟨adminKey, _, _, _, adminKeyed, linkedAgain, readAgain, adminBuilt, -⟩ :=
    adminIssueConfigs_ok adminIssue
  obtain rfl := Except.ok.inj (linked.symm.trans linkedAgain)
  obtain rfl := Except.ok.inj (read.symm.trans readAgain)
  obtain ⟨_, _, _, rotateKeyed, linkedThird, readThird, rotateBuilt⟩ := rotateConfigs_ok rotate
  obtain rfl := Except.ok.inj (linked.symm.trans linkedThird)
  obtain rfl := Except.ok.inj (read.symm.trans readThird)
  rw [clientObfuscation_unreported] at read
  have numbers := inRange base link read linked
  have obfuscated : Fleet.clientObfuscation settings sources
      { answers with obfuscation := .ok (some reported) } server =
        .ok (mergeObfuscation base reported) := report.clientObfuscation adapter read
  obtain ⟨issued, issuedBuilt, issuedEmits, -⟩ := report.builtConfigs issueBuilt numbers
  obtain ⟨raw, rawBuilt, -, adminEmits⟩ := report.builtConfigs adminBuilt numbers
  obtain ⟨rotated, rotatedBuilt, rotatedEmits, -⟩ := report.builtConfigs rotateBuilt numbers
  refine ⟨issued, { raw with awg := sanitizeAwgConf (sanitizeAwgConf raw.awg) }, rotated, ?_, ?_,
    ?_, issuedEmits, adminEmits, rotatedEmits⟩
  · simp only [issueConfigs, issueKeyed, obfuscated, linked, issuedBuilt, fromKey, fromProfile, bind,
      Except.bind]
  · simp only [adminIssueConfigs, adminKeyed, obfuscated, linked, rawBuilt, fromKey, fromProfile,
      bind, Except.bind]
  · simp only [rotateConfigs, rotateKeyed, obfuscated, linked, rotatedBuilt, fromKey, fromProfile,
      bind, Except.bind]

end Calls

/-! ### What the node reports -/

section Reported

variable {output : String} {ranges : String → Int × Int}

/-- Read with numbers for headers, the output is a report of numbers. -/
theorem numericReport {header : HeaderReader} (reported : ReportsHeaders output ranges)
    (numbers : NumbersOnly output)
    (digits : ∀ value, textIsDigit value = true → header value = readDigits value) :
    NumericReport ranges (reportedParams header output) := by
  have read : ∀ key ∈ headerKeys, (reportedParams header output).get? key =
      some (.int (ranges key).1) ∧ (ranges key).2 = (ranges key).1 :=
    fun key isHeader => reportedParams_number reported numbers digits isHeader
  refine ⟨fun key isHeader => (read key isHeader).1, fun key isHeader => (read key isHeader).2,
    ?_, ?_, ?_⟩
  · intro key isHeader
    obtain ⟨-, least, greatest⟩ := reported.bounded key isHeader
    rw [(read key isHeader).2] at least greatest
    exact ⟨least, greatest⟩
  · intro left isLeft right isRight different
    have apart := reported.disjoint left isLeft right isRight different
    rw [(read left isLeft).2, (read right isRight).2] at apart
    omega
  · intro key value stored
    exact (reportedParams_get? stored).imp And.left And.left

/-- The heartbeat keeps such a report. -/
theorem NumericReport.fromHeartbeat {reported : Obfuscation} (report : NumericReport ranges reported) :
    obfuscationFromHeartbeat (some reported) = some reported := by
  have set : headerKeys.all (fun key => (setValue reported key).isSome) = true := by
    rw [List.all_eq_true]
    intro key isHeader
    rw [setValue_of_get? (report.headers key isHeader)]
    rfl
  exact Option.filter_some_pos set

theorem parse_numbers {header : HeaderReader} (reads : ReadsRanges header)
    (reported : ReportsHeaders output ranges)
    (report : NumericReport ranges (reportedParams header output)) :
    parseWgShowObfuscation header output = .ok (some (reportedParams header output)) := by
  have first : "H1" ∈ headerKeys := by decide
  rw [parse_ok reads reported, nonempty_of_get? (report.headers "H1" first)]
  rfl

/-- Both parsers return the same dict and the configurations have the headers of the node, from
the node itself and over the heartbeat, exactly when the headers in effect are numbers. -/
theorem headers_carried_iff_numbers (output : String) (ranges : String → Int × Int)
    (reported : ReportsHeaders output ranges) :
    (∃ backend agent, parseWgShowObfuscation backendHeader output = .ok backend ∧
        parseWgShowObfuscation agentHeader output = .ok agent ∧ SameDict agent backend ∧
        CarriesHeaders ranges backend ∧ CarriesHeaders ranges (obfuscationFromHeartbeat agent)) ↔
      NumbersOnly output := by
  constructor
  · rintro ⟨backend, agent, atBackend, atAgent, same, -⟩
    exact (parsers_agree_iff reported).mp ⟨backend, agent, atBackend, atAgent, same⟩
  · intro numbers
    have backendReport := numericReport reported numbers backendHeader_digits
    have agentReport := numericReport reported numbers agentHeader_digits
    obtain ⟨backend, agent, atBackend, atAgent, same⟩ := (parsers_agree_iff reported).mpr numbers
    refine ⟨backend, agent, atBackend, atAgent, same, ?_, ?_⟩
    · rw [parse_numbers backendHeader_reads reported backendReport] at atBackend
      obtain rfl := Except.ok.inj atBackend
      exact backendReport.carried
    · rw [parse_numbers agentHeader_reads reported agentReport] at atAgent
      obtain rfl := Except.ok.inj atAgent
      rw [agentReport.fromHeartbeat]
      exact agentReport.carried

end Reported

/-! ### A node -/

/-- What `wg show` prints for a node with this first header. -/
def sampleOutput (first : String) : String :=
  "interface: awg0\n  jc: 3\n  jmin: 10\n  jmax: 50\n  s1: 213\n  s2: 237\n  h1: " ++ first ++
    "\n  h2: 300\n  h3: 400\n  h4: 500\n"

def sampleRanges (first : Int × Int) (key : String) : Int × Int :=
  (([("H1", first), ("H2", (300, 300)), ("H3", (400, 400)), ("H4", (500, 500))] :
    List (String × (Int × Int))).lookup key).getD (0, 0)

theorem reportsHeaders_of_lookup {output : String} {ranges : String → Int × Int}
    (readable : ∀ field ∈ wgShowFields output, field.1 ∈ headerNames.map Prod.fst →
      (denotedRange field.2).isSome = true)
    (last : ∀ entry ∈ headerNames,
      ((wgShowFields output).reverse.lookup entry.1).bind denotedRange = some (ranges entry.2))
    (bounded : ∀ key ∈ headerKeys, (ranges key).1 ≤ (ranges key).2 ∧ 1 ≤ (ranges key).2 ∧
      (ranges key).2 ≤ headerMax)
    (disjoint : ∀ left ∈ headerKeys, ∀ right ∈ headerKeys, left ≠ right →
      (ranges left).2 < (ranges right).1 ∨ (ranges right).2 < (ranges left).1) :
    ReportsHeaders output ranges :=
  ⟨readable, fun name key named => Option.bind_eq_some_iff.mp (last (name, key) named), bounded,
    disjoint⟩

theorem sampleNumbers_reported : ReportsHeaders (sampleOutput "100") (sampleRanges (100, 100)) :=
  reportsHeaders_of_lookup (by decide +kernel) (by decide +kernel) (by decide +kernel)
    (by decide +kernel)

theorem sampleRange_reported : ReportsHeaders (sampleOutput "100-200") (sampleRanges (100, 200)) :=
  reportsHeaders_of_lookup (by decide +kernel) (by decide +kernel) (by decide +kernel)
    (by decide +kernel)

theorem sampleNumbers_only : NumbersOnly (sampleOutput "100") := by
  have all : ∀ entry ∈ headerNames, ((wgShowFields (sampleOutput "100")).reverse.lookup
      entry.1).all textIsDigit = true := by decide +kernel
  intro name key named value last
  have digits := all (name, key) named
  rw [last] at digits
  exact digits

/-- The headers of a node with four numbers reach its clients. -/
theorem sample_numbers_carried :
    ∃ backend agent, parseWgShowObfuscation backendHeader (sampleOutput "100") = .ok backend ∧
      parseWgShowObfuscation agentHeader (sampleOutput "100") = .ok agent ∧
      SameDict agent backend ∧ CarriesHeaders (sampleRanges (100, 100)) backend ∧
      CarriesHeaders (sampleRanges (100, 100)) (obfuscationFromHeartbeat agent) :=
  (headers_carried_iff_numbers (sampleOutput "100") (sampleRanges (100, 100))
    sampleNumbers_reported).mpr sampleNumbers_only

/-- With a range the agent has no header to report, and `int` raises for the backend. -/
theorem range_header_refused :
    ReportsHeaders (sampleOutput "100-200") (sampleRanges (100, 200)) ∧
      ¬ (∃ backend agent, parseWgShowObfuscation backendHeader (sampleOutput "100-200") =
            .ok backend ∧
          parseWgShowObfuscation agentHeader (sampleOutput "100-200") = .ok agent ∧
          SameDict agent backend) ∧
      (issueConfigs sampleIssueSettings sampleLiveSources sampleAnswers (sampleIssueServer [] false)
        (sampleClientKeys "10.8.1.2/32")).toOption.isSome = true ∧
      ∃ backend, parseWgShowObfuscation backendHeader (sampleOutput "100-200") = .ok backend ∧
        issueConfigs sampleIssueSettings sampleLiveSources
            { sampleAnswers with obfuscation := .ok backend } (sampleIssueServer [] false)
            (sampleClientKeys "10.8.1.2/32") = .error (.profile (.badInt .valueError)) := by
  refine ⟨sampleRange_reported, ?_, by decide +kernel, ?_⟩
  · intro agree
    have numbers := (parsers_agree_iff sampleRange_reported).mp agree
    have first : (wgShowFields (sampleOutput "100-200")).reverse.lookup "h1" =
        some "100-200".toList := by decide +kernel
    have digits := numbers "h1" "H1" (by decide) "100-200".toList first
    exact absurd digits (by decide)
  · refine ⟨_, parse_ok backendHeader_reads sampleRange_reported, ?_⟩
    have nonempty : (reportedParams backendHeader (sampleOutput "100-200")).entries.isEmpty = false :=
      by decide +kernel
    rw [nonempty]
    decide +kernel

end VpnSuite.Fleet
