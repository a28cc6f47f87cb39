/-
Whether issuing, administrative issuing and rotating emit the same configuration.

Two configurations are compared line by line, without the values of `PrivateKey`, `Address`
and `PresharedKey`.  The derivations agree; what differs is the server key in mock mode, the
AllowedIPs of a rotation and the sanitising of an administrative issue.
-/

import VpnSuite.Config.ConfigLines
import VpnSuite.Fleet.ConfigDerivation

set_option autoImplicit false

namespace VpnSuite.Fleet

open Foundations
open Foundations.PythonText
open Foundations.LinePasses (CleanerLaws Undisturbed pass pass_cons pass_pass_seen_iff
  undisturbed_append undisturbed_flatten)
open VpnSuite.Config
open VpnSuite.ControlPlane (LiveSources adminServerKey adminServerKey_stripped issueServerKey
  issueServerKey_stripped sampleKey)

/-! ### What is seen of a configuration -/

/-- The beginnings of the lines whose values belong to one client. -/
def clientSettings : List String :=
  ["PrivateKey", "Address", "PresharedKey"].map (fun key => settingLine key "")

/-- A line without the value that belongs to one client. -/
def seenLine (line : List Char) : List Char :=
  match clientSettings.find? (fun setting => setting.toList.isPrefixOf line) with
  | some setting => setting.toList
  | none => line

def seenText (text : String) : List (List Char) := (linesOf text.toList).map seenLine

theorem seenLine_cases (line : List Char) :
    (∃ setting ∈ clientSettings, seenLine line = setting.toList) ∨ seenLine line = line := by
  unfold seenLine
  split
  · rename_i setting found
    exact Or.inl ⟨setting, List.mem_of_find?_eq_some found, rfl⟩
  · exact Or.inr rfl

theorem seen_laws : CleanerLaws [] cleanLine seenLine := by
  refine ⟨by decide, cleanLine_idempotent, ?_⟩
  intro line seen
  have blank : seenLine [] = [] := by decide
  rw [blank] at seen
  obtain ⟨setting, isSetting, same⟩ | same := seenLine_cases line
  · have visible : clientSettings.all (fun setting => setting.toList ≠ []) = true := by decide
    have nonempty : setting.toList ≠ [] := by
      simpa using List.all_eq_true.mp visible setting isSetting
    exact absurd (same.symm.trans seen) nonempty
  · exact same.symm.trans seen

theorem seenLine_privateKey (value : String) :
    seenLine (settingLine "PrivateKey" value).toList = (settingLine "PrivateKey" "").toList := by
  rw [settingLine_toList]
  rfl

theorem seenLine_presharedKey (value : String) :
    seenLine (settingLine "PresharedKey" value).toList =
      (settingLine "PresharedKey" "").toList := by
  rw [settingLine_toList]
  rfl

theorem seenLine_publicKey (value : String) :
    seenLine (settingLine "PublicKey" value).toList = (settingLine "PublicKey" value).toList := by
  rw [settingLine_toList]
  rfl

theorem seenLine_allowedIps (value : String) :
    seenLine (settingLine "AllowedIPs" value).toList =
      (settingLine "AllowedIPs" value).toList := by
  rw [settingLine_toList]
  rfl

theorem settingLine_injective {key left right : String}
    (same : (settingLine key left).toList = (settingLine key right).toList) : left = right := by
  rw [settingLine_toList, settingLine_toList] at same
  exact String.toList_inj.mp (List.append_cancel_left (List.append_cancel_left same))

/-! ### Two configurations with the same link settings -/

theorem cut_iff {α : Type} {front middle between rest left right : List α}
    {first second third fourth : α} :
    front ++ (left ++ (middle ++ first :: (between ++ third :: rest))) =
        front ++ (right ++ (middle ++ second :: (between ++ fourth :: rest))) ↔
      left = right ∧ first = second ∧ third = fourth := by
  constructor
  · intro same
    have inner := List.append_cancel_left same
    have lengths := congrArg List.length inner
    simp only [List.length_append, List.length_cons] at lengths
    obtain ⟨sameLeft, others⟩ := List.append_inj inner (by omega)
    obtain ⟨sameFirst, others⟩ := List.cons.inj (List.append_cancel_left others)
    exact ⟨sameLeft, sameFirst, (List.cons.inj (List.append_cancel_left others)).1⟩
  · rintro ⟨rfl, rfl, rfl⟩
    rfl

/-- The values that two configurations may differ in. -/
structure ClientValues where
  privateKey : String
  address : String
  publicKey : String
  allowedIps : String
  presharedKey : String

/-- The lines of a configuration with a preshared key: what is shared stands between the address
and the public key, and in the endpoint and the keepalive. -/
def layout (middle : List String) (endpoint keepalive : String) (values : ClientValues) :
    List String :=
  ["[Interface]", settingLine "PrivateKey" values.privateKey,
    settingLine "Address" values.address] ++ (middle ++ ["", "[Peer]",
      settingLine "PublicKey" values.publicKey, settingLine "Endpoint" endpoint,
      settingLine "AllowedIPs" values.allowedIps, settingLine "PersistentKeepalive" keepalive,
      settingLine "PresharedKey" values.presharedKey])

theorem layout_ne_nil (middle : List String) (endpoint keepalive : String) (values : ClientValues) :
    layout middle endpoint keepalive values ≠ [] := List.cons_ne_nil _ _

/-- The secrets and the key of the server are tokens, the AllowedIPs stand in one line. -/
structure ClientValues.WellFormed (values : ClientValues) : Prop where
  privateKey : isPlainValue values.privateKey.toList = true
  publicKey : isPlainValue values.publicKey.toList = true
  presharedKey : isPlainValue values.presharedKey.toList = true
  allowedIps : '\n' ∉ values.allowedIps.toList

theorem linesOf_setting {key value : String} (named : '\n' ∉ key.toList)
    (unbroken : '\n' ∉ value.toList) :
    linesOf (settingLine key value).toList = [(settingLine key value).toList] := by
  refine linesOf_of_not_mem ?_
  rw [settingLine_toList, List.mem_append, List.mem_append, not_or, not_or]
  exact ⟨named, by decide, unbroken⟩

def seenLines (lines : List String) : List (List Char) :=
  lines.flatMap (fun line => seenText line)

theorem seenText_join {lines : List String} (some : lines ≠ []) :
    seenText (join "\n" lines ++ "\n") = seenLines lines ++ [[]] := by
  rw [seenText, linesOf_join some, List.map_append, List.map_flatMap]
  rfl

theorem seenLines_layout {values : ClientValues} (wellFormed : values.WellFormed)
    (middle : List String) (endpoint keepalive : String) :
    seenLines (layout middle endpoint keepalive values) ++ [[]] =
      ["[Interface]".toList, (settingLine "PrivateKey" "").toList] ++
        (seenText (settingLine "Address" values.address) ++
          (seenLines (middle ++ ["", "[Peer]"]) ++
            (settingLine "PublicKey" values.publicKey).toList ::
              (seenText (settingLine "Endpoint" endpoint) ++
                (settingLine "AllowedIPs" values.allowedIps).toList ::
                  (seenText (settingLine "PersistentKeepalive" keepalive) ++
                    [(settingLine "PresharedKey" "").toList, []])))) := by
  have privateKey : seenText (settingLine "PrivateKey" values.privateKey) =
      [(settingLine "PrivateKey" "").toList] := by
    rw [seenText, linesOf_setting (by decide) (plain_unbroken wellFormed.privateKey), List.map_cons,
      seenLine_privateKey, List.map_nil]
  have presharedKey : seenText (settingLine "PresharedKey" values.presharedKey) =
      [(settingLine "PresharedKey" "").toList] := by
    rw [seenText, linesOf_setting (by decide) (plain_unbroken wellFormed.presharedKey),
      List.map_cons, seenLine_presharedKey, List.map_nil]
  have publicKey : seenText (settingLine "PublicKey" values.publicKey) =
      [(settingLine "PublicKey" values.publicKey).toList] := by
    rw [seenText, linesOf_setting (by decide) (plain_unbroken wellFormed.publicKey), List.map_cons,
      seenLine_publicKey, List.map_nil]
  have allowedIps : seenText (settingLine "AllowedIPs" values.allowedIps) =
      [(settingLine "AllowedIPs" values.allowedIps).toList] := by
    rw [seenText, linesOf_setting (by decide) wellFormed.allowedIps, List.map_cons,
      seenLine_allowedIps, List.map_nil]
  have header : seenText "[Interface]" = ["[Interface]".toList] := by decide
  simp only [layout, seenLines, List.flatMap_append, List.flatMap_cons, List.flatMap_nil,
    privateKey, presharedKey, publicKey, allowedIps, header, List.append_assoc, List.nil_append,
    List.cons_append, List.append_nil]

theorem seen_layouts_iff {left right : ClientValues} (leftFormed : left.WellFormed)
    (rightFormed : right.WellFormed) (middle : List String) (endpoint keepalive : String) :
    seenText (join "\n" (layout middle endpoint keepalive left) ++ "\n") =
        seenText (join "\n" (layout middle endpoint keepalive right) ++ "\n") ↔
      seenText (settingLine "Address" left.address) = seenText (settingLine "Address" right.address) ∧
        left.publicKey = right.publicKey ∧ left.allowedIps = right.allowedIps := by
  rw [seenText_join (layout_ne_nil middle endpoint keepalive left),
    seenText_join (layout_ne_nil middle endpoint keepalive right),
    seenLines_layout leftFormed, seenLines_layout rightFormed, cut_iff]
  constructor
  · rintro ⟨address, publicKey, allowedIps⟩
    exact ⟨address, settingLine_injective publicKey, settingLine_injective allowedIps⟩
  · rintro ⟨address, publicKey, allowedIps⟩
    exact ⟨address, by rw [publicKey], by rw [allowedIps]⟩

/-! ### What sanitising twice does to a configuration -/

/-- Sanitising does not show in the lines of the text. -/
def Survives (text : String) : Prop := Undisturbed [] cleanLine seenLine (linesOf text.toList)

instance (text : String) : Decidable (Survives text) :=
  inferInstanceAs (Decidable (Undisturbed _ _ _ _))

/-- The text has a last line with something in it. -/
def EndsVisibly (text : String) : Prop := text ≠ "" ∧ text.toList.getLast? ≠ some '\n'

instance (text : String) : Decidable (EndsVisibly text) := inferInstanceAs (Decidable (_ ∧ _))

theorem EndsVisibly.last {text : String} (visible : EndsVisibly text) :
    ∃ front last, linesOf text.toList = front ++ [last] ∧ last ≠ [] :=
  linesOf_ends (fun empty => visible.1 (String.toList_eq_nil_iff.mp empty)) visible.2

theorem endsVisibly_setting {key value : String} (ended : value.toList.getLast? ≠ some '\n') :
    EndsVisibly (settingLine key value) := by
  refine ⟨?_, ?_⟩
  · intro empty
    have chars := congrArg String.toList empty
    rw [settingLine_toList] at chars
    simp at chars
  · rw [settingLine_toList, List.getLast?_append_of_ne_nil _ (by simp)]
    by_cases blank : value.toList = []
    · rw [blank]
      decide
    · rwa [List.getLast?_append_of_ne_nil _ blank]

theorem strip_ends (text : String) : (strip text).toList.getLast? ≠ some '\n' := by
  rw [strip, String.toList_ofList]
  intro ends
  exact absurd (isSpace_of_trimmed (stripChars_trimmed text.toList) ends) (by decide)

theorem plain_ends {value : List Char} (plain : isPlainValue value = true) :
    value.getLast? ≠ some '\n' :=
  fun ends => plain_unbroken plain (List.mem_of_getLast? ends)

theorem survives_setting {key value : String} (named : isSettingKey key.toList = true)
    (plain : isPlainValue value.toList = true) : Survives (settingLine key value) := by
  have keyUnbroken : '\n' ∉ key.toList := by
    rw [isSettingKey, Bool.and_eq_true] at named
    intro broken
    exact absurd (List.all_eq_true.mp named.2 _ broken) (by decide)
  have kept := cleanLine_setting named plain
  rw [Survives, linesOf_setting keyUnbroken (plain_unbroken plain)]
  refine ⟨?_, ?_⟩
  · intro line member
    obtain rfl := List.mem_singleton.mp member
    rw [kept, Option.map_some]
  · have visible : (settingLine key value).toList ≠ [] :=
      fun empty => (endsVisibly_setting (plain_ends plain)).1 (String.toList_eq_nil_iff.mp empty)
    simp [LinePasses.collapse, visible]

theorem sanitized_twice_iff {text : String} {body : List (List Char)} {last : List Char}
    (lines : linesOf text.toList = interfaceHeader :: body ++ [last] ++ [[]])
    (visible : last ≠ []) :
    seenText (sanitizeAwgConf (sanitizeAwgConf text)) = seenText text ↔
      Undisturbed [] cleanLine seenLine (interfaceHeader :: body ++ [last]) := by
  have once := linesOf_sanitizeAwgConf lines
  obtain ⟨others, headed⟩ : ∃ others, pass [] cleanLine (linesOf text.toList) =
      interfaceHeader :: others := by
    rw [lines]
    have headerVisible : interfaceHeader ≠ [] := by decide
    have headerStays : cleanLine interfaceHeader = some interfaceHeader := by decide
    exact pass_cons headerVisible headerStays (body ++ [last] ++ [[]])
  have twice := linesOf_sanitizeAwgConf (once.trans headed)
  have endSurvives : Undisturbed [] cleanLine seenLine [[]] := by decide
  unfold seenText
  rw [twice, once, lines, pass_pass_seen_iff seen_laws visible, undisturbed_append visible]
  exact and_iff_left endSurvives

/-- The lines of a configuration but the last, the blank one taken together with `[Peer]`. -/
def bodyTexts (middle : List String) (endpoint keepalive : String) (values : ClientValues) :
    List String :=
  ["[Interface]", settingLine "PrivateKey" values.privateKey,
    settingLine "Address" values.address] ++ (middle ++ ["\n[Peer]",
      settingLine "PublicKey" values.publicKey, settingLine "Endpoint" endpoint,
      settingLine "AllowedIPs" values.allowedIps, settingLine "PersistentKeepalive" keepalive])

theorem linesOf_layout {values : ClientValues} (wellFormed : values.WellFormed)
    (middle : List String) (endpoint keepalive : String) :
    linesOf (join "\n" (layout middle endpoint keepalive values) ++ "\n").toList =
      ((bodyTexts middle endpoint keepalive values).map (fun text =>
        linesOf text.toList)).flatten ++
          [(settingLine "PresharedKey" values.presharedKey).toList] ++ [[]] := by
  have blankAndPeer : linesOf "\n[Peer]".toList =
      linesOf "".toList ++ linesOf "[Peer]".toList := by decide
  have presharedKey := linesOf_setting (by decide : '\n' ∉ "PresharedKey".toList)
    (plain_unbroken wellFormed.presharedKey)
  rw [linesOf_join (layout_ne_nil middle endpoint keepalive values)]
  simp only [layout, bodyTexts, List.flatMap_append, List.flatMap_cons, List.flatMap_nil,
    List.map_append, List.map_cons, List.map_nil, List.flatten_append, List.flatten_cons,
    List.flatten_nil, blankAndPeer, presharedKey, List.append_assoc, List.append_nil]
  rfl

section Layout

variable {values : ClientValues} (wellFormed : values.WellFormed) {middle : List String}
  {endpoint keepalive : String} (addressEnds : values.address.toList.getLast? ≠ some '\n')
  (endpointEnds : endpoint.toList.getLast? ≠ some '\n')
  (middleEnds : ∀ line ∈ middle, EndsVisibly line)
  (allowedIps : Survives (settingLine "AllowedIPs" values.allowedIps))
  (plainKeepalive : isPlainValue keepalive.toList = true)

include wellFormed plainKeepalive

include addressEnds endpointEnds middleEnds in
theorem bodyTexts_end : ∀ text ∈ bodyTexts middle endpoint keepalive values, EndsVisibly text := by
  have allowedEnds : values.allowedIps.toList.getLast? ≠ some '\n' :=
    fun ends => wellFormed.allowedIps (List.mem_of_getLast? ends)
  simp only [bodyTexts, List.forall_mem_append, List.forall_mem_cons]
  refine ⟨⟨by decide, ?_, ?_, ?_⟩, middleEnds, by decide, ?_, ?_, ?_, ?_, ?_⟩
  · exact endsVisibly_setting (plain_ends wellFormed.privateKey)
  · exact endsVisibly_setting addressEnds
  · exact fun _ member => absurd member List.not_mem_nil
  · exact endsVisibly_setting (plain_ends wellFormed.publicKey)
  · exact endsVisibly_setting endpointEnds
  · exact endsVisibly_setting allowedEnds
  · exact endsVisibly_setting (plain_ends plainKeepalive)
  · exact fun _ member => absurd member List.not_mem_nil

include allowedIps in
/-- Of a configuration only the address, the middle and the endpoint may not survive. -/
theorem bodyTexts_survive_iff :
    (∀ text ∈ bodyTexts middle endpoint keepalive values, Survives text) ↔
      Survives (settingLine "Address" values.address) ∧ (∀ line ∈ middle, Survives line) ∧
        Survives (settingLine "Endpoint" endpoint) := by
  have header : Survives "[Interface]" := by
    unfold Survives
    decide
  have peer : Survives "\n[Peer]" := by
    unfold Survives
    decide
  have privateKey := survives_setting (by decide : isSettingKey "PrivateKey".toList = true)
    wellFormed.privateKey
  have publicKey := survives_setting (by decide : isSettingKey "PublicKey".toList = true)
    wellFormed.publicKey
  have keepaliveLine := survives_setting
    (by decide : isSettingKey "PersistentKeepalive".toList = true) plainKeepalive
  simp only [bodyTexts, List.forall_mem_append, List.forall_mem_cons]
  constructor
  · rintro ⟨⟨_, _, address, _⟩, middleSurvives, _, _, endpointSurvives, _⟩
    exact ⟨address, middleSurvives, endpointSurvives⟩
  · rintro ⟨address, middleSurvives, endpointSurvives⟩
    exact ⟨⟨header, privateKey, address, fun _ member => absurd member List.not_mem_nil⟩,
      middleSurvives, peer, publicKey, endpointSurvives, allowedIps, keepaliveLine,
      fun _ member => absurd member List.not_mem_nil⟩

include addressEnds endpointEnds middleEnds allowedIps in
/-- Sanitising twice shows in a configuration exactly when it shows in the address, in a line
between the address and the public key, or in the endpoint. -/
theorem sanitized_layout_iff :
    seenText (sanitizeAwgConf (sanitizeAwgConf
          (join "\n" (layout middle endpoint keepalive values) ++ "\n"))) =
        seenText (join "\n" (layout middle endpoint keepalive values) ++ "\n") ↔
      Survives (settingLine "Address" values.address) ∧ (∀ line ∈ middle, Survives line) ∧
        Survives (settingLine "Endpoint" endpoint) := by
  have lines := linesOf_layout wellFormed middle endpoint keepalive
  have lastVisible : (settingLine "PresharedKey" values.presharedKey).toList ≠ [] := fun empty =>
    (endsVisibly_setting (plain_ends wellFormed.presharedKey)).1 (String.toList_eq_nil_iff.mp empty)
  have lastSurvives := survives_setting (by decide : isSettingKey "PresharedKey".toList = true)
    wellFormed.presharedKey
  rw [Survives, linesOf_setting (by decide) (plain_unbroken wellFormed.presharedKey)] at lastSurvives
  have ends := bodyTexts_end wellFormed addressEnds endpointEnds middleEnds plainKeepalive
  have groupsEnd : ∀ group ∈ (bodyTexts middle endpoint keepalive values).map (fun text =>
      linesOf text.toList), ∃ front last, group = front ++ [last] ∧ last ≠ [] := by
    intro group member
    obtain ⟨text, inBody, rfl⟩ := List.mem_map.mp member
    exact (ends text inBody).last
  obtain ⟨rest, headed⟩ : ∃ rest, ((bodyTexts middle endpoint keepalive values).map (fun text =>
      linesOf text.toList)).flatten = interfaceHeader :: rest := ⟨_, rfl⟩
  rw [sanitized_twice_iff (lines.trans (by rw [headed])) lastVisible, ← headed,
    undisturbed_flatten groupsEnd, List.forall_mem_map,
    ← bodyTexts_survive_iff wellFormed allowedIps plainKeepalive]
  exact and_iff_left lastSurvives

end Layout

/-! ### The configurations of a call -/

/-- What `build_config` makes of the address of a call. -/
def clientAddress (keys : ClientKeys) : String :=
  strip (orDefault (some keys.address) defaultAddress)

/-- What it makes of the DNS. -/
def shownDns (link : LinkSettings) : String :=
  dnsText (some (orDefault (some link.dns) "1.1.1.1, 1.0.0.1, 8.8.8.8, 8.8.4.4"))

/-- The lines between the address and the blank line. -/
def middleLines (link : LinkSettings) (mtu : Option Int) (obf : Obfuscation) : List String :=
  settingLine "DNS" (shownDns link) :: (mtuLines mtu ++ obfuscationLines obf)

theorem validateAllowedIps_tunnel {allowedIps : String}
    (tunnel : allowedIps = "0.0.0.0/0" ∨ allowedIps = fullTunnel) :
    validateAllowedIps allowedIps = .ok allowedIps := by
  obtain rfl | rfl := tunnel
  · decide +kernel
  · decide +kernel

theorem survives_tunnel {allowedIps : String}
    (tunnel : allowedIps = "0.0.0.0/0" ∨ allowedIps = fullTunnel) :
    Survives (settingLine "AllowedIPs" allowedIps) := by
  unfold Survives
  obtain rfl | rfl := tunnel
  · decide +kernel
  · decide +kernel

/-! ### The lines between the address and the key of the server -/

def signatureText : Json → Option String
  | .str raw => some (strip raw)
  | _ => none

/-- The lines of `I1` to `I5`. -/
def signatureLines (obf : Obfuscation) : List String :=
  signatureKeys.filterMap (fun key =>
    ((setValue obf key).bind signatureText).map (settingLine key))

theorem mem_signatureLines {obf : Obfuscation} {line : String} :
    line ∈ signatureLines obf ↔
      ∃ key ∈ signatureKeys, ∃ raw, setValue obf key = some (.str raw) ∧
        line = settingLine key (strip raw) := by
  simp only [signatureLines, List.mem_filterMap, Option.map_eq_some_iff, Option.bind_eq_some_iff]
  constructor
  · rintro ⟨key, isSignature, _, ⟨value, isSet, shown⟩, rfl⟩
    cases value with
    | str raw =>
        obtain rfl := Option.some.inj shown
        exact ⟨key, isSignature, raw, isSet, rfl⟩
    | _ => cases shown
  · rintro ⟨key, isSignature, raw, isSet, rfl⟩
    exact ⟨key, isSignature, strip raw, ⟨.str raw, isSet, rfl⟩, rfl⟩

theorem mem_obfuscationLines {obf : Obfuscation} {line : String} :
    line ∈ obfuscationLines obf ↔
      ∃ key ∈ awgEmitOrder, ∃ value, obf.get? key = some value ∧
        line = settingLine key value.toText := by
  simp only [obfuscationLines, List.mem_filterMap, Option.map_eq_some_iff]
  constructor
  · rintro ⟨key, emitted, value, stored, rfl⟩
    exact ⟨key, emitted, value, stored, rfl⟩
  · rintro ⟨key, emitted, value, stored, rfl⟩
    exact ⟨key, emitted, value, stored, rfl⟩

theorem emitted_named {key : String} (emitted : key ∈ awgEmitOrder) :
    isSettingKey key.toList = true := by
  have all : awgEmitOrder.all (fun key => isSettingKey key.toList) = true := by decide
  exact List.all_eq_true.mp all key emitted

theorem signature_emitted {key : String} (isSignature : key ∈ signatureKeys) :
    key ∈ awgEmitOrder := by
  have all : signatureKeys.all (fun key => key ∈ awgEmitOrder) = true := by decide
  simpa using List.all_eq_true.mp all key isSignature

/-- A line of the obfuscation is that of a signature, or has a plain value. -/
theorem obfuscationLines_cases {obf normalized : Obfuscation}
    (isNormal : NormalisedFrom obf normalized) {line : String}
    (member : line ∈ obfuscationLines normalized) :
    line ∈ signatureLines obf ∨
      ∃ key ∈ awgEmitOrder, ∃ value, isPlainValue value.toList = true ∧
        line = settingLine key value := by
  obtain ⟨key, emitted, value, stored, rfl⟩ := mem_obfuscationLines.mp member
  obtain plain | ⟨isSignature, raw, isSet, _, rfl⟩ := isNormal.entries key value stored
  · exact Or.inr ⟨key, emitted, value.toText, plain, rfl⟩
  · exact Or.inl (mem_signatureLines.mpr ⟨key, isSignature, raw, isSet, rfl⟩)

theorem signatureLines_subset {obf normalized : Obfuscation}
    (isNormal : NormalisedFrom obf normalized) {line : String} (member : line ∈ signatureLines obf) :
    line ∈ obfuscationLines normalized := by
  obtain ⟨key, isSignature, raw, isSet, rfl⟩ := mem_signatureLines.mp member
  exact mem_obfuscationLines.mpr ⟨key, signature_emitted isSignature, .str (strip raw),
    isNormal.signatures key isSignature raw isSet, rfl⟩

theorem mtuLines_cases {mtu : Option Int} {line : String} (member : line ∈ mtuLines mtu) :
    ∃ value, isPlainValue value.toList = true ∧ line = settingLine "MTU" value := by
  rw [mtuLines, Option.mem_toList, Option.map_eq_some_iff] at member
  obtain ⟨number, _, rfl⟩ := member
  have tokens := toString_tokens number
  exact ⟨toString number, isPlainValue_of_tokens tokens.1 tokens.2, rfl⟩

theorem shownDns_ends (link : LinkSettings) : (shownDns link).toList.getLast? ≠ some '\n' := by
  unfold shownDns dnsText
  split
  · decide
  · exact strip_ends _

theorem middleLines_end {obf normalized : Obfuscation} (isNormal : NormalisedFrom obf normalized)
    (link : LinkSettings) (mtu : Option Int) :
    ∀ line ∈ middleLines link mtu normalized, EndsVisibly line := by
  intro line member
  obtain rfl | later := List.mem_cons.mp member
  · exact endsVisibly_setting (shownDns_ends link)
  · obtain inMtu | inObf := List.mem_append.mp later
    · obtain ⟨value, plain, rfl⟩ := mtuLines_cases inMtu
      exact endsVisibly_setting (plain_ends plain)
    · obtain signature | ⟨key, _, value, plain, rfl⟩ := obfuscationLines_cases isNormal inObf
      · obtain ⟨key, _, raw, _, rfl⟩ := mem_signatureLines.mp signature
        exact endsVisibly_setting (strip_ends raw)
      · exact endsVisibly_setting (plain_ends plain)

/-- Of these lines only the DNS and the signatures may not survive. -/
theorem middleLines_survive_iff {obf normalized : Obfuscation}
    (isNormal : NormalisedFrom obf normalized) (link : LinkSettings) (mtu : Option Int) :
    (∀ line ∈ middleLines link mtu normalized, Survives line) ↔
      Survives (settingLine "DNS" (shownDns link)) ∧ ∀ line ∈ signatureLines obf, Survives line := by
  constructor
  · intro all
    refine ⟨all _ List.mem_cons_self, ?_⟩
    intro line member
    exact all line (List.mem_cons_of_mem _
      (List.mem_append_right _ (signatureLines_subset isNormal member)))
  · rintro ⟨dns, signatures⟩ line member
    obtain rfl | later := List.mem_cons.mp member
    · exact dns
    · obtain inMtu | inObf := List.mem_append.mp later
      · obtain ⟨value, plain, rfl⟩ := mtuLines_cases inMtu
        exact survives_setting (by decide) plain
      · obtain signature | ⟨key, emitted, value, plain, rfl⟩ :=
          obfuscationLines_cases isNormal inObf
        · exact signatures line signature
        · exact survives_setting (emitted_named emitted) plain

section Calls

variable {settings : IssueSettings} {sources : LiveSources} {answers : RuntimeAnswers}
  {server : IssueServer}

def shownEndpoint (settings : IssueSettings) (sources : LiveSources) (answers : RuntimeAnswers)
    (server : IssueServer) : String :=
  strip ((clientEndpoint settings sources answers server).getD "")

def clientValues (server : IssueServer) (serverKey allowedIps : String) (keys : ClientKeys) :
    ClientValues :=
  { privateKey := strip keys.privateKey
    address := clientAddress keys
    publicKey := strip serverKey
    allowedIps := allowedIps
    presharedKey := strip (clientPresharedKey server keys.generatedPresharedKey) }

theorem clientPresharedKey_ne_empty (server : IssueServer) (keys : ClientKeys) :
    clientPresharedKey server keys.generatedPresharedKey ≠ "" := by
  have chosen : ∀ text : String, (orNone (strip text)).getD keys.generatedPresharedKey ≠ "" := by
    intro text
    cases stripped : orNone (strip text) with
    | none => exact keys.generated
    | some key =>
        have visible := orNone_eq_some stripped
        exact visible.2
  unfold clientPresharedKey
  dsimp only
  split
  · exact chosen _
  · exact keys.generated

/-- A configuration of a call has the layout, and what stands in it is well formed. -/
theorem buildConfig_layout {serverKey allowedIps : String} {link : LinkSettings} {obf : Obfuscation}
    {keys : ClientKeys} {profile : ConfigProfile} {obfuscation : Option Obfuscation} {text : String}
    (tunnel : allowedIps = "0.0.0.0/0" ∨ allowedIps = fullTunnel)
    (built : buildConfig
      ((configRequest settings sources answers server serverKey allowedIps link obf keys).interface
        "1.1.1.1, 1.0.0.1, 8.8.8.8, 8.8.4.4")
      (configRequest settings sources answers server serverKey allowedIps link obf keys).peer
      profile obfuscation = .ok text) :
    (clientValues server serverKey allowedIps keys).WellFormed ∧
      ∃ normalized, normalizedObfuscation profile obfuscation
          (effectiveMtu profile (some link.mtu)) = .ok normalized ∧
        text = join "\n" (layout
          (middleLines link (effectiveMtu profile (some link.mtu)) normalized)
          (shownEndpoint settings sources answers server) (toString link.keepalive)
          (clientValues server serverKey allowedIps keys)) ++ "\n" := by
  obtain ⟨normalized, presharedKey, checked, isNormal, keyed, rfl⟩ := buildConfig_ok built
  obtain ⟨privateKey, privateSome, privateTokens⟩ := validateKeyB64_ok checked.privateKey
  obtain ⟨publicKey, publicSome, publicTokens⟩ := validateKeyB64_ok checked.publicKey
  obtain ⟨address, _⟩ := validateAddress_ok checked.address
  obtain ⟨endpoint, _⟩ := validateEndpoint_ok checked.endpoint
  have sameIps := checked.allowedIps.symm.trans (validateAllowedIps_tunnel tunnel)
  obtain ⟨secret, secretChecked, rfl⟩ :=
    presharedKeyLines_ok (clientPresharedKey_ne_empty server keys) keyed
  obtain ⟨rfl, secretSome, secretTokens⟩ := validateKeyB64_ok secretChecked
  rw [privateKey] at privateSome privateTokens
  rw [publicKey] at publicSome publicTokens
  refine ⟨⟨isPlainValue_of_tokens privateSome privateTokens,
    isPlainValue_of_tokens publicSome publicTokens,
    isPlainValue_of_tokens secretSome secretTokens, ?_⟩, normalized, isNormal, ?_⟩
  · obtain rfl | rfl := tunnel
    · exact (by decide : '\n' ∉ "0.0.0.0/0".toList)
    · exact (by decide : '\n' ∉ fullTunnel.toList)
  · refine congrArg (fun lines => join "\n" lines ++ "\n") ?_
    unfold configLines layout middleLines
    rw [privateKey, publicKey, address, endpoint, Except.ok.inj sameIps]
    simp only [List.cons_append, List.nil_append, List.append_assoc]
    rfl

theorem selectAwgProfile_obfuscates (obf : Option Obfuscation) :
    selectAwgProfile obf ≠ .wireguardUniversal := by
  unfold selectAwgProfile
  split
  · exact nofun
  · split
    · exact nofun
    · exact nofun

/-- The AmneziaWG and the plain configuration of a call have the same layout. -/
structure CallLayout (settings : IssueSettings) (sources : LiveSources) (answers : RuntimeAnswers)
    (server : IssueServer) (obf : Obfuscation) (serverKey allowedIps : String) (link : LinkSettings)
    (keys : ClientKeys) (configs : ClientConfigs) (normalized : Obfuscation) : Prop where
  wellFormed : (clientValues server serverKey allowedIps keys).WellFormed
  isNormal : normalizedObfuscation (selectAwgProfile (some obf)) (some obf)
    (effectiveMtu (selectAwgProfile (some obf)) (some link.mtu)) = .ok normalized
  awg : configs.awg = join "\n" (layout
    (middleLines link (effectiveMtu (selectAwgProfile (some obf)) (some link.mtu)) normalized)
    (shownEndpoint settings sources answers server) (toString link.keepalive)
    (clientValues server serverKey allowedIps keys)) ++ "\n"
  wg : configs.wg = join "\n" (layout
    (middleLines link (effectiveMtu .wireguardUniversal (some link.mtu)) Dict.empty)
    (shownEndpoint settings sources answers server) (toString link.keepalive)
    (clientValues server serverKey allowedIps keys)) ++ "\n"

theorem builtConfigs_layout {serverKey allowedIps : String} {link : LinkSettings}
    {obf : Obfuscation} {keys : ClientKeys} {configs : ClientConfigs}
    (tunnel : allowedIps = "0.0.0.0/0" ∨ allowedIps = fullTunnel)
    (built : builtConfigs settings sources answers server serverKey allowedIps link obf keys =
      .ok configs) :
    ∃ normalized, CallLayout settings sources answers server obf serverKey allowedIps link keys
      configs normalized := by
  unfold builtConfigs at built
  split at built
  · cases built
  · rename_i result returned
    obtain rfl := Except.ok.inj built
    obtain ⟨awg, awgBuilt, step⟩ := bind_eq_ok.mp returned
    obtain ⟨wgObf, _, step⟩ := bind_eq_ok.mp step
    obtain ⟨wg, wgBuilt, step⟩ := bind_eq_ok.mp step
    obtain rfl := Except.ok.inj step
    obtain ⟨wellFormed, normalized, isNormal, awgText⟩ := buildConfig_layout tunnel awgBuilt
    obtain ⟨_, universal, isUniversal, wgText⟩ := buildConfig_layout tunnel wgBuilt
    obtain rfl := Except.ok.inj isUniversal
    exact ⟨normalized, wellFormed, isNormal, awgText, wgText⟩

/-- Two plain configurations of one server are the same but for the clients exactly when the
addresses end alike and the keys of the server and the AllowedIPs are the same. -/
theorem wg_seen_iff {leftKey rightKey leftIps rightIps : String} {link : LinkSettings}
    {obf left right : Obfuscation} {leftKeys rightKeys : ClientKeys}
    {first second : ClientConfigs}
    (firstCall : CallLayout settings sources answers server obf leftKey leftIps link leftKeys first
      left)
    (secondCall : CallLayout settings sources answers server obf rightKey rightIps link rightKeys
      second right) :
    seenText first.wg = seenText second.wg ↔
      seenText (settingLine "Address" (clientAddress leftKeys)) =
          seenText (settingLine "Address" (clientAddress rightKeys)) ∧
        strip leftKey = strip rightKey ∧ leftIps = rightIps := by
  rw [firstCall.wg, secondCall.wg]
  exact seen_layouts_iff firstCall.wellFormed secondCall.wellFormed _ _ _

/-- Two AmneziaWG configurations differ where the plain ones do. -/
theorem awg_seen_iff_wg {leftKey rightKey leftIps rightIps : String} {link : LinkSettings}
    {obf left right : Obfuscation} {leftKeys rightKeys : ClientKeys}
    {first second : ClientConfigs}
    (firstCall : CallLayout settings sources answers server obf leftKey leftIps link leftKeys first
      left)
    (secondCall : CallLayout settings sources answers server obf rightKey rightIps link rightKeys
      second right) :
    seenText first.awg = seenText second.awg ↔ seenText first.wg = seenText second.wg := by
  obtain rfl := Except.ok.inj (firstCall.isNormal.symm.trans secondCall.isNormal)
  rw [wg_seen_iff firstCall secondCall, firstCall.awg, secondCall.awg]
  exact seen_layouts_iff firstCall.wellFormed secondCall.wellFormed _ _ _

/-- Sanitising does not show in an AmneziaWG configuration exactly when it does not show in the
address, the DNS, the signatures and the endpoint. -/
theorem sanitized_call_iff {serverKey allowedIps : String} {link : LinkSettings}
    {obf normalized : Obfuscation} {keys : ClientKeys} {configs : ClientConfigs}
    (tunnel : allowedIps = "0.0.0.0/0" ∨ allowedIps = fullTunnel)
    (call : CallLayout settings sources answers server obf serverKey allowedIps link keys configs
      normalized) :
    seenText (sanitizeAwgConf (sanitizeAwgConf configs.awg)) = seenText configs.awg ↔
      Survives (settingLine "Address" (clientAddress keys)) ∧
        (Survives (settingLine "DNS" (shownDns link)) ∧
          ∀ line ∈ signatureLines obf, Survives line) ∧
        Survives (settingLine "Endpoint" (shownEndpoint settings sources answers server)) := by
  have isNormal := normalizedObfuscation_ok (selectAwgProfile_obfuscates (some obf)) call.isNormal
  have keepalive := toString_tokens link.keepalive
  have addressEnds : (clientAddress keys).toList.getLast? ≠ some '\n' := strip_ends _
  have endpointEnds : (shownEndpoint settings sources answers server).toList.getLast? ≠ some '\n' :=
    strip_ends _
  rw [← middleLines_survive_iff isNormal link, call.awg]
  exact sanitized_layout_iff call.wellFormed addressEnds endpointEnds
    (middleLines_end isNormal link _) (survives_tunnel tunnel)
    (isPlainValue_of_tokens keepalive.1 keepalive.2)

theorem allowedIpsFullTunnel_cases (server : IssueServer) :
    allowedIpsFullTunnel server = "0.0.0.0/0" ∨ allowedIpsFullTunnel server = fullTunnel := by
  unfold allowedIpsFullTunnel
  split
  · exact Or.inl rfl
  · exact Or.inr rfl

theorem issueConfigs_ok {keys : ClientKeys} {configs : ClientConfigs}
    (issued : issueConfigs settings sources answers server keys = .ok configs) :
    ∃ serverKey link obf, issueServerKey settings.fleet sources server.row = .ok serverKey ∧
      linkSettings server = .ok link ∧
      clientObfuscation settings sources answers server = .ok obf ∧
      builtConfigs settings sources answers server serverKey (allowedIpsFullTunnel server) link obf
        keys = .ok configs := by
  obtain ⟨serverKey, keyed, step⟩ := bind_eq_ok.mp issued
  obtain ⟨obf, obfuscated, step⟩ := bind_eq_ok.mp step
  obtain ⟨link, linked, built⟩ := bind_eq_ok.mp step
  exact ⟨serverKey, link, obf, fromKey_eq_ok.mp keyed, fromProfile_eq_ok.mp linked,
    fromProfile_eq_ok.mp obfuscated, fromProfile_eq_ok.mp built⟩

theorem adminIssueConfigs_ok {keys : ClientKeys} {configs : ClientConfigs}
    (issued : adminIssueConfigs settings sources answers server keys = .ok configs) :
    ∃ serverKey link obf raw, adminServerKey settings.fleet sources server.row = .ok serverKey ∧
      linkSettings server = .ok link ∧
      clientObfuscation settings sources answers server = .ok obf ∧
      builtConfigs settings sources answers server serverKey (allowedIpsFullTunnel server) link obf
        keys = .ok raw ∧
      configs = { raw with awg := sanitizeAwgConf (sanitizeAwgConf raw.awg) } := by
  obtain ⟨serverKey, keyed, step⟩ := bind_eq_ok.mp issued
  obtain ⟨link, linked, step⟩ := bind_eq_ok.mp step
  obtain ⟨obf, obfuscated, step⟩ := bind_eq_ok.mp step
  obtain ⟨raw, built, step⟩ := bind_eq_ok.mp step
  exact ⟨serverKey, link, obf, raw, fromKey_eq_ok.mp keyed, fromProfile_eq_ok.mp linked,
    fromProfile_eq_ok.mp obfuscated, fromProfile_eq_ok.mp built, (Except.ok.inj step).symm⟩

theorem rotateConfigs_ok {keys : ClientKeys} {configs : ClientConfigs}
    (rotated : rotateConfigs settings sources answers server keys = .ok configs) :
    ∃ serverKey link obf, adminServerKey settings.fleet sources server.row = .ok serverKey ∧
      linkSettings server = .ok link ∧
      clientObfuscation settings sources answers server = .ok obf ∧
      builtConfigs settings sources answers server serverKey fullTunnel link obf keys =
        .ok configs := by
  obtain ⟨serverKey, keyed, step⟩ := bind_eq_ok.mp rotated
  obtain ⟨link, linked, step⟩ := bind_eq_ok.mp step
  obtain ⟨obf, obfuscated, built⟩ := bind_eq_ok.mp step
  exact ⟨serverKey, link, obf, fromKey_eq_ok.mp keyed, fromProfile_eq_ok.mp linked,
    fromProfile_eq_ok.mp obfuscated, fromProfile_eq_ok.mp built⟩

end Calls

/-! ### When the three calls agree -/

/-- The configurations are the same, but for what belongs to one client. -/
def SameConfigs (issued admin rotated : ClientConfigs) : Prop :=
  (seenText issued.awg = seenText admin.awg ∧ seenText admin.awg = seenText rotated.awg) ∧
    seenText issued.wg = seenText admin.wg ∧ seenText admin.wg = seenText rotated.wg

/-- The profile asks for both address families, the calls take the same server key, what follows
a line break in an address is the same, and sanitising does not show in a value that is not
restricted to plain characters. -/
structure Agreement (settings : IssueSettings) (sources : LiveSources) (answers : RuntimeAnswers)
    (server : IssueServer) (issued admin rotated : ClientKeys) : Prop where
  bothFamilies : server.disablesIpv6 = false
  serverKey : issueServerKey settings.fleet sources server.row =
    adminServerKey settings.fleet sources server.row
  issuedAddress : seenText (settingLine "Address" (clientAddress issued)) =
    seenText (settingLine "Address" (clientAddress admin))
  rotatedAddress : seenText (settingLine "Address" (clientAddress admin)) =
    seenText (settingLine "Address" (clientAddress rotated))
  address : Survives (settingLine "Address" (clientAddress admin))
  endpoint : Survives (settingLine "Endpoint" (shownEndpoint settings sources answers server))
  dns : ∀ link, linkSettings server = .ok link →
    Survives (settingLine "DNS" (shownDns link))
  signatures : ∀ obf, clientObfuscation settings sources answers server = .ok obf →
    ∀ line ∈ signatureLines obf, Survives line

theorem allowedIpsFullTunnel_eq_iff (server : IssueServer) :
    allowedIpsFullTunnel server = fullTunnel ↔ server.disablesIpv6 = false := by
  unfold allowedIpsFullTunnel
  cases server.disablesIpv6 with
  | true => exact iff_of_false (by decide) (by decide)
  | false => exact iff_of_true rfl rfl

/-- A rotation asks for both families, whatever the profile says. -/
theorem bothFamilies_of_rotated {settings : IssueSettings} {sources : LiveSources}
    {answers : RuntimeAnswers} {server : IssueServer} {admin rotated : ClientKeys}
    {second third : ClientConfigs}
    (adminIssue : adminIssueConfigs settings sources answers server admin = .ok second)
    (rotate : rotateConfigs settings sources answers server rotated = .ok third)
    (same : seenText second.wg = seenText third.wg) : server.disablesIpv6 = false := by
  obtain ⟨adminKey, link, obf, raw, _, linked, obfuscated, adminBuilt, rfl⟩ :=
    adminIssueConfigs_ok adminIssue
  obtain ⟨rotateKey, sameLink, sameObf, _, linkedAgain, obfuscatedAgain, rotateBuilt⟩ :=
    rotateConfigs_ok rotate
  obtain rfl := Except.ok.inj (linked.symm.trans linkedAgain)
  obtain rfl := Except.ok.inj (obfuscated.symm.trans obfuscatedAgain)
  obtain ⟨_, adminCall⟩ := builtConfigs_layout (allowedIpsFullTunnel_cases server) adminBuilt
  obtain ⟨_, rotateCall⟩ := builtConfigs_layout (Or.inr rfl) rotateBuilt
  obtain ⟨_, _, ips⟩ := (wg_seen_iff adminCall rotateCall).mp same
  exact (allowedIpsFullTunnel_eq_iff server).mp ips

/-- Where all three calls succeed, they emit the same configuration exactly when they agree. -/
theorem same_configs_iff (settings : IssueSettings) (sources : LiveSources)
    (answers : RuntimeAnswers) (server : IssueServer) (issued admin rotated : ClientKeys)
    {first second third : ClientConfigs}
    (issue : issueConfigs settings sources answers server issued = .ok first)
    (adminIssue : adminIssueConfigs settings sources answers server admin = .ok second)
    (rotate : rotateConfigs settings sources answers server rotated = .ok third) :
    SameConfigs first second third ↔
      Agreement settings sources answers server issued admin rotated := by
  obtain ⟨issueKey, link, obf, issueKeyed, linked, obfuscated, issueBuilt⟩ := issueConfigs_ok issue
  obtain ⟨adminKey, sameLink, sameObf, raw, adminKeyed, linkedAgain, obfuscatedAgain, adminBuilt,
    rfl⟩ := adminIssueConfigs_ok adminIssue
  obtain rfl := Except.ok.inj (linked.symm.trans linkedAgain)
  obtain rfl := Except.ok.inj (obfuscated.symm.trans obfuscatedAgain)
  obtain ⟨rotateKey, sameLink, sameObf, rotateKeyed, linkedAgain, obfuscatedAgain, rotateBuilt⟩ :=
    rotateConfigs_ok rotate
  obtain rfl := Except.ok.inj (linked.symm.trans linkedAgain)
  obtain rfl := Except.ok.inj (obfuscated.symm.trans obfuscatedAgain)
  obtain rfl := Except.ok.inj (adminKeyed.symm.trans rotateKeyed)
  have tunnel := allowedIpsFullTunnel_cases server
  obtain ⟨issueNormal, issueCall⟩ := builtConfigs_layout tunnel issueBuilt
  obtain ⟨adminNormal, adminCall⟩ := builtConfigs_layout tunnel adminBuilt
  obtain ⟨rotateNormal, rotateCall⟩ := builtConfigs_layout (Or.inr rfl) rotateBuilt
  have issueAndAdmin := wg_seen_iff issueCall adminCall
  have adminAndRotate := wg_seen_iff adminCall rotateCall
  have issueAwg := awg_seen_iff_wg issueCall adminCall
  have rotateAwg := awg_seen_iff_wg adminCall rotateCall
  have sanitized := sanitized_call_iff tunnel adminCall
  have sameKey : strip issueKey = strip adminKey ↔
      issueServerKey settings.fleet sources server.row =
        adminServerKey settings.fleet sources server.row := by
    rw [issueServerKey_stripped issueKeyed, adminServerKey_stripped adminKeyed, issueKeyed,
      adminKeyed, Except.ok.injEq]
  constructor
  · -- the plain configurations fix the keys and the addresses; then sanitising is all that is left
    rintro ⟨⟨firstAwg, secondAwg⟩, firstWg, secondWg⟩
    obtain ⟨issuedAddress, keys, _⟩ := issueAndAdmin.mp firstWg
    obtain ⟨rotatedAddress, _, _⟩ := adminAndRotate.mp secondWg
    obtain ⟨address, ⟨dns, signatures⟩, endpoint⟩ :=
      sanitized.mp (firstAwg.symm.trans (issueAwg.mpr firstWg))
    refine ⟨bothFamilies_of_rotated adminIssue rotate secondWg, sameKey.mp keys, issuedAddress,
      rotatedAddress, address, endpoint, ?_, ?_⟩
    · intro other linkedSo
      obtain rfl := Except.ok.inj (linked.symm.trans linkedSo)
      exact dns
    · intro other obfuscatedSo
      obtain rfl := Except.ok.inj (obfuscated.symm.trans obfuscatedSo)
      exact signatures
  · rintro ⟨bothFamilies, serverKey, issuedAddress, rotatedAddress, address, endpoint, dns,
      signatures⟩
    have firstWg := issueAndAdmin.mpr ⟨issuedAddress, sameKey.mpr serverKey, rfl⟩
    have secondWg := adminAndRotate.mpr
      ⟨rotatedAddress, rfl, (allowedIpsFullTunnel_eq_iff server).mpr bothFamilies⟩
    have unseen := sanitized.mpr
      ⟨address, ⟨dns link linked, signatures obf obfuscated⟩, endpoint⟩
    refine ⟨⟨?_, ?_⟩, firstWg, secondWg⟩
    · exact (issueAwg.mpr firstWg).trans unseen.symm
    · exact unseen.trans (rotateAwg.mpr secondWg)

def sampleClientKeys (address : String) : ClientKeys :=
  ⟨sampleKey, sampleKey, address, sampleKey_nonempty⟩

theorem succeeded {result : Except ConfigError ClientConfigs}
    (isOk : result.toOption.isSome = true) : ∃ configs, result = .ok configs := by
  cases result with
  | error error => cases isOk
  | ok configs => exact ⟨configs, rfl⟩

/-- A profile that disables IPv6 is issued `0.0.0.0/0` and rotated to both families. -/
theorem ipv4_profile_rotates_to_both_families :
    ∃ first second third,
      issueConfigs sampleIssueSettings sampleLiveSources sampleAnswers (sampleIssueServer [] true)
        (sampleClientKeys "10.8.1.2/32") = .ok first ∧
      adminIssueConfigs sampleIssueSettings sampleLiveSources sampleAnswers
        (sampleIssueServer [] true) (sampleClientKeys "10.8.1.3/32") = .ok second ∧
      rotateConfigs sampleIssueSettings sampleLiveSources sampleAnswers
        (sampleIssueServer [] true) (sampleClientKeys "10.8.1.4/32") = .ok third ∧
      ¬ SameConfigs first second third := by
  obtain ⟨first, issue⟩ := succeeded (by decide +kernel :
    (issueConfigs sampleIssueSettings sampleLiveSources sampleAnswers (sampleIssueServer [] true)
      (sampleClientKeys "10.8.1.2/32")).toOption.isSome = true)
  obtain ⟨second, adminIssue⟩ := succeeded (by decide +kernel :
    (adminIssueConfigs sampleIssueSettings sampleLiveSources sampleAnswers
      (sampleIssueServer [] true) (sampleClientKeys "10.8.1.3/32")).toOption.isSome = true)
  obtain ⟨third, rotate⟩ := succeeded (by decide +kernel :
    (rotateConfigs sampleIssueSettings sampleLiveSources sampleAnswers
      (sampleIssueServer [] true) (sampleClientKeys "10.8.1.4/32")).toOption.isSome = true)
  refine ⟨first, second, third, issue, adminIssue, rotate, ?_⟩
  rintro ⟨_, _, rotatedWg⟩
  have flagged : (sampleIssueServer [] true).disablesIpv6 = true := rfl
  rw [bothFamilies_of_rotated adminIssue rotate rotatedWg] at flagged
  cases flagged

/-- A profile of both families with parameters of its own. -/
def sampleParams : List (String × Json) :=
  [("dns", .str "9.9.9.9"), ("mtu", .int 1380), ("amnezia_i1", .str "<b 0xc0>")]

/-- Its three configurations are the same but for the clients. -/
theorem both_families_profile_agrees :
    ∃ first second third,
      issueConfigs sampleIssueSettings sampleLiveSources sampleAnswers
        (sampleIssueServer sampleParams false) (sampleClientKeys "10.8.1.2/32") = .ok first ∧
      adminIssueConfigs sampleIssueSettings sampleLiveSources sampleAnswers
        (sampleIssueServer sampleParams false) (sampleClientKeys "10.8.1.3/32") = .ok second ∧
      rotateConfigs sampleIssueSettings sampleLiveSources sampleAnswers
        (sampleIssueServer sampleParams false) (sampleClientKeys "10.8.1.4/32") = .ok third ∧
      SameConfigs first second third := by
  obtain ⟨first, issue⟩ := succeeded (by decide +kernel :
    (issueConfigs sampleIssueSettings sampleLiveSources sampleAnswers
      (sampleIssueServer sampleParams false)
      (sampleClientKeys "10.8.1.2/32")).toOption.isSome = true)
  obtain ⟨second, adminIssue⟩ := succeeded (by decide +kernel :
    (adminIssueConfigs sampleIssueSettings sampleLiveSources sampleAnswers
      (sampleIssueServer sampleParams false)
      (sampleClientKeys "10.8.1.3/32")).toOption.isSome = true)
  obtain ⟨third, rotate⟩ := succeeded (by decide +kernel :
    (rotateConfigs sampleIssueSettings sampleLiveSources sampleAnswers
      (sampleIssueServer sampleParams false)
      (sampleClientKeys "10.8.1.4/32")).toOption.isSome = true)
  refine ⟨first, second, third, issue, adminIssue, rotate, (same_configs_iff sampleIssueSettings
    sampleLiveSources sampleAnswers (sampleIssueServer sampleParams false)
    (sampleClientKeys "10.8.1.2/32") (sampleClientKeys "10.8.1.3/32")
    (sampleClientKeys "10.8.1.4/32") issue adminIssue rotate).mpr ?_⟩
  have dns : (linkSettings (sampleIssueServer sampleParams false)).toOption.all (fun link =>
      decide (Survives (settingLine "DNS" (shownDns link)))) = true := by decide +kernel
  have signatures : (clientObfuscation sampleIssueSettings sampleLiveSources sampleAnswers
      (sampleIssueServer sampleParams false)).toOption.all (fun obf =>
        (signatureLines obf).all (fun line => decide (Survives line))) = true := by decide +kernel
  refine ⟨rfl, by decide +kernel, by decide +kernel, by decide +kernel, by decide +kernel,
    by decide +kernel, ?_, ?_⟩
  · intro link linked
    rw [linked] at dns
    exact of_decide_eq_true dns
  · intro obf obfuscated line member
    rw [obfuscated] at signatures
    exact of_decide_eq_true (List.all_eq_true.mp signatures line member)

end VpnSuite.Fleet
