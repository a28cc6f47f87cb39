/-
What a peer with a preshared key makes a node run.

Both callers interpolate the allowed addresses into the script unquoted.  The
script is the intended two-command pipeline exactly when those addresses are one
plain shell word; the key itself is quoted and always arrives unchanged.
-/

import VpnSuite.Agent.ReconcileDiff
import VpnSuite.Runtime.DockerAddPeer

set_option autoImplicit false

namespace VpnSuite.Runtime

open Foundations
open Foundations.PythonText
open Foundations.PosixShell

/-- `command` is a shell script that reads as `printf … <psk> | wg set …`, with the
very arguments the command without a key passes to its program. -/
def RunsPipeline (command keyless : List String) (iface publicKey allowedIps : String)
    (keepalive : Int) (psk : String) : Prop :=
  ∃ script program : String,
    command = ["sh", "-c", script] ∧
    keyless = program :: wgSetArgs iface publicKey allowedIps keepalive ∧
    tokens script.toList =
      some (pskPipeline psk (wgSetArgs iface publicKey allowedIps keepalive))

theorem runsPipeline_iff {iface publicKey : String} (ifacePlain : plainWord iface.toList = true)
    (keyPlain : plainWord publicKey.toList = true) (program allowedIps : String)
    (keepalive : Int) (psk : String) :
    RunsPipeline ["sh", "-c", pskScript iface publicKey allowedIps keepalive psk]
        (program :: wgSetArgs iface publicKey allowedIps keepalive) iface publicKey allowedIps
        keepalive psk ↔
      plainWord allowedIps.toList = true ∧ Char.ofNat 0 ∉ psk.toList := by
  rw [← tokens_pskScript_iff ifacePlain keyPlain allowedIps keepalive psk]
  constructor
  · rintro ⟨script, _, sameCommand, _, reads⟩
    have sameScript : pskScript iface publicKey allowedIps keepalive psk = script := by
      simpa using sameCommand
    rw [sameScript]
    exact reads
  · intro reads
    exact ⟨_, program, rfl, rfl, reads⟩

/-! ### Sanitised names are plain words -/

theorem interfaceName_free :
    reserved.all (fun char => !Agent.isInterfaceNameChar char) = true := by decide

theorem publicKey_free : reserved.all (fun char => !Agent.isPublicKeyChar char) = true := by
  decide

theorem plainWord_of_fullmatch {inClass : Char → Bool} {low high : Nat} {text : String}
    (free : reserved.all (fun char => !inClass char) = true) (positive : 0 < low)
    (accepted : fullmatchClass inClass low high text = true) :
    plainWord text.toList = true := by
  obtain ⟨long, _, inside⟩ := (fullmatchClass_iff inClass low high text).mp accepted
  refine plainWord_of_class inClass free ?_ inside
  intro empty
  rw [empty] at long
  simp at long
  omega

theorem plainWord_of_interfaceNameRe {text : String}
    (accepted : Agent.interfaceNameRe text = true) : plainWord text.toList = true :=
  plainWord_of_fullmatch interfaceName_free (by decide) accepted

theorem plainWord_of_pubkeyRe {text : String} (accepted : Agent.pubkeyRe text = true) :
    plainWord text.toList = true :=
  plainWord_of_fullmatch publicKey_free (by decide) accepted

theorem plainWord_of_sanitizeIface {raw iface : String}
    (accepted : Agent.sanitizeIface raw = .ok iface) : plainWord iface.toList = true := by
  unfold Agent.sanitizeIface at accepted
  exact plainWord_of_interfaceNameRe (Agent.sanitize_eq_ok accepted).2

theorem plainWord_of_desiredKey {peer : Agent.DesiredPeer} {publicKey : String}
    (accepted : Agent.desiredKey peer = .ok publicKey) :
    plainWord publicKey.toList = true := by
  unfold Agent.desiredKey Agent.sanitizePubkey at accepted
  exact plainWord_of_pubkeyRe (Agent.sanitize_eq_ok accepted).2

/-! ### The docker adapter -/

/-- What an accepted configuration went through. -/
theorem addPeerCommand_ok {nodeId defaultInterface container : String}
    {metadata : NodeMetadata} {existing : List ListedPeer} {config : PeerConfigLike}
    {command : List String}
    (accepted : addPeerCommand nodeId (some metadata) defaultInterface existing config =
      .ok (container, command)) :
    let iface := strip (orDefault metadata.interfaceName defaultInterface)
    let allowedIps := strip (orDefault config.allowedIps "")
    plainWord iface.toList = true ∧ plainWord (strip config.publicKey).toList = true ∧
      allowedIpsPattern allowedIps = true ∧
      ∀ presharedKey, addPeerCommand nodeId (some metadata) defaultInterface existing
          { config with presharedKey := presharedKey } =
        .ok (container, peerCommand iface (strip config.publicKey) allowedIps
          (clampKeepalive config.persistentKeepalive) presharedKey) := by
  simp only [addPeerCommand, bind_eq_ok] at accepted
  obtain ⟨iface, ifaceRead, publicKey, keyRead, _, served, allowedIps, allowedRead, _, free,
    built⟩ := accepted
  have sameContainer : metadata.containerName = container :=
    congrArg Prod.fst (Except.ok.inj built)
  obtain ⟨ifaceText, ifaceAccepted⟩ := sanitizeText_ok ifaceRead
  obtain ⟨keyText, keyAccepted⟩ := sanitizeText_ok keyRead
  obtain ⟨allowedText, allowedAccepted⟩ := sanitizeText_ok allowedRead
  rw [strip_strip] at allowedText
  simp only [← ifaceText, ← keyText, ← allowedText]
  refine ⟨plainWord_of_interfaceNameRe ifaceAccepted, plainWord_of_pubkeyRe keyAccepted,
    allowedAccepted, ?_⟩
  intro presharedKey
  simp only [addPeerCommand, bind_eq_ok]
  refine ⟨iface, ifaceRead, publicKey, keyRead, (), served, allowedIps, allowedRead, (), free, ?_⟩
  rw [sameContainer]

/-- A text of the docker pattern is one word exactly when no blank is inside it. -/
theorem plainWord_allowedIps_iff {text : String} (accepted : allowedIpsPattern text = true) :
    plainWord text.toList = true ↔ ' ' ∉ text.toList ∧ '\t' ∉ text.toList := by
  simp only [allowedIpsPattern, Bool.and_eq_true, decide_eq_true_eq, List.all_eq_true] at accepted
  obtain ⟨nonempty, inside⟩ := accepted
  constructor
  · intro plain
    constructor
    · intro member
      exact absurd (continues_of_plainWord plain _ member) (by decide)
    · intro member
      exact absurd (continues_of_plainWord plain _ member) (by decide)
  · rintro ⟨noSpace, noTab⟩
    refine plainWord_of_class
      (fun char => isAllowedIpsChar char && char != ' ' && char != '\t') (by decide) ?_ ?_
    · intro empty
      exact nonempty (by simpa using empty)
    · intro char member
      have notSpace : char ≠ ' ' := fun same => noSpace (same ▸ member)
      have notTab : char ≠ '\t' := fun same => noTab (same ▸ member)
      simp [inside char member, notSpace, notTab]

theorem addPeerCommand_runsPipeline_iff {nodeId defaultInterface container psk : String}
    {metadata : NodeMetadata} {existing : List ListedPeer} {config : PeerConfigLike}
    {command : List String}
    (accepted : addPeerCommand nodeId (some metadata) defaultInterface existing config =
      .ok (container, command))
    (given : config.presharedKey = some psk) (nonempty : psk ≠ "") :
    ∃ keyless,
      addPeerCommand nodeId (some metadata) defaultInterface existing
          { config with presharedKey := none } = .ok (container, keyless) ∧
      (RunsPipeline command keyless (strip (orDefault metadata.interfaceName defaultInterface))
          (strip config.publicKey) (strip (orDefault config.allowedIps ""))
          (clampKeepalive config.persistentKeepalive) (strip psk) ↔
        (' ' ∉ (strip (orDefault config.allowedIps "")).toList ∧
          '\t' ∉ (strip (orDefault config.allowedIps "")).toList) ∧
          Char.ofNat 0 ∉ (strip psk).toList) := by
  obtain ⟨ifacePlain, keyPlain, pattern, commands⟩ := addPeerCommand_ok accepted
  have keyed := (commands config.presharedKey).symm.trans accepted
  have sameCommand := congrArg Prod.snd (Except.ok.inj keyed)
  simp only [given, peerCommand, if_neg nonempty] at sameCommand
  refine ⟨_, commands none, ?_⟩
  rw [← sameCommand, ← plainWord_allowedIps_iff pattern]
  exact runsPipeline_iff ifacePlain keyPlain "wg" _ _ (strip psk)

/-! ### Both callers -/

/-- With a preshared key the script is the intended pipeline exactly when the
allowed addresses survive word splitting; for the agent nothing filters them. -/
theorem psk_command_is_pipeline_iff (peer : Agent.DesiredPeer)
    (rawIface iface publicKey psk nodeId defaultInterface container : String)
    (metadata : NodeMetadata) (existing : List ListedPeer) (config : PeerConfigLike)
    (command : List String) :
    (Agent.sanitizeIface rawIface = .ok iface →
      Agent.desiredKey peer = .ok publicKey →
      (Agent.desiredSpec peer).presharedKey = some psk →
      (RunsPipeline
          ((Agent.Command.setPeer publicKey (Agent.desiredSpec peer)).inner iface)
          ((Agent.Command.setPeer publicKey
            { Agent.desiredSpec peer with presharedKey := none }).inner iface)
          iface publicKey (Agent.desiredSpec peer).allowedIps (Agent.desiredSpec peer).keepalive
          psk ↔
        plainWord (Agent.desiredSpec peer).allowedIps.toList = true ∧
          Char.ofNat 0 ∉ psk.toList)) ∧
    (addPeerCommand nodeId (some metadata) defaultInterface existing config =
        .ok (container, command) →
      config.presharedKey = some psk → psk ≠ "" →
      ∃ keyless,
        addPeerCommand nodeId (some metadata) defaultInterface existing
            { config with presharedKey := none } = .ok (container, keyless) ∧
        (RunsPipeline command keyless (strip (orDefault metadata.interfaceName defaultInterface))
            (strip config.publicKey) (strip (orDefault config.allowedIps ""))
            (clampKeepalive config.persistentKeepalive) (strip psk) ↔
          (' ' ∉ (strip (orDefault config.allowedIps "")).toList ∧
            '\t' ∉ (strip (orDefault config.allowedIps "")).toList) ∧
            Char.ofNat 0 ∉ (strip psk).toList)) := by
  constructor
  · intro ifaceRead keyRead given
    have givenText : orNone (strip (orDefault peer.presharedKey "")) = some psk := given
    have nonempty : psk ≠ "" := (orNone_eq_some givenText).2
    have script := runsPipeline_iff (plainWord_of_sanitizeIface ifaceRead)
      (plainWord_of_desiredKey keyRead) "awg" (Agent.desiredSpec peer).allowedIps
      (Agent.desiredSpec peer).keepalive psk
    simp only [Agent.Command.inner, given, if_neg nonempty]
    exact script
  · intro accepted given nonempty
    exact addPeerCommand_runsPipeline_iff accepted given nonempty

def dualStackKey : String := "xTIBA5rboUvnH4htodjb6e697QjLERt1NAB4mZqp8DgA"

def dualStackPsk : String := "YAnz5TF+lXXJte14tji3zlMNwF4OBgO8EnZu4PpwTYU="

/-- A device row that still holds the full-tunnel default of both address families. -/
def legacyPeer : Agent.DesiredPeer :=
  { publicKey := some dualStackKey
    allowedIps := some "0.0.0.0/0, ::/0"
    presharedKey := some dualStackPsk
    persistentKeepalive := none }

def dualStackConfig : PeerConfigLike :=
  { publicKey := dualStackKey
    allowedIps := some "10.8.1.2/32, fd00::2/128"
    presharedKey := some dualStackPsk
    persistentKeepalive := some 25 }

/-- `::/0` and `fd00::2/128` become words of their own. -/
theorem dual_stack_addresses_split :
    (Agent.sanitizeIface "awg0" = .ok "awg0" ∧
      Agent.desiredKey legacyPeer = .ok dualStackKey ∧
      (Agent.desiredSpec legacyPeer).presharedKey = some dualStackPsk ∧
      ¬ RunsPipeline
        ((Agent.Command.setPeer dualStackKey (Agent.desiredSpec legacyPeer)).inner "awg0")
        ((Agent.Command.setPeer dualStackKey
          { Agent.desiredSpec legacyPeer with presharedKey := none }).inner "awg0")
        "awg0" dualStackKey "0.0.0.0/0, ::/0" 25 dualStackPsk) ∧
    (addPeerCommand "node-1" (some ⟨"amnezia-awg", some "awg0"⟩) "awg0" [] dualStackConfig =
        .ok ("amnezia-awg", ["sh", "-c", pskScript "awg0" dualStackKey "10.8.1.2/32, fd00::2/128"
          25 dualStackPsk]) ∧
      ¬ RunsPipeline
        ["sh", "-c", pskScript "awg0" dualStackKey "10.8.1.2/32, fd00::2/128" 25 dualStackPsk]
        ("wg" :: wgSetArgs "awg0" dualStackKey "10.8.1.2/32, fd00::2/128" 25)
        "awg0" dualStackKey "10.8.1.2/32, fd00::2/128" 25 dualStackPsk) := by
  have ifacePlain : plainWord "awg0".toList = true := by decide
  have keyPlain : plainWord dualStackKey.toList = true := by decide
  refine ⟨⟨by decide +kernel, by decide +kernel, by decide +kernel, ?_⟩, by decide +kernel, ?_⟩
  · intro runs
    have plain := ((runsPipeline_iff ifacePlain keyPlain "awg" "0.0.0.0/0, ::/0" 25
      dualStackPsk).mp runs).1
    exact absurd plain (by decide)
  · intro runs
    have plain := ((runsPipeline_iff ifacePlain keyPlain "wg" "10.8.1.2/32, fd00::2/128" 25
      dualStackPsk).mp runs).1
    exact absurd plain (by decide)

/-- A single address keeps the pipeline on both paths. -/
theorem single_address_is_pipeline :
    RunsPipeline
        ((Agent.Command.setPeer dualStackKey (Agent.desiredSpec
          { legacyPeer with allowedIps := some "10.8.1.2/32" })).inner "awg0")
        ((Agent.Command.setPeer dualStackKey
          { Agent.desiredSpec { legacyPeer with allowedIps := some "10.8.1.2/32" } with
            presharedKey := none }).inner "awg0")
        "awg0" dualStackKey "10.8.1.2/32" 25 dualStackPsk ∧
    ∃ keyless, RunsPipeline
      ["sh", "-c", pskScript "awg0" dualStackKey "10.8.1.2/32" 25 dualStackPsk] keyless "awg0"
      dualStackKey "10.8.1.2/32" 25 dualStackPsk := by
  obtain ⟨agentReads, dockerReads⟩ := psk_command_is_pipeline_iff
    { legacyPeer with allowedIps := some "10.8.1.2/32" } "awg0" "awg0" dualStackKey dualStackPsk
    "node-1" "awg0" "amnezia-awg" ⟨"amnezia-awg", some "awg0"⟩ []
    { dualStackConfig with allowedIps := some "10.8.1.2/32" }
    ["sh", "-c", pskScript "awg0" dualStackKey "10.8.1.2/32" 25 dualStackPsk]
  constructor
  · have reads := agentReads (by decide +kernel) (by decide +kernel) (by decide +kernel)
    exact reads.mpr ⟨by decide +kernel, by decide +kernel⟩
  · obtain ⟨keyless, _, reads⟩ := dockerReads (by decide +kernel) rfl (by decide +kernel)
    exact ⟨keyless, reads.mpr ⟨by decide +kernel, by decide +kernel⟩⟩

end VpnSuite.Runtime
