/-
The reconciliation status shown for a device (`services/device_telemetry_cache.py`,
`services/telemetry_snapshot_aggregator.py`) next to what the reconciler does with it.

The telemetry validators compare whole texts where the engine searches them, so a list
with the full tunnel next to a client address is valid for the one and not for the other.
A drifted peer is reapplied by the engine and shown as in order.
-/

import VpnSuite.Fleet.BlockReconcile

set_option autoImplicit false

namespace VpnSuite.Fleet

open Foundations
open Foundations.PythonText
open VpnSuite.ControlPlane
open VpnSuite.Runtime (PeerConfigLike)

/-! ### The validators of the telemetry side -/

/-- `"/32" in text or "/128" in text`. -/
def namesClientAddress (text : String) : Bool := contains "/32" text || contains "/128" text

/-- The texts `_valid_allowed_ips` refuses as a whole. -/
def refusedTexts : List String := ["(none)", "none", "0.0.0.0/0", "::/0"]

/-- The body both modules spell out. -/
def usableAllowedIps (refused : List String) (allowedIps : Option String) : Bool :=
  let text := strip (orDefault allowedIps "")
  if text = "" then false
  else if text ∈ refused then false
  else namesClientAddress text

/-- `_valid_allowed_ips` of the telemetry cache. -/
def cacheValidAllowedIps (allowedIps : Option String) : Bool :=
  usableAllowedIps refusedTexts allowedIps

/-- `_valid_allowed_ips` of the snapshot aggregator. -/
def snapshotValidAllowedIps (allowedIps : Option String) : Bool :=
  usableAllowedIps refusedTexts allowedIps

/-! ### The status of a telemetry row -/

inductive NodeHealthStatus where
  | online
  | offline
  | unknown
  deriving DecidableEq, Repr

inductive ReconciliationStatus where
  | ok
  | needsReconcile
  | broken
  deriving DecidableEq, Repr

inductive ConfigStateStatus where
  | issued
  | used
  | pending
  deriving DecidableEq, Repr

/-- The fields of `DeviceTelemetryOut` that the merge reads or computes. -/
structure MergedTelemetry where
  peerPresent : Bool
  handshakeAgeSec : Option Int
  nodeHealth : NodeHealthStatus
  configState : ConfigStateStatus
  reconciliationStatus : ReconciliationStatus
  telemetryReason : Option String
  deriving DecidableEq, Repr

/-- `compute_reconciliation_status`; the handshake age is taken and not looked at. -/
def computeReconciliationStatus (revoked : Bool) (allowedIpsDb : Option String)
    (peerPresent : Bool) (_handshakeAgeSec : Option Int) (nodeHealth : NodeHealthStatus) :
    ReconciliationStatus :=
  if revoked then
    if peerPresent then .needsReconcile else .ok
  else if cacheValidAllowedIps allowedIpsDb = false then .broken
  else if nodeHealth = .offline then .needsReconcile
  else if peerPresent = false then .needsReconcile
  else .ok

def computeConfigState (hasConsumed hasPending : Bool) : ConfigStateStatus :=
  if hasConsumed then .used else if hasPending then .pending else .issued

/-- `HANDSHAKE_OK_SEC`. -/
def handshakeOkSec : Int := 120

/-- `_reason_for_needs_reconcile`. -/
def reasonForNeedsReconcile (revoked peerPresent : Bool) (handshakeAgeSec : Option Int)
    (nodeHealth : NodeHealthStatus) : String :=
  if revoked ∧ peerPresent then "Revoked but peer still on node; run Reconcile to remove."
  else if nodeHealth = .offline then "Node offline; cannot reach peer."
  else if peerPresent = false then "Peer not on node; run Reconcile to add."
  else if handshakeAgeSec.any (fun age => age > handshakeOkSec) then
    "Client hasn't connected recently; ensure VPN client is online."
  else "Config and peer state out of sync; run Reconcile."

/-- `merge_telemetry_into_device`. -/
def mergeTelemetryIntoDevice (device : Device) (hasConsumed hasPending : Bool)
    (telemetry : MergedTelemetry) : MergedTelemetry :=
  let revoked := device.revokedAt.isSome
  let status := computeReconciliationStatus revoked device.allowedIps telemetry.peerPresent
    telemetry.handshakeAgeSec telemetry.nodeHealth
  { telemetry with
    configState := computeConfigState hasConsumed hasPending
    reconciliationStatus := status
    telemetryReason :=
      if status = .needsReconcile ∧ orDefault telemetry.telemetryReason "" = "" then
        some (reasonForNeedsReconcile revoked telemetry.peerPresent telemetry.handshakeAgeSec
          telemetry.nodeHealth)
      else telemetry.telemetryReason }

/-- The row `get_device_telemetry_bulk` gives for a key of an online node, when the cache
holds what the node reports. -/
def reflectedTelemetry (handshakeAgeSec : Option Int) (node : Dict String NodeEntry)
    (key : String) : MergedTelemetry :=
  { peerPresent := key ∈ node.keys
    handshakeAgeSec := handshakeAgeSec
    nodeHealth := .online
    configState := .issued
    reconciliationStatus := .ok
    telemetryReason := none }

/-! ### Where the validators differ -/

/-- The full tunnel next to a client address. -/
def mixesFullTunnel (allowedIps : Option String) : Bool :=
  let text := strip (orDefault allowedIps "")
  contains "0.0.0.0/0" text && namesClientAddress text

theorem refused_names_no_client {text : String} (refused : text ∈ "" :: refusedTexts) :
    namesClientAddress text = false := by
  have every : ("" :: refusedTexts).all (fun text => !namesClientAddress text) = true := by
    decide
  have here := List.all_eq_true.mp every text refused
  simpa using here

theorem usableAllowedIps_eq (allowedIps : Option String) :
    usableAllowedIps refusedTexts allowedIps =
      namesClientAddress (strip (orDefault allowedIps "")) := by
  unfold usableAllowedIps
  dsimp only
  split
  · rename_i blank
    exact (refused_names_no_client (by simp [blank])).symm
  · split
    · rename_i refused
      exact (refused_names_no_client (List.mem_cons_of_mem _ refused)).symm
    · rfl

theorem isValidServerAllowedIps_eq (allowedIps : Option String) :
    isValidServerAllowedIps allowedIps =
      (!contains "0.0.0.0/0" (strip (orDefault allowedIps "")) &&
        namesClientAddress (strip (orDefault allowedIps ""))) := by
  unfold isValidServerAllowedIps
  dsimp only
  by_cases blank : strip (orDefault allowedIps "") = ""
  · rw [blank, refused_names_no_client (by simp)]
    rfl
  · simp [blank, namesClientAddress]

/-- The validators agree on every text that does not mix the two. -/
theorem usable_eq_valid_iff (allowedIps : Option String) :
    usableAllowedIps refusedTexts allowedIps = isValidServerAllowedIps allowedIps ↔
      mixesFullTunnel allowedIps = false := by
  rw [usableAllowedIps_eq, isValidServerAllowedIps_eq, mixesFullTunnel]
  cases contains "0.0.0.0/0" (strip (orDefault allowedIps "")) <;>
    cases namesClientAddress (strip (orDefault allowedIps "")) <;> simp

/-! ### What the reconciler does with a key -/

/-- The public keys `compute_diff` adds or reapplies. -/
def repairedKeys (diff : ReconciliationDiff) : List String :=
  (diff.peersToAdd ++ diff.peersToUpdate).map PeerConfigLike.publicKey

/-- The row the engine keeps for a key has addresses it accepts. -/
def keptRowValid (dbPeers : List DbPeer) (key : String) : Bool :=
  (desiredRow dbPeers key).any (fun row => isValidServerAllowedIps row.allowedIps)

theorem keptRowValid_iff (dbPeers : List DbPeer) (key : String) :
    keptRowValid dbPeers key = true ↔
      ∃ row, desiredRow dbPeers key = some row ∧ isValidServerAllowedIps row.allowedIps = true :=
  Option.any_eq_true ..

/-- A key is repaired when it is missing or drifted and its row is valid. -/
theorem mem_repairedKeys (dbPeers : List DbPeer) (node : Dict String NodeEntry) (key : String) :
    key ∈ repairedKeys (computeDiff dbPeers (listPeers node)) ↔
      keptRowValid dbPeers key = true ∧
        ∀ entry, node.get? key = some entry → reportsUnusable entry := by
  rw [keptRowValid_iff]
  simp only [repairedKeys, List.map_append, List.mem_append, List.mem_map]
  constructor
  · rintro (⟨config, added, rfl⟩ | ⟨config, updated, rfl⟩)
    · obtain ⟨key, row, found, absent, valid, rfl⟩ := mem_peersToAdd.mp added
      refine ⟨⟨row, found, valid⟩, ?_⟩
      intro entry stored
      exact absurd (Dict.mem_keys_of_get? stored) absent
    · obtain ⟨key, row, entry, found, valid, stored, unusable, rfl⟩ :=
        mem_peersToUpdate.mp updated
      refine ⟨⟨row, found, valid⟩, ?_⟩
      intro other there
      obtain rfl := Option.some.inj (stored.symm.trans there)
      exact unusable
  · rintro ⟨⟨row, found, valid⟩, unusable⟩
    cases stored : node.get? key with
    | none =>
        left
        have absent : key ∉ node.keys := (Dict.get?_eq_none_iff ..).mp stored
        exact ⟨_, mem_peersToAdd.mpr ⟨key, row, found, absent, valid, rfl⟩, rfl⟩
    | some entry =>
        right
        exact ⟨_, mem_peersToUpdate.mpr
          ⟨key, row, entry, found, valid, stored, unusable entry stored, rfl⟩, rfl⟩

/-! ### The two next to each other -/

/-- The status shown for a device is the reconciler's, and the validators judge its
addresses alike. -/
structure StatusAgrees (dbPeers : List DbPeer) (node : Dict String NodeEntry)
    (device : Device) (status : ReconciliationStatus) : Prop where
  repaired : status = .needsReconcile ↔
    device.publicKey ∈ repairedKeys (computeDiff dbPeers (listPeers node))
  skipped : status = .broken ↔ isValidServerAllowedIps device.allowedIps = false
  otherwise : status = .ok ↔
    device.publicKey ∉ repairedKeys (computeDiff dbPeers (listPeers node)) ∧
      isValidServerAllowedIps device.allowedIps = true
  cache : cacheValidAllowedIps device.allowedIps = isValidServerAllowedIps device.allowedIps
  snapshot : snapshotValidAllowedIps device.allowedIps = isValidServerAllowedIps device.allowedIps

/-- The peer is not drifted, and when it is missing no later row of its key overrules it. -/
def PeerSettled (dbPeers : List DbPeer) (node : Dict String NodeEntry) (device : Device) : Prop :=
  match node.get? device.publicKey with
  | none => keptRowValid dbPeers device.publicKey = isValidServerAllowedIps device.allowedIps
  | some entry => keptRowValid dbPeers device.publicKey = true → ¬ reportsUnusable entry

/-- The status shown for a device when the cache reflects the node. -/
def shownStatus (device : Device) (hasConsumed hasPending : Bool) (handshakeAgeSec : Option Int)
    (node : Dict String NodeEntry) : ReconciliationStatus :=
  (mergeTelemetryIntoDevice device hasConsumed hasPending
    (reflectedTelemetry handshakeAgeSec node device.publicKey)).reconciliationStatus

theorem shownStatus_of_live {device : Device} (live : device.revokedAt = none)
    (hasConsumed hasPending : Bool) (handshakeAgeSec : Option Int)
    (node : Dict String NodeEntry) :
    shownStatus device hasConsumed hasPending handshakeAgeSec node =
      if cacheValidAllowedIps device.allowedIps = false then .broken
      else if device.publicKey ∈ node.keys then .ok
      else .needsReconcile := by
  unfold shownStatus mergeTelemetryIntoDevice computeReconciliationStatus reflectedTelemetry
  rw [live]
  by_cases present : device.publicKey ∈ node.keys <;> simp [present]

/-- With one judgement of the addresses, agreement is a matter of the peer alone. -/
theorem statusAgrees_iff_settled {dbPeers : List DbPeer} {node : Dict String NodeEntry}
    {device : Device}
    (alike : cacheValidAllowedIps device.allowedIps = isValidServerAllowedIps device.allowedIps)
    {status : ReconciliationStatus}
    (shown : status = if cacheValidAllowedIps device.allowedIps = false then .broken
      else if device.publicKey ∈ node.keys then .ok
      else .needsReconcile) :
    StatusAgrees dbPeers node device status ↔ PeerSettled dbPeers node device := by
  have repaired := mem_repairedKeys dbPeers node device.publicKey
  rw [alike] at shown
  unfold PeerSettled
  cases stored : node.get? device.publicKey with
  | none =>
      have absent : device.publicKey ∉ node.keys := (Dict.get?_eq_none_iff ..).mp stored
      have kept : device.publicKey ∈ repairedKeys (computeDiff dbPeers (listPeers node)) ↔
          keptRowValid dbPeers device.publicKey = true := by
        simp [repaired, stored]
      rw [if_neg absent] at shown
      dsimp only
      cases valid : isValidServerAllowedIps device.allowedIps with
      | false =>
          rw [valid, if_pos rfl] at shown
          subst shown
          constructor
          · intro agrees
            have skipped := agrees.repaired.mpr
            rw [kept] at skipped
            simpa using skipped
          · intro unkept
            have untouched := kept.not.mpr (by simp [unkept])
            exact ⟨by simp [untouched], by simp [valid], by simp [valid], alike, alike⟩
      | true =>
          rw [valid, if_neg (by simp)] at shown
          subst shown
          constructor
          · intro agrees
            exact kept.mp (agrees.repaired.mp rfl)
          · intro keptValid
            have added := kept.mpr keptValid
            exact ⟨by simp [added], by simp [valid], by simp [added], alike, alike⟩
  | some entry =>
      have present : device.publicKey ∈ node.keys := Dict.mem_keys_of_get? stored
      have drifted : device.publicKey ∈ repairedKeys (computeDiff dbPeers (listPeers node)) ↔
          keptRowValid dbPeers device.publicKey = true ∧ reportsUnusable entry := by
        simp [repaired, stored]
      rw [if_pos present] at shown
      dsimp only
      have never : status ≠ .needsReconcile := by
        rw [shown]
        split <;> simp
      constructor
      · intro agrees keptValid unusable
        exact never (agrees.repaired.mpr (drifted.mpr ⟨keptValid, unusable⟩))
      · intro settled
        have untouched := drifted.not.mpr (fun both => settled both.1 both.2)
        refine ⟨by simp [never, untouched], ?_, ?_, alike, alike⟩
        all_goals
          rw [shown]
          cases isValidServerAllowedIps device.allowedIps <;> simp [untouched]

/-- The reason for a device that is out of sync is never shown. -/
theorem out_of_sync_never_shown (device : Device) (hasConsumed hasPending : Bool)
    {telemetry : MergedTelemetry} (unset : telemetry.telemetryReason = none) :
    (mergeTelemetryIntoDevice device hasConsumed hasPending telemetry).telemetryReason ≠
      some "Config and peer state out of sync; run Reconcile." := by
  obtain ⟨present, age, health, _, _, _⟩ := telemetry
  dsimp only at unset
  subst unset
  unfold mergeTelemetryIntoDevice computeReconciliationStatus reasonForNeedsReconcile
  dsimp only
  cases device.revokedAt.isSome <;> cases present <;>
    cases cacheValidAllowedIps device.allowedIps <;> cases health <;> simp [orDefault]

section Table

variable {serverIds : List String} {devices : Dict String Device} {id : String} {device : Device}
  (served : (id, device) ∈ servedRows serverIds devices)

include served

/-- The status shown for a live device is the reconciler's exactly when its addresses do
not mix the full tunnel with a client address and its peer is settled. -/
theorem displayed_status_agrees_iff (node : Dict String NodeEntry) (hasConsumed hasPending : Bool)
    (handshakeAgeSec : Option Int) :
    StatusAgrees (reconcileRows serverIds devices) node device
        (shownStatus device hasConsumed hasPending handshakeAgeSec node) ↔
      mixesFullTunnel device.allowedIps = false ∧
        PeerSettled (reconcileRows serverIds devices) node device := by
  have live : device.revokedAt = none := by
    unfold servedRows at served
    simp only [List.mem_filter, decide_eq_true_eq] at served
    exact served.2.2.1
  have shown := shownStatus_of_live live hasConsumed hasPending handshakeAgeSec node
  constructor
  · intro agrees
    exact ⟨(usable_eq_valid_iff device.allowedIps).mp agrees.cache,
      (statusAgrees_iff_settled agrees.cache shown).mp agrees⟩
  · rintro ⟨plain, settled⟩
    exact (statusAgrees_iff_settled ((usable_eq_valid_iff device.allowedIps).mpr plain) shown).mpr
      settled

omit served in
/-- A served device whose key is its own is settled when its peer, if there, is usable. -/
theorem peerSettled_of_own (named : (id, device) ∈ keyedRows serverIds devices)
    (own : OwnKey devices id device.publicKey) (node : Dict String NodeEntry) :
    PeerSettled (reconcileRows serverIds devices) node device ↔
      (isValidServerAllowedIps device.allowedIps = true →
        ∀ entry, node.get? device.publicKey = some entry → ¬ reportsUnusable entry) := by
  have found := (mem_keyedRows.mp named).1
  have kept : keptRowValid (reconcileRows serverIds devices) device.publicKey =
      isValidServerAllowedIps device.allowedIps := by
    rw [keptRowValid, desiredRow_of_listed found own named, Option.any_some]
    simp only [reconcileRow, isValidServerAllowedIps, orDefault_empty, strip_strip]
  unfold PeerSettled
  rw [kept]
  cases node.get? device.publicKey with
  | none => simp
  | some entry => simp

end Table

def deviceWith (allowedIps : String) : Device :=
  ⟨1, "sub", "node-1", none, "key-a", some allowedIps, none, none, none, none, .applied⟩

/-- A table with one device of these addresses. -/
def tableWith (allowedIps : String) : Dict String Device :=
  ⟨[("a", deviceWith allowedIps)], by simp⟩

theorem displayed_status_agrees_missing :
    StatusAgrees (reconcileRows ["node-1"] (tableWith "10.8.1.2/32")) Dict.empty
      (deviceWith "10.8.1.2/32")
      (shownStatus (deviceWith "10.8.1.2/32") false true none Dict.empty) := by
  have served : ("a", deviceWith "10.8.1.2/32") ∈
      servedRows ["node-1"] (tableWith "10.8.1.2/32") := by decide
  refine (displayed_status_agrees_iff served Dict.empty false true none).mpr ⟨?_, ?_⟩
  · decide +kernel
  · change keptRowValid (reconcileRows ["node-1"] (tableWith "10.8.1.2/32")) "key-a" =
      isValidServerAllowedIps (some "10.8.1.2/32")
    decide +kernel

/-- A client address next to the full tunnel: the device is shown as one that reconciling
repairs, and the engine skips it. -/
theorem mixed_addresses_shown_as_repairable :
    ("a", deviceWith "10.8.1.2/32, 0.0.0.0/0") ∈
        servedRows ["node-1"] (tableWith "10.8.1.2/32, 0.0.0.0/0") ∧
      shownStatus (deviceWith "10.8.1.2/32, 0.0.0.0/0") false true none Dict.empty =
        .needsReconcile ∧
      ¬ StatusAgrees (reconcileRows ["node-1"] (tableWith "10.8.1.2/32, 0.0.0.0/0")) Dict.empty
        (deviceWith "10.8.1.2/32, 0.0.0.0/0")
        (shownStatus (deviceWith "10.8.1.2/32, 0.0.0.0/0") false true none Dict.empty) := by
  refine ⟨by decide, by decide +kernel, ?_⟩
  intro agrees
  have plain := (usable_eq_valid_iff _).mp agrees.cache
  revert plain
  decide +kernel

end VpnSuite.Fleet
