/-
The two sources of a node's desired peers: the list `agent_desired_state` hands to the
node agent, and the rows `reconcile_node` compares itself.

Both read the live rows of one server.  The agent's side fills in an address twice, once in
the handler and once in `_reconcile`, and files peers under stripped keys; the engine fills
in nothing and skips what it does not accept.  The handler orders the rows by creation, the
engine takes them as the database returns them.
-/

import Mathlib.Data.List.Find
import VpnSuite.Agent.ReconcileConvergence
import VpnSuite.Fleet.Entitlement
import VpnSuite.Fleet.BlockReconcile

set_option autoImplicit false

namespace VpnSuite.Fleet

open Foundations
open Foundations.PythonText
open VpnSuite.ControlPlane
open VpnSuite.Agent (DesiredPeer desiredKey desiredSpec lastDesired sanitizePubkey Setup)

/-! ### What each side installs -/

/-- One database, and its device rows in the order the engine gets them. -/
structure TableReads where
  db : FleetDb
  stored : Dict String Device
  sameRows : stored.entries.Perm db.devices.entries

/-- The JSON object of a desired peer, as the agent reads it. -/
def AgentDesiredPeer.toDesired (peer : AgentDesiredPeer) : DesiredPeer :=
  { publicKey := some peer.publicKey
    allowedIps := some peer.allowedIps
    presharedKey := peer.presharedKey
    persistentKeepalive := some 25 }

/-- The desired list the agent of a server receives. -/
def desiredPeers (reads : TableReads) (serverId : String) : List DesiredPeer :=
  (agentDesiredState serverId reads.db).map AgentDesiredPeer.toDesired

def bareNode : Agent.Node :=
  { peers := Dict.empty
    wellFormed := by
      intro key present
      cases present
    stripped := by
      intro key ips found
      cases found }

/-- Public key to allowed-ips after one pass of the agent on an empty node, with a budget
that covers every desired peer. -/
def agentInstalled (setup : Setup) (reads : TableReads) (serverId : String) :
    Dict String String :=
  (setup.cycle id (desiredPeers reads serverId) (desiredPeers reads serverId).length
    bareNode).peers

/-- Public key to allowed-ips after `reconcile_node` on an empty node. -/
def engineInstalled (removeOrphans : Bool) (reads : TableReads) (serverId : String) :
    Dict String String :=
  (reconcileNode ⟨false, removeOrphans⟩ noFailures [serverId]
    ⟨reads.stored, Dict.empty⟩).node.mapValues NodeEntry.allowedIps

/-! ### The row behind a key -/

/-- The last row whose name is the given key. -/
def lastNamed (name : Device → String) (rows : List (String × Device)) (key : String) :
    Option Device :=
  (rows.reverse.find? (fun entry => name entry.2 = key)).map Prod.snd

/-- The row the agent's desired map answers with: the last created under the stripped key. -/
def agentRow (reads : TableReads) (serverId key : String) : Option Device :=
  lastNamed (fun device => strip device.publicKey) (keyedRows [serverId] reads.db.devices) key

/-- The row `compute_diff` keeps for a key. -/
def engineRow (reads : TableReads) (serverId key : String) : Option Device :=
  lastNamed Device.publicKey (keyedRows [serverId] reads.stored) key

/-- What the two defaults on the agent's side make of a row's addresses. -/
def agentAddress (device : Device) : String :=
  strip (orDefault (some (strip (orDefault device.allowedIps "10.8.1.2/32"))) "0.0.0.0/0, ::/0")

/-- What the engine makes of them. -/
def engineAddress (device : Device) : String := strip (orDefault device.allowedIps "")

/-- The agent raises on none of the keys. -/
def AgentAccepts (reads : TableReads) (serverId : String) : Prop :=
  ∀ entry ∈ keyedRows [serverId] reads.db.devices,
    ∃ key, sanitizePubkey (strip entry.2.publicKey) = .ok key

theorem mem_of_lastNamed {name : Device → String} {rows : List (String × Device)} {key : String}
    {device : Device} (found : lastNamed name rows key = some device) :
    name device = key ∧ ∃ id, (id, device) ∈ rows := by
  unfold lastNamed at found
  obtain ⟨⟨id, other⟩, selected, rfl⟩ := Option.map_eq_some_iff.mp found
  have named := List.find?_some selected
  exact ⟨by simpa using named, id, List.mem_reverse.mp (List.mem_of_find?_eq_some selected)⟩

theorem lastNamed_isSome {name : Device → String} {rows : List (String × Device)}
    {entry : String × Device} (listed : entry ∈ rows) :
    ∃ device, lastNamed name rows (name entry.2) = some device := by
  unfold lastNamed
  rw [← Option.isSome_iff_exists, Option.isSome_map, List.find?_isSome]
  exact ⟨entry, List.mem_reverse.mpr listed, decide_eq_true rfl⟩

/-! ### The engine's map -/

theorem desiredRow_reconcileRows (reads : TableReads) (serverId key : String) :
    desiredRow (reconcileRows [serverId] reads.stored) key =
      (engineRow reads serverId key).map reconcileRow := by
  have mapped : (reconcileRows [serverId] reads.stored).reverse.find?
      (fun row => row.publicKey = key) = (engineRow reads serverId key).map reconcileRow := by
    rw [reconcileRows, ← List.map_reverse, List.find?_map, engineRow, lastNamed, Option.map_map]
    rfl
  unfold desiredRow
  split
  · rename_i blank
    subst blank
    cases found : engineRow reads serverId "" with
    | none => rfl
    | some device =>
        obtain ⟨unnamed, id, listed⟩ := mem_of_lastNamed found
        exact absurd unnamed (mem_keyedRows.mp listed).2.2.2.2
  · exact mapped

theorem valid_reconcileRow (device : Device) :
    isValidServerAllowedIps (reconcileRow device).allowedIps =
      isValidServerAllowedIps device.allowedIps := by
  simp only [reconcileRow, isValidServerAllowedIps, orDefault_empty, strip_strip]

theorem get?_engineInstalled (removeOrphans : Bool) (reads : TableReads) (serverId key : String) :
    (engineInstalled removeOrphans reads serverId).get? key =
      ((engineRow reads serverId key).filter
        (fun device => isValidServerAllowedIps device.allowedIps)).map engineAddress := by
  have desired := desiredRow_reconcileRows reads serverId key
  rw [engineInstalled, Dict.get?_mapValues]
  change ((reconcileCycle ⟨false, removeOrphans⟩ noFailures
    (reconcileRows [serverId] reads.stored) Dict.empty).node.get? key).map _ = _
  cases found : engineRow reads serverId key with
  | none =>
      rw [found] at desired
      have absent : (reconcileCycle ⟨false, removeOrphans⟩ noFailures
          (reconcileRows [serverId] reads.stored) Dict.empty).node.get? key = none := by
        by_cases spared : key = "" ∨ removeOrphans = false
        · exact reconcileCycle_kept rfl noFailures desired spared
        · rw [not_or, Bool.not_eq_false] at spared
          exact reconcileCycle_orphan rfl noFailures desired spared.1 spared.2
      rw [absent]
      rfl
  | some device =>
      rw [found, Option.map_some] at desired
      have sameValid := valid_reconcileRow device
      rw [Option.filter_some]
      cases valid : isValidServerAllowedIps device.allowedIps with
      | false =>
          rw [reconcileCycle_invalid rfl noFailures desired (sameValid.trans valid)]
          rfl
      | true =>
          rw [reconcileCycle_missing rfl noFailures desired (sameValid.trans valid) rfl]
          simp [addedCell, noFailures, peerConfig, NodeEntry.ofConfig, normalizeRow, reconcileRow,
            orDefault_empty, engineAddress]

/-! ### The agent's map -/

theorem desiredPeers_eq (reads : TableReads) (serverId : String) :
    desiredPeers reads serverId = (keyedRows [serverId] reads.db.devices).map (fun entry =>
      { publicKey := some entry.2.publicKey
        allowedIps := some (strip (orDefault entry.2.allowedIps "10.8.1.2/32"))
        presharedKey := orNone (strip (orDefault entry.2.presharedKey ""))
        persistentKeepalive := some 25 }) := by
  unfold desiredPeers agentDesiredState
  rw [List.map_map]
  rfl

theorem cycle_nothing_desired (setup : Setup) :
    (setup.cycle id [] 0 bareNode) = bareNode := by
  obtain ⟨name, containerOk⟩ := setup.containerOk
  obtain ⟨device, ifaceOk⟩ := setup.ifaceOk
  have prepared : Agent.prepareCall (setup.call [] 0 bareNode) = .ok Dict.empty :=
    bind_eq_ok.mpr ⟨device, ifaceOk, bind_eq_ok.mpr ⟨name, containerOk, rfl⟩⟩
  rw [Setup.cycle, Agent.reconcile, prepared]
  rfl

/-- The agent refuses a list exactly when it refuses one of its keys. -/
theorem agentAccepts_iff (reads : TableReads) (serverId : String) :
    AgentAccepts reads serverId ↔
      ∀ peer ∈ desiredPeers reads serverId, ∃ key, desiredKey peer = .ok key := by
  rw [desiredPeers_eq]
  simp only [List.forall_mem_map, AgentAccepts, desiredKey, orDefault_empty]

section Accepted

variable {reads : TableReads} {serverId : String} (accepts : AgentAccepts reads serverId)

include accepts

theorem sanitizePubkey_listed {entry : String × Device}
    (listed : entry ∈ keyedRows [serverId] reads.db.devices) (key : String) :
    sanitizePubkey (strip entry.2.publicKey) = .ok key ↔ strip entry.2.publicKey = key := by
  obtain ⟨filed, accepted⟩ := accepts entry listed
  have same := (Agent.sanitize_eq_ok accepted).1
  rw [strip_strip] at same
  rw [accepted, same, Except.ok.injEq]

theorem lastDesired_desiredPeers (key : String) :
    (lastDesired (desiredPeers reads serverId) key).map Agent.PeerSpec.allowedIps =
      (agentRow reads serverId key).map agentAddress := by
  have filed : ∀ entry ∈ (keyedRows [serverId] reads.db.devices).reverse,
      decide (sanitizePubkey (strip entry.2.publicKey) = .ok key) =
        decide (strip entry.2.publicKey = key) := by
    intro entry listed
    exact decide_eq_decide.mpr (sanitizePubkey_listed accepts (List.mem_reverse.mp listed) key)
  unfold lastDesired agentRow lastNamed
  rw [desiredPeers_eq, ← List.map_reverse, List.find?_map, Option.map_map, Option.map_map,
    Option.map_map]
  have selected := List.find?_congr filed
  rw [← selected]
  simp only [Function.comp_def, desiredKey, orDefault_empty]
  rfl

/-- On an empty node every filed key is added within the budget. -/
theorem mem_pendingKeys_empty (key : String) :
    key ∈ (Agent.pendingKeys (desiredPeers reads serverId) bareNode).take
        (desiredPeers reads serverId).length ↔
      (lastDesired (desiredPeers reads serverId) key).isSome := by
  have keyed := (agentAccepts_iff reads serverId).mp accepts
  have pending : ∀ key, key ∈ Agent.pendingKeys (desiredPeers reads serverId) bareNode ↔
      (lastDesired (desiredPeers reads serverId) key).isSome := by
    intro key
    rw [Agent.mem_pendingKeys, Agent.get?_filedMap keyed]
    cases lastDesired (desiredPeers reads serverId) key <;> rfl
  have fits : (Agent.pendingKeys (desiredPeers reads serverId) bareNode).length ≤
      (desiredPeers reads serverId).length := by
    have named : Agent.pendingKeys (desiredPeers reads serverId) bareNode ⊆
        (desiredPeers reads serverId).filterMap (fun peer => (desiredKey peer).toOption) := by
      intro key waits
      obtain ⟨spec, found⟩ := Option.isSome_iff_exists.mp ((pending key).mp waits)
      unfold lastDesired at found
      obtain ⟨peer, selected, _⟩ := Option.map_eq_some_iff.mp found
      have filed : desiredKey peer = .ok key := by
        simpa using List.find?_some selected
      exact List.mem_filterMap.mpr ⟨peer,
        List.mem_reverse.mp (List.mem_of_find?_eq_some selected), by rw [filed]; rfl⟩
    exact ((Agent.pendingKeys_nodup _ _).subperm named).length_le.trans
      (List.length_filterMap_le ..)
  rw [List.take_of_length_le fits]
  exact pending key

theorem get?_agentInstalled (setup : Setup) (key : String) :
    (agentInstalled setup reads serverId).get? key =
      (agentRow reads serverId key).map agentAddress := by
  have keyed := (agentAccepts_iff reads serverId).mp accepts
  rw [← lastDesired_desiredPeers accepts key]
  by_cases nonempty : desiredPeers reads serverId = []
  · rw [agentInstalled, nonempty, List.length_nil, cycle_nothing_desired]
    rfl
  · rw [agentInstalled, setup.get?_cycle id keyed nonempty]
    split
    · cases found : lastDesired (desiredPeers reads serverId) key with
      | none => rfl
      | some spec =>
          rw [Option.map_some, Option.map_some, id, Agent.strip_allowedIps_of_lastDesired found]
    · rename_i settled
      rw [mem_pendingKeys_empty accepts, Bool.not_eq_true, Option.isSome_eq_false_iff,
        Option.isNone_iff_eq_none] at settled
      rw [settled]
      rfl

end Accepted

theorem desiredPair_of_mapM {desired : List DesiredPeer} {pairs : List (String × Agent.PeerSpec)}
    (mapped : desired.mapM Agent.desiredPair = .ok pairs) :
    ∀ peer ∈ desired, ∃ key, desiredKey peer = .ok key := by
  intro peer listed
  obtain ⟨pair, isPair⟩ := exists_read_of_mapM mapped peer listed
  exact ⟨_, (Agent.desiredPair_eq_ok isPair).1⟩

/-- One malformed key and the agent issues nothing. -/
theorem agentInstalled_of_refused {reads : TableReads} {serverId : String}
    (refuses : ¬ AgentAccepts reads serverId) (setup : Setup) :
    agentInstalled setup reads serverId = Dict.empty := by
  rw [agentAccepts_iff] at refuses
  have refused : ∃ error, Agent.prepareCall (setup.call (desiredPeers reads serverId)
      (desiredPeers reads serverId).length bareNode) = .error error := by
    cases prepared : Agent.prepareCall (setup.call (desiredPeers reads serverId)
        (desiredPeers reads serverId).length bareNode) with
    | error error => exact ⟨error, rfl⟩
    | ok filed =>
        exfalso
        obtain ⟨_, _, prepared⟩ := bind_eq_ok.mp prepared
        obtain ⟨_, _, prepared⟩ := bind_eq_ok.mp prepared
        unfold Agent.desiredMap at prepared
        cases mapped : (desiredPeers reads serverId).mapM Agent.desiredPair with
        | error error =>
            change (Except.map _ (List.mapM _ (desiredPeers reads serverId))) = _ at prepared
            rw [mapped] at prepared
            cases prepared
        | ok pairs => exact refuses (desiredPair_of_mapM mapped)
  obtain ⟨error, prepared⟩ := refused
  rw [agentInstalled, Setup.cycle, Agent.reconcile, prepared]
  rfl

/-! ### Agreement -/

/-- No two installed peers have the same allowed-ips. -/
def OneOwner (installed : Dict String String) : Prop :=
  ∀ key other ips, installed.get? key = some ips → installed.get? other = some ips → key = other

/-- The addresses that are set on the live devices of the server are pairwise distinct. -/
def SetAddressesDistinct (reads : TableReads) (serverId : String) : Prop :=
  ((servedRows [serverId] reads.db.devices).filterMap (fun entry => entry.2.allowedIps)).Nodup

/-- Both sources install the same peers, and distinct addresses stay distinct. -/
structure SourcesAgree (setup : Setup) (removeOrphans : Bool) (reads : TableReads)
    (serverId : String) : Prop where
  same : ∀ key, (agentInstalled setup reads serverId).get? key =
    (engineInstalled removeOrphans reads serverId).get? key
  agentOwners : SetAddressesDistinct reads serverId → OneOwner (agentInstalled setup reads serverId)
  engineOwners : SetAddressesDistinct reads serverId →
    OneOwner (engineInstalled removeOrphans reads serverId)

/-- Every row the agent files has an acceptable counterpart with the same addresses in the
engine's reading, and no acceptable row has a padded key. -/
structure RowsMatch (reads : TableReads) (serverId : String) : Prop where
  counterpart : ∀ key device, agentRow reads serverId key = some device →
    ∃ row, engineRow reads serverId key = some row ∧
      isValidServerAllowedIps row.allowedIps = true ∧ engineAddress row = agentAddress device
  plainKeys : ∀ key row, engineRow reads serverId key = some row →
    isValidServerAllowedIps row.allowedIps = true → strip key = key

/-- The rows match, or the agent refuses a key and the engine accepts no row. -/
def SourcesMatch (reads : TableReads) (serverId : String) : Prop :=
  (AgentAccepts reads serverId ∧ RowsMatch reads serverId) ∨
    (¬ AgentAccepts reads serverId ∧ ∀ key row, engineRow reads serverId key = some row →
      isValidServerAllowedIps row.allowedIps = false)

/-- Two acceptable rows whose addresses are equal, or differ in the white space around them. -/
def SharedAddress (reads : TableReads) (serverId : String) : Prop :=
  ∃ key other row twin, key ≠ other ∧ engineRow reads serverId key = some row ∧
    engineRow reads serverId other = some twin ∧
    isValidServerAllowedIps row.allowedIps = true ∧
    isValidServerAllowedIps twin.allowedIps = true ∧ engineAddress row = engineAddress twin

theorem get?_engineInstalled_eq_some {removeOrphans : Bool} {reads : TableReads}
    {serverId key ips : String} :
    (engineInstalled removeOrphans reads serverId).get? key = some ips ↔
      ∃ row, engineRow reads serverId key = some row ∧
        isValidServerAllowedIps row.allowedIps = true ∧ engineAddress row = ips := by
  rw [get?_engineInstalled, Option.map_eq_some_iff]
  constructor
  · rintro ⟨row, kept, address⟩
    obtain ⟨found, valid⟩ := Option.filter_eq_some_iff.mp kept
    exact ⟨row, found, valid, address⟩
  · rintro ⟨row, found, valid, address⟩
    exact ⟨row, Option.filter_eq_some_iff.mpr ⟨found, valid⟩, address⟩

theorem mem_keyedRows_stored (reads : TableReads) (serverId : String)
    (entry : String × Device) :
    entry ∈ keyedRows [serverId] reads.stored ↔ entry ∈ keyedRows [serverId] reads.db.devices := by
  unfold keyedRows servedRows
  exact ((reads.sameRows.filter _).filter _).mem_iff

/-- The engine accepts a row only under a key the agent files something under, padding
apart. -/
theorem agentRow_of_plain {reads : TableReads} {serverId key : String} {row : Device}
    (found : engineRow reads serverId key = some row) (plain : strip key = key) :
    ∃ device, agentRow reads serverId key = some device := by
  obtain ⟨named, id, listed⟩ := mem_of_lastNamed found
  have here := (mem_keyedRows_stored reads serverId _).mp listed
  have filed := @lastNamed_isSome (fun device => strip device.publicKey) _ _ here
  dsimp only at filed
  rw [named, plain] at filed
  exact filed

theorem strip_of_agentRow {reads : TableReads} {serverId key : String} {device : Device}
    (found : agentRow reads serverId key = some device) : strip key = key := by
  have named := (mem_of_lastNamed found).1
  rw [← named, strip_strip]

theorem same_iff_sourcesMatch (setup : Setup) (removeOrphans : Bool) (reads : TableReads)
    (serverId : String) :
    (∀ key, (agentInstalled setup reads serverId).get? key =
        (engineInstalled removeOrphans reads serverId).get? key) ↔
      SourcesMatch reads serverId := by
  by_cases accepts : AgentAccepts reads serverId
  · have agent := get?_agentInstalled accepts setup
    simp only [SourcesMatch, accepts, true_and, not_true, false_and, or_false]
    constructor
    · intro same
      refine ⟨?_, ?_⟩
      · intro key device filed
        have installed := agent key
        rw [filed, Option.map_some, same] at installed
        exact get?_engineInstalled_eq_some.mp installed
      · intro key row found valid
        have installed : (engineInstalled removeOrphans reads serverId).get? key =
            some (engineAddress row) := get?_engineInstalled_eq_some.mpr ⟨row, found, valid, rfl⟩
        rw [← same, agent] at installed
        obtain ⟨device, filed, _⟩ := Option.map_eq_some_iff.mp installed
        exact strip_of_agentRow filed
    · intro rows key
      rw [agent]
      cases filed : agentRow reads serverId key with
      | some device =>
          obtain ⟨row, found, valid, address⟩ := rows.counterpart key device filed
          exact (get?_engineInstalled_eq_some.mpr ⟨row, found, valid, address⟩).symm
      | none =>
          cases installed : (engineInstalled removeOrphans reads serverId).get? key with
          | none => rfl
          | some ips =>
              obtain ⟨row, found, valid, _⟩ := get?_engineInstalled_eq_some.mp installed
              obtain ⟨device, other⟩ := agentRow_of_plain found (rows.plainKeys key row found valid)
              rw [filed] at other
              cases other
  · simp only [SourcesMatch, accepts, false_and, not_false_eq_true, true_and, false_or,
      agentInstalled_of_refused accepts setup]
    constructor
    · intro same key row found
      rw [← Bool.not_eq_true]
      intro valid
      have installed : (engineInstalled removeOrphans reads serverId).get? key =
          some (engineAddress row) := get?_engineInstalled_eq_some.mpr ⟨row, found, valid, rfl⟩
      rw [← same] at installed
      cases installed
    · intro invalid key
      cases installed : (engineInstalled removeOrphans reads serverId).get? key with
      | none => rfl
      | some ips =>
          obtain ⟨row, found, valid, _⟩ := get?_engineInstalled_eq_some.mp installed
          rw [invalid key row found] at valid
          cases valid

theorem oneOwner_engineInstalled_iff (removeOrphans : Bool) (reads : TableReads)
    (serverId : String) :
    OneOwner (engineInstalled removeOrphans reads serverId) ↔ ¬ SharedAddress reads serverId := by
  constructor
  · rintro owners ⟨key, other, row, twin, different, found, foundTwin, valid, validTwin, address⟩
    exact different (owners key other _
      (get?_engineInstalled_eq_some.mpr ⟨row, found, valid, address⟩)
      (get?_engineInstalled_eq_some.mpr ⟨twin, foundTwin, validTwin, rfl⟩))
  · intro unshared key other ips installed again
    obtain ⟨row, found, valid, address⟩ := get?_engineInstalled_eq_some.mp installed
    obtain ⟨twin, foundTwin, validTwin, same⟩ := get?_engineInstalled_eq_some.mp again
    by_contra different
    exact unshared ⟨key, other, row, twin, different, found, foundTwin, valid, validTwin,
      address.trans same.symm⟩

/-- A row with acceptable addresses means the same to both sides. -/
theorem agentAddress_of_valid {device : Device}
    (valid : isValidServerAllowedIps device.allowedIps = true) :
    agentAddress device = engineAddress device := by
  obtain ⟨⟨nonempty, _⟩, _⟩ : (strip (orDefault device.allowedIps "") ≠ "" ∧ _) ∧ _ := by
    simpa only [isValidServerAllowedIps, Bool.and_eq_true, decide_eq_true_eq] using valid
  have filled : ∀ default,
      orDefault device.allowedIps default = orDefault device.allowedIps "" := by
    intro default
    cases stored : device.allowedIps with
    | none =>
        rw [stored] at nonempty
        exact absurd (by decide) nonempty
    | some text =>
        by_cases blank : text = ""
        · rw [stored, blank] at nonempty
          exact absurd (by decide) nonempty
        · rw [orDefault, orDefault, if_neg blank, if_neg blank]
  rw [agentAddress, engineAddress, filled, orDefault, if_neg nonempty, strip_strip]

/-- When every live device has a key of its own, the rows match exactly when each has a
plain key and an acceptable address. -/
theorem rowsMatch_of_own_keys {reads : TableReads} {serverId : String}
    (own : ∀ entry ∈ keyedRows [serverId] reads.db.devices,
      ∀ other ∈ keyedRows [serverId] reads.db.devices,
        strip entry.2.publicKey = strip other.2.publicKey → entry = other) :
    RowsMatch reads serverId ↔
      ∀ entry ∈ keyedRows [serverId] reads.db.devices,
        strip entry.2.publicKey = entry.2.publicKey ∧
          isValidServerAllowedIps entry.2.allowedIps = true := by
  have unique : ∀ id device, (id, device) ∈ keyedRows [serverId] reads.db.devices →
      ∀ found, found.publicKey = device.publicKey →
        (∃ other, (other, found) ∈ keyedRows [serverId] reads.db.devices) → found = device := by
    rintro id device listed found named ⟨other, there⟩
    exact congrArg Prod.snd (own _ there _ listed (congrArg strip named))
  have engineListed : ∀ key row, engineRow reads serverId key = some row →
      row.publicKey = key ∧ ∃ id, (id, row) ∈ keyedRows [serverId] reads.db.devices := by
    intro key row found
    obtain ⟨named, id, listed⟩ := mem_of_lastNamed found
    exact ⟨named, id, (mem_keyedRows_stored reads serverId _).mp listed⟩
  constructor
  · rintro rows ⟨id, device⟩ listed
    obtain ⟨filed, found⟩ := @lastNamed_isSome (fun device => strip device.publicKey) _ _ listed
    obtain ⟨same, other, there⟩ := mem_of_lastNamed found
    obtain rfl : filed = device := congrArg Prod.snd (own _ there _ listed same)
    obtain ⟨row, kept, valid, _⟩ := rows.counterpart _ filed found
    obtain ⟨named, twin, keptListed⟩ := engineListed _ row kept
    have plain : strip row.publicKey = row.publicKey := by rw [named, strip_strip]
    obtain rfl : row = filed := congrArg Prod.snd (own _ keptListed _ listed
      (by rw [plain, named]))
    exact ⟨plain, valid⟩
  · intro settled
    constructor
    · intro key device filed
      obtain ⟨named, id, listed⟩ := mem_of_lastNamed filed
      obtain ⟨plain, valid⟩ := settled _ listed
      have stored := (mem_keyedRows_stored reads serverId _).mpr listed
      obtain ⟨row, kept⟩ := @lastNamed_isSome Device.publicKey _ _ stored
      obtain ⟨keptNamed, keptListed⟩ := engineListed _ row kept
      obtain rfl := unique id device listed row keptNamed keptListed
      refine ⟨row, ?_, valid, (agentAddress_of_valid valid).symm⟩
      rw [← named, plain]
      exact kept
    · intro key row found _
      obtain ⟨named, id, listed⟩ := engineListed key row found
      rw [← named]
      exact (settled _ listed).1

/-- The two sources agree exactly when the rows match and, if the addresses that are set
are distinct, no two acceptable ones differ in white space alone. -/
theorem desired_sources_agree_iff (setup : Setup) (removeOrphans : Bool) (reads : TableReads)
    (serverId : String) :
    SourcesAgree setup removeOrphans reads serverId ↔
      SourcesMatch reads serverId ∧
        (SetAddressesDistinct reads serverId → ¬ SharedAddress reads serverId) := by
  rw [← same_iff_sourcesMatch setup removeOrphans, ← oneOwner_engineInstalled_iff removeOrphans]
  constructor
  · intro agrees
    exact ⟨agrees.same, agrees.engineOwners⟩
  · rintro ⟨same, owners⟩
    refine ⟨same, ?_, owners⟩
    intro distinct key other ips installed again
    rw [same] at installed again
    exact owners distinct key other ips installed again

def noAddress (publicKey : String) : Device :=
  ⟨1, "sub", "node-1", none, publicKey, none, none, none, none, none, .created⟩

/-- Two live devices without an address. -/
def twoWithoutAddress : TableReads :=
  { db := { smallFleet with
      devices := Dict.ofList [("a", noAddress Agent.aliceKey), ("b", noAddress Agent.bobKey)] }
    stored := Dict.ofList [("a", noAddress Agent.aliceKey), ("b", noAddress Agent.bobKey)]
    sameRows := List.Perm.refl _ }

/-- The agent gives both the same address; the engine installs neither. -/
theorem default_address_is_shared :
    SetAddressesDistinct twoWithoutAddress "node-1" ∧
      (agentInstalled Agent.labSetup twoWithoutAddress "node-1").entries =
        [(Agent.aliceKey, "10.8.1.2/32"), (Agent.bobKey, "10.8.1.2/32")] ∧
      (engineInstalled true twoWithoutAddress "node-1").entries = [] ∧
      ¬ SourcesAgree Agent.labSetup true twoWithoutAddress "node-1" := by
  have agent : (agentInstalled Agent.labSetup twoWithoutAddress "node-1").entries =
      [(Agent.aliceKey, "10.8.1.2/32"), (Agent.bobKey, "10.8.1.2/32")] := by
    decide +kernel
  have engine : (engineInstalled true twoWithoutAddress "node-1").entries = [] := by
    decide +kernel
  refine ⟨by unfold SetAddressesDistinct; decide +kernel, agent, engine, ?_⟩
  intro agrees
  have same := agrees.same Agent.aliceKey
  have installed : (agentInstalled Agent.labSetup twoWithoutAddress "node-1").get? Agent.aliceKey =
      some "10.8.1.2/32" := by
    rw [← Dict.mem_entries_iff, agent]
    exact List.mem_cons_self
  rw [installed, eq_comm, ← Dict.mem_entries_iff, engine] at same
  cases same

end VpnSuite.Fleet
