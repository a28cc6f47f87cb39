/-
What adding a peer does to a docker node (`add_peer` in `services/node_runtime_docker.py`).

The node maps keys to the networks allowed for them, and `wg set` takes the networks of a peer
away from all others.  The adapter lists the peers before the command, to find conflicts, and
after it, to verify what was set; a listing that fails is an empty list.  Both times it looks at
IPv4 hosts alone.

What `wg` makes of a command is open: the networks it reads in it, or its output if it fails.
The routes and the saved configuration, whose failures are logged, are left out.
-/

import VpnSuite.Foundations.OrderedDict
import VpnSuite.Runtime.DockerAddPeer
import Mathlib.Data.List.Dedup

set_option autoImplicit false

namespace VpnSuite.Runtime

open Foundations
open Foundations.PythonText

/-! ### The node -/

/-- A network as `wg show` prints it: without white space, and a host as `address/32`. -/
structure NetworkText where
  text : String
  single : ',' ∉ text.toList
  visible : ∀ char ∈ text.toList, isSpace char = false
  host : ∀ cidr, hostCidr text.toList = some cidr → cidr = text
  deriving DecidableEq

/-- The peers of a node with their networks. -/
abbrev NodePeers := Dict String (List NetworkText)

/-- `wg set … allowed-ips`. -/
def setAllowedIps (peers : NodePeers) (publicKey : String) (networks : List NetworkText) :
    NodePeers :=
  (peers.mapValues (fun held => held.filter (fun network => network ∉ networks))).set publicKey
    networks.dedup

/-- The column of the dump. -/
def shownNetworks (networks : List NetworkText) : String :=
  if networks = [] then "(none)" else join "," (networks.map NetworkText.text)

/-- `list_peers`, empty if it fails. -/
def listPeers (succeeds : Bool) (peers : NodePeers) : List ListedPeer :=
  if succeeds then peers.entries.map (fun entry => ⟨some entry.1, some (shownNetworks entry.2)⟩)
  else []

/-! ### `add_peer` -/

/-- Whether the listings before and after the command succeed. -/
structure Listings where
  before : Bool
  after : Bool
  deriving DecidableEq, Repr

/-- The networks listed for the key. -/
def appliedIps (publicKey : String) (listed : List ListedPeer) : String :=
  match listed.find? (fun peer => peer.publicKey = some publicKey) with
  | none => ""
  | some peer => strip (orDefault peer.allowedIps "")

/-- Equality of the sets. -/
def sameTexts (left right : List String) : Bool :=
  left.all (fun text => text ∈ right) && right.all (fun text => text ∈ left)

def requestedKey (config : PeerConfigLike) : String := strip config.publicKey

def requestedIps (config : PeerConfigLike) : String := strip (orDefault config.allowedIps "")

/-- What is not under the adapter's control: the output of a command that fails, and the
networks `wg` reads in a text. -/
structure WgTool where
  failure : List String → Option String
  networksIn : String → List NetworkText

section AddPeer

variable (wg : WgTool) (listings : Listings) (nodeId : String) (node : Option NodeMetadata)
  (defaultInterface : String) (peers : NodePeers) (config : PeerConfigLike)

/-- `add_peer`, with the peers it leaves. -/
def addPeer : NodePeers × Except WireGuardCommandError Unit :=
  match addPeerCommand nodeId node defaultInterface (listPeers listings.before peers) config with
  | .error error => (peers, .error error)
  | .ok (_, command) =>
      match wg.failure command with
      | some output => (peers, .error ⟨"wg set failed", "docker exec wg set", slice 400 output⟩)
      | none =>
          let after :=
            setAllowedIps peers (requestedKey config) (wg.networksIn (requestedIps config))
          let applied := appliedIps (requestedKey config) (listPeers listings.after after)
          if sameTexts (extractIpv4HostCidrs (requestedIps config)) (extractIpv4HostCidrs applied)
          then (after, .ok ())
          else
            (after, .error ⟨"Verification failed: allowed_ips not applied on node", "add_peer",
              "expected=" ++ slice 48 (requestedIps config) ++ " got=" ++ slice 48 applied⟩)

end AddPeer

/-! ### What the listings show -/

section Listed

variable {peers : NodePeers} {networks : List NetworkText} {publicKey : String}

/-- The networks have the host. -/
def HasHost (networks : List NetworkText) (cidr : String) : Prop :=
  ∃ network ∈ networks, hostCidr network.text.toList = some cidr

theorem mem_intercalate {char : Char} {separator : List Char} {pieces : List (List Char)}
    (member : char ∈ separator.intercalate pieces) :
    char ∈ separator ∨ ∃ piece ∈ pieces, char ∈ piece := by
  induction pieces with
  | nil => cases member
  | cons piece rest ih =>
      by_cases last : rest = []
      · rw [last, List.intercalate_singleton] at member
        exact .inr ⟨piece, List.mem_cons_self, member⟩
      · rw [List.intercalate_cons_of_ne_nil last, List.mem_append, List.mem_append] at member
        rcases member with (here | between) | later
        · exact .inr ⟨piece, List.mem_cons_self, here⟩
        · exact .inl between
        · rcases ih later with between | ⟨other, inRest, there⟩
          · exact .inl between
          · exact .inr ⟨other, List.mem_cons_of_mem piece inRest, there⟩

theorem mem_shownNetworks {char : Char} (member : char ∈ (shownNetworks networks).toList) :
    isSpace char = false := by
  unfold shownNetworks at member
  split at member
  · have plain : "(none)".toList.all (fun other => !isSpace other) = true := by decide
    simpa using List.all_eq_true.mp plain char member
  · rw [join, String.toList_ofList, List.map_map] at member
    rcases mem_intercalate member with comma | ⟨piece, isPiece, there⟩
    · obtain rfl := List.mem_singleton.mp comma
      decide
    · obtain ⟨network, -, rfl⟩ := List.mem_map.mp isPiece
      exact network.visible char there

theorem strip_shownNetworks (networks : List NetworkText) :
    strip (shownNetworks networks) = shownNetworks networks := by
  have visible (char : Char) (member : char ∈ (shownNetworks networks).toList) :
      isSpace char = false := mem_shownNetworks member
  have ends := stripChars_of_ends
    (fun char first => visible char (List.mem_of_mem_head? first))
    (fun char last => visible char (List.mem_of_mem_getLast? last))
  rw [strip, ends.2.2, String.ofList_toList]

theorem stripChars_networkText (network : NetworkText) :
    stripChars network.text.toList = network.text.toList :=
  (stripChars_of_ends (fun char first => network.visible char (List.mem_of_mem_head? first))
    (fun char last => network.visible char (List.mem_of_mem_getLast? last))).2.2

/-- The hosts of a listed column are those of the networks. -/
theorem mem_hosts_shown {cidr : String} :
    cidr ∈ extractIpv4HostCidrs (shownNetworks networks) ↔ HasHost networks cidr := by
  by_cases empty : networks = []
  · subst empty
    have noHosts : extractIpv4HostCidrs (shownNetworks []) = [] := by decide
    rw [noHosts]
    exact iff_of_false List.not_mem_nil (fun ⟨_, member, _⟩ => by cases member)
  · have pieces : (shownNetworks networks).toList.splitOn ',' =
        networks.map (fun network => network.text.toList) := by
      rw [shownNetworks, if_neg empty, join, String.toList_ofList, List.map_map]
      refine List.splitOn_intercalate ',' ?_ (by simpa using empty)
      intro piece isPiece
      obtain ⟨network, -, rfl⟩ := List.mem_map.mp isPiece
      exact network.single
    rw [extractIpv4HostCidrs, pieces, List.mem_filterMap, HasHost]
    constructor
    · rintro ⟨piece, isPiece, found⟩
      obtain ⟨network, member, rfl⟩ := List.mem_map.mp isPiece
      rw [stripChars_networkText] at found
      exact ⟨network, member, found⟩
    · rintro ⟨network, member, found⟩
      refine ⟨network.text.toList, List.mem_map.mpr ⟨network, member, rfl⟩, ?_⟩
      rw [stripChars_networkText]
      exact found

theorem hosts_of_listed (networks : List NetworkText) :
    extractIpv4HostCidrs (strip (orDefault (some (shownNetworks networks)) "")) =
      extractIpv4HostCidrs (shownNetworks networks) := by
  rw [orDefault_empty, strip_shownNetworks]

theorem mem_listPeers {succeeds : Bool} {peer : ListedPeer} :
    peer ∈ listPeers succeeds peers ↔ succeeds = true ∧ ∃ key held,
      peers.get? key = some held ∧ peer = ⟨some key, some (shownNetworks held)⟩ := by
  unfold listPeers
  split
  · rename_i succeeded
    rw [List.mem_map]
    constructor
    · rintro ⟨⟨key, held⟩, member, rfl⟩
      exact ⟨succeeded, key, held, (peers.mem_entries_iff key held).mp member, rfl⟩
    · rintro ⟨-, key, held, stored, rfl⟩
      exact ⟨(key, held), (peers.mem_entries_iff key held).mpr stored, rfl⟩
  · rename_i failed
    exact iff_of_false List.not_mem_nil (fun both => failed both.1)

/-- The networks of a key in a listing are the ones it has. -/
theorem hosts_appliedIps {succeeds : Bool} {held : List NetworkText} {cidr : String}
    (stored : peers.get? publicKey = some held) :
    cidr ∈ extractIpv4HostCidrs (appliedIps publicKey (listPeers succeeds peers)) ↔
      succeeds = true ∧ HasHost held cidr := by
  unfold appliedIps
  cases found : (listPeers succeeds peers).find? (fun peer => peer.publicKey = some publicKey) with
  | none =>
      have failed : ¬ succeeds = true := by
        intro succeeded
        have listed := mem_listPeers.mpr ⟨succeeded, publicKey, held, stored, rfl⟩
        exact absurd (decide_eq_true rfl) (List.find?_eq_none.mp found _ listed)
      have noHosts : extractIpv4HostCidrs "" = [] := by decide
      dsimp only
      rw [noHosts]
      exact iff_of_false List.not_mem_nil (fun both => failed both.1)
  | some peer =>
      obtain ⟨succeeded, key, networks, atKey, rfl⟩ :=
        mem_listPeers.mp (List.mem_of_find?_eq_some found)
      have same : key = publicKey := by
        simpa using List.find?_some found
      subst same
      obtain rfl := Option.some.inj (stored.symm.trans atKey)
      dsimp only
      rw [hosts_of_listed, mem_hosts_shown]
      exact (and_iff_right succeeded).symm

end Listed

/-! ### The checks -/

section Checks

variable {publicKey : String} {target : List String} {peers : NodePeers}

theorem checkConflicts_ok {listed : List ListedPeer} :
    checkConflicts publicKey target listed = .ok () ↔
      ∀ peer ∈ listed, conflicts publicKey target peer = [] := by
  induction listed with
  | nil => exact iff_of_true rfl (fun _ member => by cases member)
  | cons peer rest ih =>
      rw [List.forall_mem_cons, ← ih]
      have unfolded : checkConflicts publicKey target (peer :: rest) =
          if conflicts publicKey target peer = [] then checkConflicts publicKey target rest
          else .error ⟨"allowed_ips conflict: " ++
              String.intercalate ", " (conflicts publicKey target peer) ++
              " already assigned to another peer", "add_peer",
            slice 64 (String.intercalate ", " (conflicts publicKey target peer))⟩ := rfl
      rw [unfolded]
      split
      · rename_i free
        exact (and_iff_right free).symm
      · rename_i taken
        exact iff_of_false (fun same => by cases same) (fun both => taken both.1)

/-- A conflict is found where another listed peer has a host of the request. -/
theorem noConflict_iff {succeeds : Bool} :
    checkConflicts publicKey target (listPeers succeeds peers) = .ok () ↔
      (succeeds = true → ∀ other held, other ≠ publicKey → peers.get? other = some held →
        ∀ cidr ∈ target, ¬ HasHost held cidr) := by
  have free {key : String} {held : List NetworkText} :
      conflicts publicKey target ⟨some key, some (shownNetworks held)⟩ = [] ↔
        (key ≠ publicKey → ∀ cidr ∈ target, ¬ HasHost held cidr) := by
    unfold conflicts
    split
    · rename_i same
      exact iff_of_true rfl (fun different => absurd (Option.some.inj same) different)
    · rename_i different
      have other : key ≠ publicKey := fun same => different (congrArg some same)
      rw [List.filter_eq_nil_iff, forall_prop_of_true other]
      refine forall_congr' (fun cidr => ?_)
      rw [List.mem_dedup, List.contains_iff_mem, hosts_of_listed, mem_hosts_shown]
  rw [checkConflicts_ok]
  constructor
  · intro all succeeded other held different stored
    exact free.mp (all _ (mem_listPeers.mpr ⟨succeeded, other, held, stored, rfl⟩)) different
  · intro all peer member
    obtain ⟨succeeded, key, held, stored, rfl⟩ := mem_listPeers.mp member
    exact free.mpr (fun different => all succeeded key held different stored)

theorem sameTexts_iff {left right : List String} :
    sameTexts left right = true ↔ ∀ text, text ∈ left ↔ text ∈ right := by
  simp only [sameTexts, Bool.and_eq_true, List.all_eq_true, decide_eq_true_eq]
  constructor
  · rintro ⟨inRight, inLeft⟩ text
    exact ⟨inRight text, inLeft text⟩
  · intro same
    exact ⟨fun text => (same text).mp, fun text => (same text).mpr⟩

/-- The command is run if the request is accepted and no conflict is found. -/
theorem addPeerCommand_unlisted {nodeId : String} {node : Option NodeMetadata}
    {defaultInterface : String} {existing : List ListedPeer} {config : PeerConfigLike}
    {made : String × List String} :
    addPeerCommand nodeId node defaultInterface existing config = .ok made ↔
      addPeerCommand nodeId node defaultInterface [] config = .ok made ∧
        checkConflicts (requestedKey config) (extractIpv4HostCidrs (requestedIps config)) existing =
          .ok () := by
  cases node with
  | none => exact iff_of_false (fun same => by cases same) (fun both => by cases both.1)
  | some metadata =>
      simp only [addPeerCommand, bind_eq_ok]
      constructor
      · rintro ⟨iface, ifaceRead, publicKey, keyRead, _, served, allowedIps, ipsRead, _, free, built⟩
        have keyText := (sanitizeText_ok keyRead).1
        have ipsText := (sanitizeText_ok ipsRead).1
        rw [strip_strip] at ipsText
        refine ⟨⟨iface, ifaceRead, publicKey, keyRead, (), served, allowedIps, ipsRead, (), rfl,
          built⟩, ?_⟩
        rw [requestedKey, requestedIps, ← keyText, ← ipsText]
        exact free
      · rintro ⟨⟨iface, ifaceRead, publicKey, keyRead, _, served, allowedIps, ipsRead, _, -, built⟩,
          free⟩
        have keyText := (sanitizeText_ok keyRead).1
        have ipsText := (sanitizeText_ok ipsRead).1
        rw [strip_strip] at ipsText
        rw [requestedKey, requestedIps, ← keyText, ← ipsText] at free
        exact ⟨iface, ifaceRead, publicKey, keyRead, (), served, allowedIps, ipsRead, (), free,
          built⟩

end Checks

/-! ### The law -/

section Law

variable (wg : WgTool) (listings : Listings) (nodeId : String) (node : Option NodeMetadata)
  (defaultInterface : String) (peers : NodePeers) (config : PeerConfigLike)

/-- If `add_peer` returns, the peer has the networks of the request and no other peer has
lost one. -/
def AddsExactly : Prop :=
  ∀ after, addPeer wg listings nodeId node defaultInterface peers config = (after, .ok ()) →
    (∃ held, after.get? (requestedKey config) = some held ∧
      ∀ network, network ∈ held ↔ network ∈ wg.networksIn (requestedIps config)) ∧
    ∀ other, other ≠ requestedKey config → after.get? other = peers.get? other

/-- The request passes the sanitisers and `wg` takes the command. -/
def Runs : Prop :=
  ∃ made, addPeerCommand nodeId node defaultInterface [] config = .ok made ∧
    wg.failure made.2 = none

/-- Another peer has one of the networks. -/
def Taken (networks : List NetworkText) : Prop :=
  ∃ other held, other ≠ requestedKey config ∧ peers.get? other = some held ∧
    ∃ network ∈ networks, network ∈ held

/-- Another peer has one of the IPv4 hosts of the request. -/
def HostTaken : Prop :=
  ∃ other held, other ≠ requestedKey config ∧ peers.get? other = some held ∧
    ∃ cidr ∈ extractIpv4HostCidrs (requestedIps config), HasHost held cidr

/-- The listing after the command shows the IPv4 hosts of the request. -/
def HostsShown : Prop :=
  ∀ cidr, cidr ∈ extractIpv4HostCidrs (requestedIps config) ↔
    listings.after = true ∧ HasHost (wg.networksIn (requestedIps config)) cidr

end Law

section AddsExactly

variable {wg : WgTool} {listings : Listings} {nodeId : String} {node : Option NodeMetadata}
  {defaultInterface : String} {peers : NodePeers} {config : PeerConfigLike}
  {networks : List NetworkText}

theorem get?_setAllowedIps_self (publicKey : String) :
    (setAllowedIps peers publicKey networks).get? publicKey = some networks.dedup := by
  rw [setAllowedIps, Dict.get?_set, if_pos rfl]

theorem get?_setAllowedIps_ne {publicKey other : String} (different : other ≠ publicKey) :
    (setAllowedIps peers publicKey networks).get? other =
      (peers.get? other).map (fun held => held.filter (fun network => network ∉ networks)) := by
  rw [setAllowedIps, Dict.get?_set, if_neg different, Dict.get?_mapValues]

theorem hasHost_dedup {cidr : String} : HasHost networks.dedup cidr ↔ HasHost networks cidr := by
  simp only [HasHost, List.mem_dedup]

/-- The other peers keep their networks exactly when none of them has one that is set. -/
theorem others_kept_iff :
    (∀ other, other ≠ requestedKey config →
        (setAllowedIps peers (requestedKey config) networks).get? other = peers.get? other) ↔
      ¬ Taken peers config networks := by
  constructor
  · rintro kept ⟨other, held, different, stored, network, isSet, isHeld⟩
    have same := kept other different
    rw [get?_setAllowedIps_ne different, stored] at same
    have all := List.filter_eq_self.mp (Option.some.inj same) network isHeld
    exact of_decide_eq_true all isSet
  · intro free other different
    rw [get?_setAllowedIps_ne different]
    cases stored : peers.get? other with
    | none => rfl
    | some held =>
        refine congrArg some (List.filter_eq_self.mpr ?_)
        intro network isHeld
        exact decide_eq_true
          (fun isSet => free ⟨other, held, different, stored, network, isSet, isHeld⟩)

theorem noConflict_iff_free :
    checkConflicts (requestedKey config) (extractIpv4HostCidrs (requestedIps config))
        (listPeers listings.before peers) = .ok () ↔
      ¬ (listings.before = true ∧ HostTaken peers config) := by
  rw [noConflict_iff]
  constructor
  · rintro free ⟨succeeded, other, held, different, stored, cidr, asked, has⟩
    exact free succeeded other held different stored cidr asked has
  · intro free succeeded other held different stored cidr asked has
    exact free ⟨succeeded, other, held, different, stored, cidr, asked, has⟩

/-- The verification passes exactly when the listing shows the hosts. -/
theorem verified_iff :
    sameTexts (extractIpv4HostCidrs (requestedIps config))
        (extractIpv4HostCidrs (appliedIps (requestedKey config)
          (listPeers listings.after (setAllowedIps peers (requestedKey config)
            (wg.networksIn (requestedIps config)))))) = true ↔
      HostsShown wg listings config := by
  rw [sameTexts_iff]
  refine forall_congr' (fun cidr => ?_)
  rw [hosts_appliedIps (get?_setAllowedIps_self (requestedKey config)), hasHost_dedup]

/-- When `add_peer` returns, and what it leaves then. -/
theorem addPeer_ok {after : NodePeers} :
    addPeer wg listings nodeId node defaultInterface peers config = (after, .ok ()) ↔
      Runs wg nodeId node defaultInterface config ∧
        ¬ (listings.before = true ∧ HostTaken peers config) ∧ HostsShown wg listings config ∧
        after = setAllowedIps peers (requestedKey config)
          (wg.networksIn (requestedIps config)) := by
  unfold addPeer
  split
  · rename_i error refused
    refine iff_of_false (fun same => by cases congrArg Prod.snd same) ?_
    rintro ⟨⟨made, accepted, -⟩, free, -⟩
    have allowed := addPeerCommand_unlisted.mpr ⟨accepted, noConflict_iff_free.mpr free⟩
    cases refused.symm.trans allowed
  · rename_i container command built
    obtain ⟨accepted, free⟩ := addPeerCommand_unlisted.mp built
    split
    · rename_i output failed
      refine iff_of_false (fun same => by cases congrArg Prod.snd same) ?_
      rintro ⟨⟨made, alike, passed⟩, -⟩
      obtain rfl := Except.ok.inj (accepted.symm.trans alike)
      cases failed.symm.trans passed
    · rename_i passed
      dsimp only
      split
      · rename_i verified
        constructor
        · intro same
          exact ⟨⟨_, accepted, passed⟩, noConflict_iff_free.mp free, verified_iff.mp verified,
            (congrArg Prod.fst same).symm⟩
        · rintro ⟨-, -, -, rfl⟩
          rfl
      · rename_i unverified
        refine iff_of_false (fun same => by cases congrArg Prod.snd same) ?_
        rintro ⟨-, -, shown, -⟩
        exact unverified (verified_iff.mpr shown)

/-- The law holds exactly when a request that is run asks for no network of another peer, or
asks for an IPv4 host that the first listing shows with another peer, or the second listing
does not show the hosts asked for. -/
theorem addsExactly_iff :
    AddsExactly wg listings nodeId node defaultInterface peers config ↔
      (Runs wg nodeId node defaultInterface config →
        ¬ Taken peers config (wg.networksIn (requestedIps config)) ∨
          (listings.before = true ∧ HostTaken peers config) ∨
          ¬ HostsShown wg listings config) := by
  constructor
  · intro law runs
    by_contra escaped
    simp only [not_or, not_not] at escaped
    obtain ⟨taken, free, shown⟩ := escaped
    exact others_kept_iff.mp (law _ (addPeer_ok.mpr ⟨runs, free, shown, rfl⟩)).2 taken
  · intro condition after returned
    obtain ⟨runs, free, shown, rfl⟩ := addPeer_ok.mp returned
    refine ⟨⟨_, get?_setAllowedIps_self _, fun network => List.mem_dedup⟩, ?_⟩
    rcases condition runs with untaken | conflict | hidden
    · exact others_kept_iff.mpr untaken
    · exact absurd conflict free
    · exact absurd shown hidden

end AddsExactly

/-! ### Networks that are taken -/

/-- `wg` takes every command and reads the network in its text. -/
def WgTool.reading (network : NetworkText) : WgTool where
  failure := fun _ => none
  networksIn := fun text => if text = network.text then [network] else []

def ipv6Host : NetworkText where
  text := "fd00::2/128"
  single := by decide
  visible := by
    have plain : "fd00::2/128".toList.all (fun char => !isSpace char) = true := by decide
    simpa only [List.all_eq_true, Bool.not_eq_true'] using plain
  host := by
    have unread : hostCidr "fd00::2/128".toList = none := by decide
    intro cidr found
    cases unread.symm.trans found

def ipv4Host : NetworkText where
  text := "10.8.1.2/32"
  single := by decide
  visible := by
    have plain : "10.8.1.2/32".toList.all (fun char => !isSpace char) = true := by decide
    simpa only [List.all_eq_true, Bool.not_eq_true'] using plain
  host := by
    have read : hostCidr "10.8.1.2/32".toList = some "10.8.1.2/32" := by decide
    intro cidr found
    exact Option.some.inj (found.symm.trans read)

/-- Another peer has the network. -/
def heldBy (owner : String) (network : NetworkText) : NodePeers := Dict.empty.set owner [network]

def newPeer (network : NetworkText) : PeerConfigLike where
  publicKey := "TLeYYW7ud/7EPHoMlyYGFcxAHgiTHafCMHq02f6LbCQ="
  allowedIps := some network.text
  persistentKeepalive := some 25
  presharedKey := none

/-- An IPv6 host is taken from the peer that has it, and an IPv4 host is if the first listing
fails. -/
theorem takes_from_another :
    ¬ AddsExactly (WgTool.reading ipv6Host) ⟨true, true⟩ "n1" (some ⟨"amnezia-awg", some "awg0"⟩)
        "awg0" (heldBy "xTIBA5rboUvnH4htodjb6e697QjLERt1NAB4mZqp8Dg=" ipv6Host)
        (newPeer ipv6Host) ∧
      ¬ AddsExactly (WgTool.reading ipv4Host) ⟨false, true⟩ "n1"
        (some ⟨"amnezia-awg", some "awg0"⟩) "awg0"
        (heldBy "xTIBA5rboUvnH4htodjb6e697QjLERt1NAB4mZqp8Dg=" ipv4Host) (newPeer ipv4Host) := by
  have owner : "xTIBA5rboUvnH4htodjb6e697QjLERt1NAB4mZqp8Dg=" ≠
      "TLeYYW7ud/7EPHoMlyYGFcxAHgiTHafCMHq02f6LbCQ=" := by decide
  constructor
  · intro law
    have same := (law _ rfl).2 _ owner
    exact absurd same (by decide)
  · intro law
    have same := (law _ rfl).2 _ owner
    exact absurd same (by decide)

end VpnSuite.Runtime
