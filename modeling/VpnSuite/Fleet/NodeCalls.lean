/-
The calls of the issue paths to a node (`services/issue_service.py`,
`services/admin_issue_service.py`).

Both paths add a peer, ask the node whether it is there and go through
`_ensure_device_peer_on_node`.  The node is the map of its peers; it answers what it holds, and
a call that raises leaves it alone.  The rows of the database stand beside it.
-/

import VpnSuite.Fleet.MigratePeer
import VpnSuite.Fleet.ConfigDerivation

set_option autoImplicit false

namespace VpnSuite.Fleet

open Foundations
open Foundations.PythonText
open VpnSuite.ControlPlane (NodeEntry WgPeer listPeers listedPeer sampleKey)
open VpnSuite.Runtime (PeerConfigLike WireGuardCommandError)

structure OnNode (ρ : Type) where
  node : Dict String NodeEntry
  row : ρ

/-- The text of the exception each call raises, if it raises. -/
structure NodeFailures where
  remove : Option String
  add : Option String
  list : Option String
  ensureList : Option String
  ensureAdd : Option String
  replyRoutes : Option String
  deriving DecidableEq, Repr

inductive NodeCallError where
  | adapter (text : String)
  | command (error : WireGuardCommandError)
  deriving DecidableEq, Repr

/-- `str(exc)`. -/
def NodeCallError.text : NodeCallError → String
  | .adapter text => text
  | .command error => error.message

/-- The errors of the two paths. -/
inductive IssuePathError where
  | refused (error : IssueError)
  | config (error : ConfigError)
  | command (error : WireGuardCommandError)
  | node (error : NodeCallError)
  | encoding (text : String)
  deriving DecidableEq, Repr

def demand (condition : Bool) (error : IssuePathError) : Except IssuePathError Unit :=
  if condition then .ok () else .error error

theorem demand_ok {condition : Bool} {error : IssuePathError} {done : Unit} :
    demand condition error = .ok done ↔ condition = true := by
  unfold demand
  cases condition with
  | true => simp
  | false => simp

/-- The values `generate_wg_keypair` and `generate_preshared_key` return; the public key is
base64 text without blanks around it. -/
structure GeneratedKeys where
  privateKey : String
  publicKey : String
  presharedKey : String
  bare : strip publicKey = publicKey
  generated : presharedKey ≠ ""

def GeneratedKeys.client (keys : GeneratedKeys) (address : String) : ClientKeys :=
  ⟨keys.privateKey, keys.presharedKey, address, keys.generated⟩

/-- The peer both paths add, with `server_keepalive`. -/
def serverPeer (publicKey allowedIps presharedKey : String) : PeerConfigLike :=
  { publicKey := publicKey
    allowedIps := some allowedIps
    presharedKey := some presharedKey
    persistentKeepalive := some 15 }

/-- `(p.get("public_key") or "").strip() == key` for one of the peers. -/
def isListed (key : String) (peers : List WgPeer) : Bool :=
  peers.any (fun peer => strip (orDefault peer.publicKey "") = key)

section Calls

variable {ρ : Type}

def onPeers (change : Dict String NodeEntry → Dict String NodeEntry) (state : OnNode ρ) : OnNode ρ :=
  { state with node := change state.node }

def onRow (change : ρ → ρ) (state : OnNode ρ) : OnNode ρ := { state with row := change state.row }

def removeNodePeer (raised : Option String) (key : String) :
    Raising (OnNode ρ) NodeCallError Unit :=
  .call (raised.map .adapter) (onPeers (fun node => node.erase key))

def addNodePeer (raised : Option String) (peer : PeerConfigLike) :
    Raising (OnNode ρ) NodeCallError Unit :=
  .call (raised.map .adapter) (onPeers (setPeer peer))

def listNodePeers (raised : Option String) : Raising (OnNode ρ) NodeCallError (List WgPeer) :=
  .query (fun state =>
    match raised with
    | some text => .error (.adapter text)
    | none => .ok (listPeers state.node))

def ensureReplyRoutes (raised : Option String) : Raising (OnNode ρ) NodeCallError Unit :=
  .call (raised.map .adapter) id

/-- The peer has to be among those the node lists after the add. -/
def verifyPeer (raised : Option String) (missing : WireGuardCommandError) (key : String) :
    Raising (OnNode ρ) NodeCallError Unit := do
  let peers ← listNodePeers raised
  .check (isListed key peers) (.command missing)

/-- The add, and the check that the node lists the new peer. -/
def addAndVerify (failures : NodeFailures) (missing : String) (peer : PeerConfigLike) :
    Raising (OnNode ρ) NodeCallError Unit := do
  addNodePeer failures.add peer
  verifyPeer failures.list ⟨missing, "wg show", slice 64 peer.publicKey⟩ peer.publicKey

/-- `_ensure_device_peer_on_node`. -/
def ensureDevicePeerOnNode (failures : NodeFailures)
    (publicKey allowedIps presharedKey : String) : Raising (OnNode ρ) NodeCallError Unit := do
  let peers ← listNodePeers failures.ensureList
  if isListed (strip publicKey) peers then ensureReplyRoutes failures.replyRoutes
  else do
    addNodePeer failures.ensureAdd (serverPeer (strip publicKey) (strip allowedIps) presharedKey)
    ensureReplyRoutes failures.replyRoutes

/-! ### A peer that is on the node -/

/-- How a call ends that has no effect on the node. -/
def callEnd (raised : Option String) : Except NodeCallError Unit :=
  match raised with
  | some text => .error (.adapter text)
  | none => .ok ()

theorem isListed_of_mem {key : String} {node : Dict String NodeEntry} (bare : strip key = key)
    (present : key ∈ node.keys) : isListed key (listPeers node) = true := by
  obtain ⟨entry, inNode, rfl⟩ := List.mem_map.mp present
  rw [isListed, List.any_eq_true]
  refine ⟨listedPeer entry, List.mem_map_of_mem inNode, ?_⟩
  simp only [listedPeer, orDefault_empty, decide_eq_true_eq]
  exact bare

theorem listNodePeers_answers (state : OnNode ρ) :
    listNodePeers none state = (.ok (listPeers state.node), state) := rfl

theorem verifyPeer_present {raised : Option String} {missing : WireGuardCommandError} {key : String}
    {state : OnNode ρ} (bare : strip key = key) (present : key ∈ state.node.keys) :
    verifyPeer raised missing key state = (callEnd raised, state) := by
  unfold verifyPeer
  cases raised with
  | some text => rfl
  | none =>
      rw [Raising.bind_run_ok (listNodePeers_answers state), isListed_of_mem bare present]
      rfl

/-- A peer that is there is not added again. -/
theorem ensureDevicePeerOnNode_present {failures : NodeFailures}
    {publicKey allowedIps presharedKey : String} {state : OnNode ρ}
    (bare : strip publicKey = publicKey) (present : publicKey ∈ state.node.keys) :
    ensureDevicePeerOnNode failures publicKey allowedIps presharedKey state =
      (callEnd (failures.ensureList <|> failures.replyRoutes), state) := by
  unfold ensureDevicePeerOnNode
  cases failures.ensureList with
  | some text => rfl
  | none =>
      rw [Raising.bind_run_ok (listNodePeers_answers state), bare,
        if_pos (isListed_of_mem bare present)]
      cases failures.replyRoutes with
      | some text => rfl
      | none => rfl

theorem addAndVerify_refused {failures : NodeFailures} {text : String}
    (raised : failures.add = some text) (missing : String) (peer : PeerConfigLike)
    (state : OnNode ρ) :
    addAndVerify failures missing peer state = (.error (.adapter text), state) := by
  unfold addAndVerify addNodePeer
  rw [raised]
  rfl

theorem addAndVerify_added {failures : NodeFailures} {missing : String} {peer : PeerConfigLike}
    (bare : strip peer.publicKey = peer.publicKey) (added : failures.add = none)
    (state : OnNode ρ) :
    addAndVerify failures missing peer state =
      (callEnd failures.list, onPeers (setPeer peer) state) := by
  unfold addAndVerify
  rw [added]
  exact verifyPeer_present bare (mem_setPeer peer state.node)

theorem ensureDevicePeerOnNode_added {failures : NodeFailures}
    {publicKey allowedIps presharedKey : String} (bare : strip publicKey = publicKey)
    (state : OnNode ρ) :
    ensureDevicePeerOnNode failures publicKey allowedIps presharedKey
        (onPeers (setPeer (serverPeer publicKey allowedIps presharedKey)) state) =
      (callEnd (failures.ensureList <|> failures.replyRoutes),
        onPeers (setPeer (serverPeer publicKey allowedIps presharedKey)) state) :=
  ensureDevicePeerOnNode_present bare
    (mem_setPeer (serverPeer publicKey allowedIps presharedKey) state.node)

end Calls

/-! ### What the calls leave -/

/-- The remove had no effect: it raised, or there was no such peer. -/
def RemovalLeaves (failures : NodeFailures) (key : String) (node : Dict String NodeEntry) : Prop :=
  failures.remove ≠ none ∨ key ∉ node.keys

instance (failures : NodeFailures) (key : String) (node : Dict String NodeEntry) :
    Decidable (RemovalLeaves failures key node) := inferInstanceAs (Decidable (_ ∨ _))

/-- The peers after the best-effort remove. -/
def afterRemoval (failures : NodeFailures) (key : String) (node : Dict String NodeEntry) :
    Dict String NodeEntry :=
  if failures.remove = none then node.erase key else node

def SamePeers (left right : Dict String NodeEntry) : Prop := ∀ key, left.get? key = right.get? key

theorem samePeers_refl (node : Dict String NodeEntry) : SamePeers node node := fun _ => rfl

theorem not_samePeers {left right : Dict String NodeEntry} (key : String)
    (differ : left.get? key ≠ right.get? key) : ¬ SamePeers left right := fun same =>
  differ (same key)

theorem erase_keeps_iff {key : String} {node : Dict String NodeEntry} :
    (node.erase key).get? key = node.get? key ↔ key ∉ node.keys := by
  rw [Dict.get?_erase, if_pos rfl, ← Dict.get?_eq_none_iff]
  exact eq_comm

theorem afterRemoval_of_ne {failures : NodeFailures} {key other : String}
    (different : other ≠ key) (node : Dict String NodeEntry) :
    (afterRemoval failures key node).get? other = node.get? other := by
  unfold afterRemoval
  split
  · rw [Dict.get?_erase, if_neg different]
  · rfl

theorem afterRemoval_self_iff {failures : NodeFailures} {key : String}
    {node : Dict String NodeEntry} :
    (afterRemoval failures key node).get? key = node.get? key ↔ RemovalLeaves failures key node := by
  unfold afterRemoval RemovalLeaves
  split
  · rename_i removed
    rw [erase_keeps_iff, or_iff_right (fun raised => raised removed)]
  · rename_i raised
    exact iff_of_true rfl (Or.inl raised)

theorem samePeers_removal_iff {failures : NodeFailures} {key : String}
    {node : Dict String NodeEntry} :
    SamePeers (afterRemoval failures key node) node ↔ RemovalLeaves failures key node := by
  constructor
  · intro same
    exact afterRemoval_self_iff.mp (same key)
  · intro leaves other
    by_cases isKey : other = key
    · subst isKey
      exact afterRemoval_self_iff.mpr leaves
    · exact afterRemoval_of_ne isKey node

/-- The generated peer stood on the node already, just so, and under the key that was removed or
beside one that was not. -/
def PeerWasThere (failures : NodeFailures) (removed : String) (peer : PeerConfigLike)
    (node : Dict String NodeEntry) : Prop :=
  node.get? peer.publicKey = some (NodeEntry.ofConfig peer) ∧
    (removed = peer.publicKey ∨ RemovalLeaves failures removed node)

instance (failures : NodeFailures) (removed : String) (peer : PeerConfigLike) (node : Dict String NodeEntry) :
    Decidable (PeerWasThere failures removed peer node) := inferInstanceAs (Decidable (_ ∧ _))

theorem setPeer_serverPeer (publicKey allowedIps presharedKey : String)
    (node : Dict String NodeEntry) :
    setPeer (serverPeer publicKey allowedIps presharedKey) node =
      node.set publicKey (NodeEntry.ofConfig (serverPeer publicKey allowedIps presharedKey)) := rfl

theorem samePeers_set_iff {key : String} {entry : NodeEntry} {changed node : Dict String NodeEntry} :
    SamePeers (changed.set key entry) node ↔
      node.get? key = some entry ∧ ∀ other, other ≠ key → changed.get? other = node.get? other := by
  constructor
  · intro same
    refine ⟨?_, ?_⟩
    · rw [← same key, Dict.get?_set, if_pos rfl]
    · intro other different
      rw [← same other, Dict.get?_set, if_neg different]
  · rintro ⟨held, others⟩ other
    rw [Dict.get?_set]
    split
    · rename_i isKey
      rw [isKey, held]
    · rename_i different
      exact others other different

theorem samePeers_added_iff {publicKey allowedIps presharedKey : String}
    {node : Dict String NodeEntry} :
    SamePeers (setPeer (serverPeer publicKey allowedIps presharedKey) node) node ↔
      node.get? publicKey =
        some (NodeEntry.ofConfig (serverPeer publicKey allowedIps presharedKey)) := by
  rw [setPeer_serverPeer, samePeers_set_iff]
  exact and_iff_left (fun _ _ => rfl)

theorem samePeers_replaced_iff {failures : NodeFailures} {removed : String}
    {publicKey allowedIps presharedKey : String} {node : Dict String NodeEntry} :
    SamePeers (setPeer (serverPeer publicKey allowedIps presharedKey)
        (afterRemoval failures removed node)) node ↔
      PeerWasThere failures removed (serverPeer publicKey allowedIps presharedKey) node := by
  rw [setPeer_serverPeer, samePeers_set_iff]
  refine and_congr_right ?_
  intro _
  change _ ↔ removed = publicKey ∨ RemovalLeaves failures removed node
  constructor
  · intro others
    by_cases same : removed = publicKey
    · exact Or.inl same
    · exact Or.inr (afterRemoval_self_iff.mp (others removed same))
  · rintro kept other different
    by_cases isRemoved : other = removed
    · subst isRemoved
      exact afterRemoval_self_iff.mpr (kept.resolve_left different)
    · exact afterRemoval_of_ne isRemoved node

def sampleGeneratedKeys : GeneratedKeys :=
  ⟨sampleKey, "key-2", sampleKey, by decide, sampleKey_nonempty⟩

def noNodeFailures : NodeFailures := ⟨none, none, none, none, none, none⟩

end VpnSuite.Fleet
