/-
The control plane's reconciliation engine
(`backend/app/services/reconciliation_engine.py`).

`computeDiff` compares the device rows of a node with the peers the node lists;
`applyDiff` removes orphans, adds missing peers and reapplies drifted ones.  The
runtime adapter is a map from public key to what the node stores, and every call
to it may raise: no call is made twice in one cycle, so a failure pattern is a
function of the call.  Metrics, log lines and the measured duration are left out.
-/

import VpnSuite.Foundations.OrderedDict
import VpnSuite.Foundations.PythonText
import VpnSuite.Runtime.PeerScript

set_option autoImplicit false

namespace VpnSuite.ControlPlane

open Foundations
open Foundations.PythonText
open VpnSuite.Runtime (PeerConfigLike)

/-! ### Inputs -/

/-- One `(public_key, allowed_ips, preshared_key)` tuple of `db_peers`. -/
structure DbPeer where
  publicKey : String
  allowedIps : Option String
  presharedKey : Option String
  deriving DecidableEq, Repr

/-- One dictionary of `wg_peers`, with the keys the engine looks up. -/
structure WgPeer where
  publicKey : Option String
  allowedIps : Option String
  allowedIp : Option String
  deriving DecidableEq, Repr

structure ReconciliationSettings where
  readOnly : Bool
  removeOrphans : Bool
  deriving DecidableEq, Repr

@[ext] structure ReconciliationDiff where
  peersToAdd : List PeerConfigLike
  peersToRemove : List String
  peersToUpdate : List PeerConfigLike
  deriving DecidableEq, Repr

structure ReconciliationResult where
  peersAdded : Nat
  peersRemoved : Nat
  peersUpdated : Nat
  peersAddedPubkeys : List String
  errors : List String
  deriving DecidableEq, Repr

/-! ### The diff -/

def peerAllowedIps (peer : WgPeer) : String :=
  strip (orDefault peer.allowedIps (peer.allowedIp.getD ""))

def isValidServerAllowedIps (allowed : Option String) : Bool :=
  let text := strip (orDefault allowed "")
  text ≠ "" && !contains "0.0.0.0/0" text && (contains "/32" text || contains "/128" text)

/-- The pair stored in `db_map`: stripped addresses and a non-blank key or `None`. -/
def normalizeRow (row : DbPeer) : String × Option String :=
  (strip (orDefault row.allowedIps ""), orNone (strip (orDefault row.presharedKey "")))

def dbMap (dbPeers : List DbPeer) : Dict String (String × Option String) :=
  Dict.ofList ((dbPeers.filter (fun row => row.publicKey ≠ "")).map
    (fun row => (row.publicKey, normalizeRow row)))

/-- The item of `wg_map` for a listed peer; one without a public key has none. -/
def wgItem (peer : WgPeer) : Option (String × String) :=
  match peer.publicKey with
  | none => none
  | some key => if key = "" then none else some (key, peerAllowedIps peer)

def wgMap (wgPeers : List WgPeer) : Dict String String :=
  Dict.ofList (wgPeers.filterMap wgItem)

def peerConfig (key : String) (desired : String × Option String) : PeerConfigLike :=
  { publicKey := key
    allowedIps := some desired.1
    presharedKey := desired.2
    persistentKeepalive := some 25 }

/-- The drift test: only an empty or full-tunnel value on the node counts. -/
def drifted (allowed reported : String) : Bool :=
  reported ≠ allowed && (reported = "" || contains "0.0.0.0/0" reported)

def computeDiff (dbPeers : List DbPeer) (wgPeers : List WgPeer) : ReconciliationDiff :=
  let db := dbMap dbPeers
  let wg := wgMap wgPeers
  { peersToAdd :=
      (db.entries.filter (fun entry =>
        entry.1 ∉ wg.keys && isValidServerAllowedIps (some entry.2.1))).map
        (fun entry => peerConfig entry.1 entry.2)
    peersToRemove := wg.keys.filter (fun key => key ∉ db.keys)
    peersToUpdate :=
      (db.entries.filter (fun entry =>
        isValidServerAllowedIps (some entry.2.1) &&
          match wg.get? entry.1 with
          | none => false
          | some reported => drifted entry.2.1 reported)).map
        (fun entry => peerConfig entry.1 entry.2) }

/-! ### The runtime adapter -/

structure NodeEntry where
  allowedIps : String
  presharedKey : Option String
  deriving DecidableEq, Repr

def NodeEntry.ofConfig (config : PeerConfigLike) : NodeEntry :=
  ⟨config.allowedIps.getD "", config.presharedKey⟩

def listedPeer (entry : String × NodeEntry) : WgPeer :=
  { publicKey := some entry.1, allowedIps := some entry.2.allowedIps, allowedIp := none }

def listPeers (node : Dict String NodeEntry) : List WgPeer := node.entries.map listedPeer

inductive AdapterCall where
  | addPeer (config : PeerConfigLike)
  | removePeer (publicKey : String)
  deriving DecidableEq, Repr

/-- The text of the exception a call raises, if it raises. -/
def Failures := AdapterCall → Option String

def noFailures : Failures := fun _ => none

/-! ### Applying the diff -/

structure Applied where
  node : Dict String NodeEntry
  result : ReconciliationResult
  deriving DecidableEq

def Applied.addError (state : Applied) (action key message : String) : Applied :=
  { state with
    result := { state.result with
      errors := state.result.errors ++ [action ++ " " ++ slice 16 key ++ ": " ++ message] } }

def removeOrphan (raises : Failures) (state : Applied) (key : String) : Applied :=
  match raises (.removePeer key) with
  | some message => state.addError "remove" key message
  | none =>
      { node := state.node.erase key
        result := { state.result with peersRemoved := state.result.peersRemoved + 1 } }

def addMissing (raises : Failures) (state : Applied) (peer : PeerConfigLike) : Applied :=
  match raises (.addPeer peer) with
  | some message => state.addError "add" peer.publicKey message
  | none =>
      { node := state.node.set peer.publicKey (.ofConfig peer)
        result := { state.result with
          peersAdded := state.result.peersAdded + 1
          peersAddedPubkeys := state.result.peersAddedPubkeys ++ [peer.publicKey] } }

/-- Remove, then add, inside one `try`: a failing add leaves the peer removed. -/
def reapply (raises : Failures) (state : Applied) (peer : PeerConfigLike) : Applied :=
  match raises (.removePeer peer.publicKey) with
  | some message => state.addError "update" peer.publicKey message
  | none =>
      let removed := { state with node := state.node.erase peer.publicKey }
      match raises (.addPeer peer) with
      | some message => removed.addError "update" peer.publicKey message
      | none =>
          { node := removed.node.set peer.publicKey (.ofConfig peer)
            result := { state.result with peersUpdated := state.result.peersUpdated + 1 } }

def applyDiff (settings : ReconciliationSettings) (raises : Failures)
    (diff : ReconciliationDiff) (node : Dict String NodeEntry) : Applied :=
  let start : Applied := ⟨node, ⟨0, 0, 0, [], []⟩⟩
  if settings.readOnly = true ∧
      (diff.peersToAdd ≠ [] ∨ diff.peersToRemove ≠ [] ∨ diff.peersToUpdate ≠ []) then
    start
  else
    let pruned :=
      if settings.removeOrphans then diff.peersToRemove.foldl (removeOrphan raises) start
      else start
    let filled := diff.peersToAdd.foldl (addMissing raises) pruned
    diff.peersToUpdate.foldl (reapply raises) filled

/-- `compute_diff` on what the node lists, then `apply_diff`. -/
def reconcileCycle (settings : ReconciliationSettings) (raises : Failures)
    (dbPeers : List DbPeer) (node : Dict String NodeEntry) : Applied :=
  applyDiff settings raises (computeDiff dbPeers (listPeers node)) node

end VpnSuite.ControlPlane
