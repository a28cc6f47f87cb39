/-
The node agent's reconcile pass (`node-agent/agent.py`, `_reconcile`).

One call compares the desired peers with the runtime peers and issues set and
remove commands under a mutation budget.  Commands run outside the agent, so the
model takes the exit code of each issued command as an input and records every
command it issues.  Metrics and log lines are left out: nothing reads them back.
-/

import VpnSuite.Foundations.OrderedDict
import VpnSuite.Foundations.PythonText
import VpnSuite.Runtime.PeerScript

set_option autoImplicit false

namespace VpnSuite.Agent

open Foundations
open Foundations.PythonText

/-! ### Sanitisers -/

/-- The exceptions a reconcile pass can raise. -/
inductive ReconcileError where
  | invalidContainerName
  | invalidInterfaceName
  | invalidPublicKey
  | missingKey
  deriving DecidableEq, Repr

def ReconcileError.message : ReconcileError → String
  | .invalidContainerName => "invalid container name"
  | .invalidInterfaceName => "invalid interface name"
  | .invalidPublicKey => "invalid public key"
  | .missingKey => "KeyError"

def isContainerNameChar (char : Char) : Bool :=
  isAsciiAlphanumeric char || char == '_' || char == '.' || char == '-'

def isInterfaceNameChar (char : Char) : Bool :=
  isAsciiAlphanumeric char || char == '_' || char == '.' || char == ':' || char == '-'

def isPublicKeyChar (char : Char) : Bool :=
  isAsciiAlphanumeric char || char == '+' || char == '/' || char == '='

/-- `_CONTAINER_NAME_RE`: one alphanumeric, then at most 127 name characters. -/
def containerNameRe (text : String) : Bool :=
  match text.toList with
  | [] => false
  | first :: rest =>
      isAsciiAlphanumeric first && rest.length ≤ 127 && rest.all isContainerNameChar

/-- `_INTERFACE_NAME_RE`. -/
def interfaceNameRe : String → Bool := fullmatchClass isInterfaceNameChar 1 32

/-- `_PUBKEY_RE`. -/
def pubkeyRe : String → Bool := fullmatchClass isPublicKeyChar 32 64

/-- The shared shape of the three sanitisers: strip, then accept or raise. -/
def sanitize (accepts : String → Bool) (error : ReconcileError) (text : String) :
    Except ReconcileError String :=
  if accepts (strip text) then .ok (strip text) else .error error

def sanitizeContainer : String → Except ReconcileError String :=
  sanitize containerNameRe .invalidContainerName

def sanitizeIface : String → Except ReconcileError String :=
  sanitize interfaceNameRe .invalidInterfaceName

def sanitizePubkey : String → Except ReconcileError String :=
  sanitize pubkeyRe .invalidPublicKey

/-! ### Desired and runtime peers -/

/-- One object of the desired-state list, with the fields the agent reads. -/
structure DesiredPeer where
  publicKey : Option String
  allowedIps : Option String
  presharedKey : Option String
  persistentKeepalive : Option Int
  deriving DecidableEq, Repr

/-- The value stored under a key of `desired_map`. -/
structure PeerSpec where
  allowedIps : String
  keepalive : Int
  presharedKey : Option String
  deriving DecidableEq, Repr

/-- One runtime peer, with the columns of the dump that reconciling reads. -/
structure Peer where
  publicKey : String
  allowedIps : String
  deriving DecidableEq, Repr

/-- `int(p.get("persistent_keepalive") or 25)`. -/
def desiredKeepalive (value : Option Int) : Int :=
  match value with
  | none => 25
  | some seconds => if seconds = 0 then 25 else seconds

def desiredSpec (peer : DesiredPeer) : PeerSpec :=
  { allowedIps := strip (orDefault peer.allowedIps "0.0.0.0/0, ::/0")
    keepalive := desiredKeepalive peer.persistentKeepalive
    presharedKey := orNone (strip (orDefault peer.presharedKey "")) }

/-- The key the agent files a desired object under, or the exception it raises. -/
def desiredKey (peer : DesiredPeer) : Except ReconcileError String :=
  sanitizePubkey (strip (orDefault peer.publicKey ""))

def desiredPair (peer : DesiredPeer) : Except ReconcileError (String × PeerSpec) :=
  (desiredKey peer).map (fun key => (key, desiredSpec peer))

/-- `desired_map`: the first malformed key aborts, a repeated key keeps the last spec. -/
def desiredMap (desired : List DesiredPeer) : Except ReconcileError (Dict String PeerSpec) :=
  (desired.mapM desiredPair).map Dict.ofList

/-- `runtime_map`. -/
def runtimeMap (runtime : List Peer) : Dict String Peer :=
  Dict.ofList ((runtime.filter (fun peer => peer.publicKey ≠ "")).map
    (fun peer => (peer.publicKey, peer)))

/-! ### The diff -/

/-- `bool(spec.get("preshared_key"))`. -/
def hasPsk (spec : PeerSpec) : Bool :=
  match spec.presharedKey with
  | none => false
  | some key => key ≠ ""

def allowedChanged (spec : PeerSpec) (peer : Peer) : Bool :=
  spec.allowedIps ≠ "" && spec.allowedIps ≠ strip peer.allowedIps

def needsUpdate (spec : PeerSpec) (peer : Peer) : Bool :=
  allowedChanged spec peer || hasPsk spec

def toAdd (desired : Dict String PeerSpec) (runtime : Dict String Peer) : List String :=
  desired.keys.filter (fun key => key ∉ runtime.keys)

def toRemove (desired : Dict String PeerSpec) (runtime : Dict String Peer) : List String :=
  runtime.keys.filter (fun key => key ∉ desired.keys)

def toUpdate (desired : Dict String PeerSpec) (runtime : Dict String Peer) : List String :=
  (desired.entries.filter (fun entry =>
    match runtime.get? entry.1 with
    | none => false
    | some peer => needsUpdate entry.2 peer)).map Prod.fst

/-! ### Commands and the mutation loops -/

/-- The commands a pass can run inside the container. -/
inductive Command where
  | setPeer (publicKey : String) (spec : PeerSpec)
  | removePeer (publicKey : String)
  | save
  deriving DecidableEq, Repr

/-- What a command runs inside the container. -/
def Command.inner (iface : String) : Command → List String
  | .setPeer publicKey spec =>
      match spec.presharedKey with
      | none => "awg" :: Runtime.wgSetArgs iface publicKey spec.allowedIps spec.keepalive
      | some psk =>
          if psk = "" then
            "awg" :: Runtime.wgSetArgs iface publicKey spec.allowedIps spec.keepalive
          else
            ["sh", "-c", Runtime.pskScript iface publicKey spec.allowedIps spec.keepalive psk]
  | .removePeer publicKey => ["awg", "set", iface, "peer", publicKey, "remove"]
  | .save => ["awg-quick", "save", iface]

/-- A command together with the exit code it ended with. -/
structure Issued where
  command : Command
  exitCode : Int
  deriving DecidableEq, Repr

/-- The loop variables of a pass.  `failure` holds an exception in flight. -/
structure Progress where
  issued : List Issued
  mutationsLeft : Nat
  succeeded : Nat
  failure : Option ReconcileError
  deriving DecidableEq, Repr

/-- Only a command that exits with zero is counted and charged to the budget. -/
def Progress.record (progress : Progress) (command : Command) (exitCode : Int) : Progress :=
  if exitCode = 0 then
    { progress with
      issued := progress.issued ++ [⟨command, exitCode⟩]
      mutationsLeft := progress.mutationsLeft - 1
      succeeded := progress.succeeded + 1 }
  else
    { progress with issued := progress.issued ++ [⟨command, exitCode⟩] }

/-- The body shared by the add, update and remove loops.  The exit code of a
command is a function of its position in the call. -/
def mutationLoop (exitCode : Nat → Int) (prepare : String → Except ReconcileError Command) :
    List String → Progress → Progress
  | [], progress => progress
  | key :: rest, progress =>
      if progress.failure.isSome || progress.mutationsLeft = 0 then progress
      else
        match prepare key with
        | .error error => { progress with failure := some error }
        | .ok command =>
            mutationLoop exitCode prepare rest
              (progress.record command (exitCode progress.issued.length))

/-- `_run_set_peer(desired_map[pk])`: the closure reads the key of the running loop. -/
def prepareSet (desired : Dict String PeerSpec) (key : String) :
    Except ReconcileError Command :=
  match desired.get? key with
  | some spec => .ok (.setPeer key spec)
  | none => .error .missingKey

/-- The remove loop sanitises each runtime key once more before it is used. -/
def prepareRemove (key : String) : Except ReconcileError Command :=
  (sanitizePubkey key).map .removePeer

/-! ### The whole pass -/

/-- The arguments of `_reconcile` and the environment variable it reads. -/
structure ReconcileCall where
  container : String
  iface : String
  desired : List DesiredPeer
  runtime : List Peer
  maxMutations : Int
  readOnly : Bool
  allowPruneEmptyDesired : String
  deriving DecidableEq, Repr

/-- `(added, removed, updated)`. -/
structure Counts where
  added : Nat
  removed : Nat
  updated : Nat
  deriving DecidableEq, Repr

def Counts.total (counts : Counts) : Nat := counts.added + counts.removed + counts.updated

/-- Everything a call does: the commands it ran, in order, and how it ended. -/
structure Outcome where
  issued : List Issued
  returned : Except ReconcileError Counts

def allowPruneEmpty (raw : String) : Bool :=
  ["1", "true", "yes"].contains (lower (strip raw))

/-- The checks made before anything is compared. -/
def prepareCall (call : ReconcileCall) : Except ReconcileError (Dict String PeerSpec) := do
  let _iface ← sanitizeIface call.iface
  let _container ← sanitizeContainer call.container
  desiredMap call.desired

def noChange : Outcome := ⟨[], .ok ⟨0, 0, 0⟩⟩

def startProgress (budget : Nat) : Progress := ⟨[], budget, 0, none⟩

/-- The counter belongs to one loop, the budget and the trace to the call. -/
def Progress.nextLoop (progress : Progress) : Progress := { progress with succeeded := 0 }

/-- `awg-quick save` runs once at the end when at least one mutation succeeded. -/
def finish (exitCode : Nat → Int) (issued : List Issued) (counts : Counts) : Outcome :=
  if counts.total = 0 then ⟨issued, .ok counts⟩
  else ⟨issued ++ [⟨.save, exitCode issued.length⟩], .ok counts⟩

def applyMutations (exitCode : Nat → Int) (desired : Dict String PeerSpec)
    (runtime : Dict String Peer) (budget : Nat) : Outcome :=
  let adds := mutationLoop exitCode (prepareSet desired) (toAdd desired runtime)
    (startProgress budget)
  let updates := mutationLoop exitCode (prepareSet desired) (toUpdate desired runtime)
    adds.nextLoop
  let removes := mutationLoop exitCode prepareRemove (toRemove desired runtime)
    updates.nextLoop
  match removes.failure with
  | some error => ⟨removes.issued, .error error⟩
  | none =>
      finish exitCode removes.issued
        { added := adds.succeeded, removed := removes.succeeded, updated := updates.succeeded }

/-- `_reconcile`, run against the given exit codes. -/
def reconcile (call : ReconcileCall) (exitCode : Nat → Int) : Outcome :=
  match prepareCall call with
  | .error error => ⟨[], .error error⟩
  | .ok desired =>
      let runtime := runtimeMap call.runtime
      if desired.keys = [] ∧ runtime.keys ≠ [] ∧
          allowPruneEmpty call.allowPruneEmptyDesired = false then
        noChange
      else if call.readOnly then noChange
      else applyMutations exitCode desired runtime call.maxMutations.toNat

end VpnSuite.Agent
