/-
What a malformed key does to the loop of the node agent (`node-agent/agent.py`, `main`).

A list with a key that `_reconcile` refuses ends the cycle before the actions are polled, and the
instant of the last reconcile is not moved.  As long as every answer has such a key the agent
sends heartbeats and syncs the parameters of the answers, and nothing else: no peer is set, and no
action is polled.
-/

import VpnSuite.Agent.MainLoop

set_option autoImplicit false

namespace VpnSuite.Agent

open Foundations
open Foundations.Raising

/-- A list that `_reconcile` raises on. -/
def Malformed (desired : List DesiredPeer) : Prop :=
  ∃ error, desiredMap desired = .error error

/-- A heartbeat, an answer, the sync of its parameters, or a pass that ran no command. -/
def AgentEffect.Idle : AgentEffect → Prop
  | heartbeat _ => True
  | answered _ => True
  | envWritten _ => True
  | envRestarted => True
  | reconciled _ issued => issued = []
  | _ => False

section Starvation

variable {unicode : Char → Bool} {config : AgentConfig} {since : Int} {done : List AgentEffect}

/-- The agent is due for a pass and has nothing that it could reconcile. -/
structure Held (config : AgentConfig) (since : Int) (done : List AgentEffect)
    (loop : AgentLoop) : Prop where
  stored : loop.lastDesired = 0 ∨ Malformed loop.desiredPeers
  waiting : loop.lastReconcile = 0 ∨ loop.lastReconcile + config.reconcileInterval ≤ since
  idle : ∃ later, loop.effects = done ++ later ∧ ∀ effect ∈ later, effect.Idle

/-- The same once the list of a cycle is fetched. -/
structure Refused (config : AgentConfig) (since : Int) (done : List AgentEffect)
    (loop : AgentLoop) : Prop where
  stored : Malformed loop.desiredPeers
  waiting : loop.lastReconcile = 0 ∨ loop.lastReconcile + config.reconcileInterval ≤ since
  idle : ∃ later, loop.effects = done ++ later ∧ ∀ effect ∈ later, effect.Idle

theorem Refused.held {loop : AgentLoop} (refused : Refused config since done loop) :
    Held config since done loop :=
  ⟨Or.inr refused.stored, refused.waiting, refused.idle⟩

end Starvation

end VpnSuite.Agent
