/-
The hosts listing of the Docker telemetry and its circuits
(`services/docker_telemetry_service.py`, `services/docker_engine_client.py`).

Each host has a circuit.  Listing the hosts pings those whose circuit is closed and lists
their containers; whatever is raised on the way, the circuit being open included, counts as a
failure, and an operation that failed at every attempt has counted as one already.

A poll brings the instant at which it comes to each host and what every attempt there returns;
nothing stands for an exception.  The state remembers which operations were tried where.
-/

import VpnSuite.Foundations.CircuitBreakers
import VpnSuite.Foundations.OrderedDict
import VpnSuite.Foundations.PythonText
import VpnSuite.Foundations.RaisingPrograms

set_option autoImplicit false

namespace VpnSuite.Telemetry

open Foundations
open Foundations.CircuitBreakers
open Foundations.PythonText
open Raising

structure DockerSettings where
  retryCount : Int
  circuit : Rule

structure DockerHost where
  hostId : String
  name : String
  endpointKind : String

/-- The configured hosts, which the client keeps by their ids. -/
structure DockerHosts where
  hosts : List DockerHost
  distinct : (hosts.map DockerHost.hostId).Nodup

structure ContainerRow where
  state : String
  status : String

structure HostSummary where
  hostId : String
  name : String
  endpointKind : String
  isReachable : Bool
  containersTotal : Nat
  running : Nat
  stopped : Nat
  unhealthy : Nat
  restartLoops : Nat
  lastSeenAt : Option Int

structure DockerState where
  circuits : Dict String Breaker
  tried : List (String × String)

/-- What each attempt at an operation returns. -/
abbrev Attempts (α : Type) : Type := Nat → Option α

structure DockerPoll where
  instant : String → Int
  ping : String → Attempts Bool
  rows : String → Attempts (List (Option ContainerRow))

section Circuits

variable (settings : DockerSettings)

def circuitOf (hostId : String) (state : DockerState) : Breaker :=
  (state.circuits.get? hostId).getD .closed

def isCircuitOpen (now : Int) (hostId : String) (state : DockerState) : Bool :=
  (state.circuits.get? hostId).any (fun breaker => breaker.isOpen now)

def setCircuit (hostId : String) (breaker : Breaker) (state : DockerState) : DockerState :=
  ⟨state.circuits.set hostId breaker, state.tried⟩

def recordFailure (now : Int) (hostId : String) (state : DockerState) : DockerState :=
  setCircuit hostId ((circuitOf hostId state).fail settings.circuit now) state

def recordSuccess (hostId : String) (state : DockerState) : DockerState :=
  setCircuit hostId .closed state

def recordTry (hostId endpoint : String) (state : DockerState) : DockerState :=
  ⟨state.circuits, state.tried ++ [(hostId, endpoint)]⟩

/-- The result of the first attempt that does not raise. -/
def firstResult {α : Type} (attempts : Attempts α) : Option α :=
  (List.range ((max 0 settings.retryCount).toNat + 1)).findSome? attempts

def withRetries {α : Type} (now : Int) (hostId endpoint : String) (attempts : Attempts α) :
    Raising DockerState Unit α := do
  write (recordTry hostId endpoint)
  match firstResult settings attempts with
  | some value => pure value
  | none => do
      write (recordFailure settings now hostId)
      raise ()

/-! ### Listing the hosts -/

def rowState (row : ContainerRow) : String := row.state.toLower
def rowStatus (row : ContainerRow) : String := row.status.toLower

/-- A row that is no dictionary counts among all, and nowhere else. -/
def reachableHost (now : Int) (host : DockerHost) (rows : List (Option ContainerRow)) :
    HostSummary :=
  let containers := rows.filterMap id
  let running := containers.countP (fun row => rowState row = "running")
  ⟨host.hostId, host.name, host.endpointKind, true, rows.length, running, rows.length - running,
    containers.countP (fun row => contains "unhealthy" (rowStatus row)),
    containers.countP (fun row =>
      rowState row = "restarting" || contains "restarting" (rowStatus row)),
    some now⟩

def unreachableHost (host : DockerHost) : HostSummary :=
  ⟨host.hostId, host.name, host.endpointKind, false, 0, 0, 0, 0, 0, none⟩

/-- The end of the body of the `try`, once the ping went well. -/
def summarizeHost (poll : DockerPoll) (host : DockerHost) : Raising DockerState Unit HostSummary := do
  let rows ← withRetries settings (poll.instant host.hostId) host.hostId "list_containers_light"
    (poll.rows host.hostId)
  write (recordSuccess host.hostId)
  pure (reachableHost (poll.instant host.hostId) host rows)

def probeHost (poll : DockerPoll) (host : DockerHost) : Raising DockerState Unit HostSummary := do
  let refused ← read (isCircuitOpen (poll.instant host.hostId) host.hostId)
  check (!refused) ()
  let pingOk ← withRetries settings (poll.instant host.hostId) host.hostId "ping"
    (poll.ping host.hostId)
  check pingOk ()
  summarizeHost settings poll host

def pollHost (poll : DockerPoll) (host : DockerHost) : Raising DockerState Unit HostSummary :=
  attempt (probeHost settings poll host) (fun _ => do
    write (recordFailure settings (poll.instant host.hostId) host.hostId)
    pure (unreachableHost host))

def listHostsFrom (poll : DockerPoll) : List DockerHost → Raising DockerState Unit (List HostSummary)
  | [] => pure []
  | host :: rest => do
      let summary ← pollHost settings poll host
      let others ← listHostsFrom poll rest
      pure (summary :: others)

def listHosts (hosts : DockerHosts) (poll : DockerPoll) : Raising DockerState Unit (List HostSummary) :=
  listHostsFrom settings poll hosts.hosts

/-- The state after polls numbered from one. -/
def polledTimes (hosts : DockerHosts) (polls : Nat → DockerPoll) (start : DockerState) :
    Nat → DockerState
  | 0 => start
  | count + 1 => (listHosts settings hosts (polls (count + 1)) (polledTimes hosts polls start count)).2

end Circuits

/-! ### What a poll does to a host -/

section Polls

variable {settings : DockerSettings} {poll : DockerPoll} {host : DockerHost} {state : DockerState}

/-- What a poll that is let through makes of a circuit: an operation that failed counts twice. -/
def probed (settings : DockerSettings) (poll : DockerPoll) (hostId : String) (breaker : Breaker) :
    Breaker :=
  let failed := breaker.fail settings.circuit (poll.instant hostId)
  match firstResult settings (poll.ping hostId) with
  | none => failed.fail settings.circuit (poll.instant hostId)
  | some false => failed
  | some true =>
      match firstResult settings (poll.rows hostId) with
      | none => failed.fail settings.circuit (poll.instant hostId)
      | some _ => .closed

/-- The operations tried at a host. -/
def triedAt (hostId : String) (state : DockerState) : List String :=
  (state.tried.filter (fun entry => entry.1 = hostId)).map Prod.snd

theorem circuitOf_setCircuit (hostId : String) (breaker : Breaker) (state : DockerState) :
    circuitOf hostId (setCircuit hostId breaker state) = breaker := by
  unfold circuitOf setCircuit
  rw [Dict.get?_set, if_pos rfl]
  rfl

theorem setCircuit_twice (hostId : String) (first second : Breaker) (state : DockerState) :
    setCircuit hostId second (setCircuit hostId first state) = setCircuit hostId second state := by
  unfold setCircuit
  rw [Dict.set_set]

theorem withRetries_run {α : Type} (now : Int) (hostId endpoint : String) (attempts : Attempts α) :
    withRetries settings now hostId endpoint attempts state =
      match firstResult settings attempts with
      | some value => (.ok value, recordTry hostId endpoint state)
      | none => (.error (), recordFailure settings now hostId (recordTry hostId endpoint state)) := by
  unfold withRetries
  rw [write_bind_run]
  cases firstResult settings attempts with
  | some value => rfl
  | none => rfl

/-- A poll that finds the circuit open counts as a failure, and tries nothing. -/
theorem pollHost_refused
    (refused : isCircuitOpen (poll.instant host.hostId) host.hostId state = true) :
    pollHost settings poll host state =
      (.ok (unreachableHost host), setCircuit host.hostId
        ((circuitOf host.hostId state).fail settings.circuit (poll.instant host.hostId)) state) := by
  have raised : probeHost settings poll host state = (.error (), state) := by
    unfold probeHost
    rw [bind_run_ok (read_run _ _), refused]
    rfl
  unfold pollHost
  rw [attempt_run_error raised]
  rfl

theorem attempt_probe_raised {tried : DockerState}
    (raised : probeHost settings poll host state = (.error (), tried)) :
    pollHost settings poll host state =
      (.ok (unreachableHost host),
        recordFailure settings (poll.instant host.hostId) host.hostId tried) := by
  unfold pollHost
  rw [attempt_run_error raised]
  rfl

theorem recordFailure_twice (now : Int) (hostId : String) :
    recordFailure settings now hostId (recordFailure settings now hostId state) =
      setCircuit hostId (((circuitOf hostId state).fail settings.circuit now).fail
        settings.circuit now) state := by
  unfold recordFailure
  rw [circuitOf_setCircuit, setCircuit_twice]

theorem summarizeHost_run :
    summarizeHost settings poll host state =
      match firstResult settings (poll.rows host.hostId) with
      | none => (.error (), recordFailure settings (poll.instant host.hostId) host.hostId
          (recordTry host.hostId "list_containers_light" state))
      | some rows => (.ok (reachableHost (poll.instant host.hostId) host rows),
          setCircuit host.hostId .closed
            (recordTry host.hostId "list_containers_light" state)) := by
  unfold summarizeHost
  cases listed : firstResult settings (poll.rows host.hostId) with
  | none =>
      apply bind_run_error
      rw [withRetries_run, listed]
  | some rows =>
      have answered : withRetries settings (poll.instant host.hostId) host.hostId
          "list_containers_light" (poll.rows host.hostId) state =
          (.ok rows, recordTry host.hostId "list_containers_light" state) := by
        rw [withRetries_run, listed]
      rw [bind_run_ok answered]
      rfl

/-- What a poll that finds the circuit closed answers and does. -/
theorem pollHost_probes
    (closed : isCircuitOpen (poll.instant host.hostId) host.hostId state = false) :
    ∃ summary tried, (pollHost settings poll host state) = (.ok summary,
        setCircuit host.hostId (probed settings poll host.hostId (circuitOf host.hostId state))
          tried) ∧
      tried.circuits = state.circuits ∧
        (tried = recordTry host.hostId "ping" state ∨
          tried = recordTry host.hostId "list_containers_light"
            (recordTry host.hostId "ping" state)) := by
  have asked : probeHost settings poll host state =
      (withRetries settings (poll.instant host.hostId) host.hostId "ping"
        (poll.ping host.hostId) >>= fun pingOk =>
          check pingOk () >>= fun _ => summarizeHost settings poll host) state := by
    unfold probeHost
    rw [bind_run_ok (read_run _ _), closed]
    rfl
  unfold probed
  cases pinged : firstResult settings (poll.ping host.hostId) with
  | none =>
      have raised : probeHost settings poll host state = (.error (),
          recordFailure settings (poll.instant host.hostId) host.hostId
            (recordTry host.hostId "ping" state)) := by
        rw [asked]
        apply bind_run_error
        rw [withRetries_run, pinged]
      refine ⟨unreachableHost host, recordTry host.hostId "ping" state, ?_, rfl, Or.inl rfl⟩
      rw [attempt_probe_raised raised, recordFailure_twice]
      rfl
  | some pingOk =>
      have answered : withRetries settings (poll.instant host.hostId) host.hostId "ping"
          (poll.ping host.hostId) state = (.ok pingOk, recordTry host.hostId "ping" state) := by
        rw [withRetries_run, pinged]
      cases pingOk with
      | false =>
          have raised : probeHost settings poll host state =
              (.error (), recordTry host.hostId "ping" state) := by
            rw [asked, bind_run_ok answered]
            rfl
          exact ⟨unreachableHost host, recordTry host.hostId "ping" state,
            attempt_probe_raised raised, rfl, Or.inl rfl⟩
      | true =>
          have summarized : probeHost settings poll host state =
              summarizeHost settings poll host (recordTry host.hostId "ping" state) := by
            rw [asked, bind_run_ok answered]
            rfl
          cases listed : firstResult settings (poll.rows host.hostId) with
          | none =>
              have raised := summarized
              rw [summarizeHost_run, listed] at raised
              refine ⟨unreachableHost host, recordTry host.hostId "list_containers_light"
                (recordTry host.hostId "ping" state), ?_, rfl, Or.inr rfl⟩
              rw [attempt_probe_raised raised, recordFailure_twice]
              rfl
          | some rows =>
              have summary := summarized
              rw [summarizeHost_run, listed] at summary
              refine ⟨reachableHost (poll.instant host.hostId) host rows,
                recordTry host.hostId "list_containers_light"
                  (recordTry host.hostId "ping" state), ?_, rfl, Or.inr rfl⟩
              unfold pollHost
              rw [attempt_run_ok summary]

/-! ### What listing the hosts does to one of them -/

theorem triedAt_recordTry_self (hostId endpoint : String) :
    triedAt hostId (recordTry hostId endpoint state) = triedAt hostId state ++ [endpoint] := by
  simp [triedAt, recordTry]

theorem triedAt_recordTry_other {hostId other : String} (different : other ≠ hostId)
    (endpoint : String) : triedAt hostId (recordTry other endpoint state) = triedAt hostId state := by
  simp [triedAt, recordTry, different]

/-- A poll of another host moves neither the circuit of this one nor what was tried there. -/
theorem pollHost_other {hostId : String} (different : host.hostId ≠ hostId) :
    (pollHost settings poll host state).2.circuits.get? hostId = state.circuits.get? hostId ∧
      triedAt hostId (pollHost settings poll host state).2 = triedAt hostId state := by
  have apart (breaker : Breaker) (other : DockerState) :
      (setCircuit host.hostId breaker other).circuits.get? hostId = other.circuits.get? hostId := by
    unfold setCircuit
    rw [Dict.get?_set, if_neg (Ne.symm different)]
  cases refused : isCircuitOpen (poll.instant host.hostId) host.hostId state with
  | true =>
      rw [pollHost_refused refused]
      exact ⟨apart _ _, rfl⟩
  | false =>
      rcases @pollHost_probes settings poll host state refused with ⟨summary, tried, ran, same, which⟩
      rw [ran]
      refine ⟨(apart _ _).trans (by rw [same]), ?_⟩
      have kept : triedAt hostId tried = triedAt hostId state := by
        rcases which with ping | both
        · rw [ping, triedAt_recordTry_other different]
        · rw [both, triedAt_recordTry_other different, triedAt_recordTry_other different]
      exact kept

/-- What one poll does to the circuit of its host, and whether it tries anything there. -/
structure Polled (settings : DockerSettings) (poll : DockerPoll) (hostId : String)
    (before after : DockerState) : Prop where
  circuit : after.circuits.get? hostId =
    some (if isCircuitOpen (poll.instant hostId) hostId before then
      (circuitOf hostId before).fail settings.circuit (poll.instant hostId)
    else probed settings poll hostId (circuitOf hostId before))
  untried : triedAt hostId after = triedAt hostId before ↔
    isCircuitOpen (poll.instant hostId) hostId before = true

theorem pollHost_own : Polled settings poll host.hostId state (pollHost settings poll host state).2 := by
  have here (breaker : Breaker) (other : DockerState) :
      (setCircuit host.hostId breaker other).circuits.get? host.hostId = some breaker := by
    unfold setCircuit
    rw [Dict.get?_set, if_pos rfl]
  cases refused : isCircuitOpen (poll.instant host.hostId) host.hostId state with
  | true =>
      rw [pollHost_refused refused]
      constructor
      · rw [here, refused]
        rfl
      · exact iff_of_true rfl refused
  | false =>
      rcases @pollHost_probes settings poll host state refused with ⟨summary, tried, ran, same, which⟩
      rw [ran]
      constructor
      · rw [here, refused]
        rfl
      · have more : triedAt host.hostId tried ≠ triedAt host.hostId state := by
          intro equal
          have longer := congrArg List.length equal
          rcases which with ping | both
          · simp [ping, triedAt_recordTry_self] at longer
          · simp [both, triedAt_recordTry_self] at longer
        apply iff_of_false more
        rw [refused]
        exact Bool.false_ne_true

theorem listHostsFrom_cons (rest : List DockerHost) :
    (listHostsFrom settings poll (host :: rest) state).2 =
      (listHostsFrom settings poll rest (pollHost settings poll host state).2).2 := by
  have polled : ∃ summary, pollHost settings poll host state =
      (.ok summary, (pollHost settings poll host state).2) := by
    cases refused : isCircuitOpen (poll.instant host.hostId) host.hostId state with
    | true =>
        rw [pollHost_refused refused]
        exact ⟨_, rfl⟩
    | false =>
        rcases @pollHost_probes settings poll host state refused with ⟨summary, tried, ran, _⟩
        rw [ran]
        exact ⟨_, rfl⟩
  rcases polled with ⟨summary, ran⟩
  have first : listHostsFrom settings poll (host :: rest) state =
      (listHostsFrom settings poll rest >>= fun others => pure (summary :: others))
        (pollHost settings poll host state).2 := bind_run_ok ran
  rw [first]
  cases listed : listHostsFrom settings poll rest (pollHost settings poll host state).2 with
  | mk answer after =>
      cases answer with
      | ok others => rw [bind_run_ok listed, pure_run]
      | error error => rw [bind_run_error listed]

theorem listHostsFrom_other {hostId : String} (hosts : List DockerHost)
    (absent : hostId ∉ hosts.map DockerHost.hostId) :
    (listHostsFrom settings poll hosts state).2.circuits.get? hostId =
        state.circuits.get? hostId ∧
      triedAt hostId (listHostsFrom settings poll hosts state).2 = triedAt hostId state := by
  induction hosts generalizing state with
  | nil => exact ⟨rfl, rfl⟩
  | cons first rest ih =>
      rw [List.map_cons, List.mem_cons, not_or] at absent
      rw [listHostsFrom_cons, (ih absent.2).1, (ih absent.2).2]
      exact pollHost_other (Ne.symm absent.1)

theorem listHostsFrom_own (hosts : List DockerHost)
    (distinct : (hosts.map DockerHost.hostId).Nodup) (member : host ∈ hosts) :
    Polled settings poll host.hostId state (listHostsFrom settings poll hosts state).2 := by
  induction hosts generalizing state with
  | nil => cases member
  | cons first rest ih =>
      rw [List.map_cons, List.nodup_cons] at distinct
      rw [listHostsFrom_cons]
      rcases List.mem_cons.mp member with same | later
      · subst same
        rcases @listHostsFrom_other settings poll (pollHost settings poll host state).2
          host.hostId rest distinct.1 with ⟨circuit, tried⟩
        have own : Polled settings poll host.hostId state (pollHost settings poll host state).2 :=
          pollHost_own
        constructor
        · rw [circuit]
          exact own.circuit
        · rw [tried]
          exact own.untried
      · have different : first.hostId ≠ host.hostId := by
          intro same
          exact distinct.1 (same ▸ List.mem_map_of_mem later)
        rcases @pollHost_other settings poll first state host.hostId different with
          ⟨circuit, tried⟩
        have own := @ih (pollHost settings poll first state).2 distinct.2 later
        constructor
        · rw [own.circuit]
          unfold isCircuitOpen circuitOf
          rw [circuit]
        · rw [← tried, own.untried]
          unfold isCircuitOpen
          rw [circuit]

/-- A host whose circuit has just been opened is tried at none of the polls that follow exactly
when each of them comes while the last full round of refusals holds the circuit open. -/
theorem host_given_up_iff (settings : DockerSettings) (hosts : DockerHosts)
    (polls : Nat → DockerPoll) {start : DockerState} {host : DockerHost}
    (configured : host ∈ hosts.hosts)
    (opened : start.circuits.get? host.hostId =
      some ⟨0, (polls 0).instant host.hostId + settings.circuit.openFor⟩) (count : Nat) :
    (∀ earlier < count,
        triedAt host.hostId (polledTimes settings hosts polls start (earlier + 1)) =
          triedAt host.hostId (polledTimes settings hosts polls start earlier)) ↔
      ∀ earlier < count,
        (polls (earlier + 1)).instant host.hostId <
          (polls (settings.circuit.limit * (earlier / settings.circuit.limit))).instant
            host.hostId + settings.circuit.openFor := by
  have own (number : Nat) : Polled settings (polls (number + 1)) host.hostId
      (polledTimes settings hosts polls start number)
      (polledTimes settings hosts polls start (number + 1)) :=
    listHostsFrom_own hosts.hosts hosts.distinct configured
  have circuit (number : Nat) :
      (polledTimes settings hosts polls start number).circuits.get? host.hostId =
        some (calledTimes settings.circuit (fun called => probed settings (polls called) host.hostId)
          (fun called => (polls called).instant host.hostId) number) := by
    induction number with
    | zero => exact opened
    | succ number ih =>
        rw [(own number).circuit]
        unfold isCircuitOpen circuitOf
        rw [ih]
        rfl
  have refused (number : Nat) :
      triedAt host.hostId (polledTimes settings hosts polls start (number + 1)) =
          triedAt host.hostId (polledTimes settings hosts polls start number) ↔
        (calledTimes settings.circuit (fun called => probed settings (polls called) host.hostId)
          (fun called => (polls called).instant host.hostId) number).isOpen
            ((polls (number + 1)).instant host.hostId) = true := by
    rw [(own number).untried]
    unfold isCircuitOpen
    rw [circuit]
    rfl
  rw [← refused_throughout_iff settings.circuit
    (fun called => probed settings (polls called) host.hostId)
    (fun called => (polls called).instant host.hostId) count]
  exact forall_congr' (fun number => imp_congr_right (fun _ => refused number))

end Polls

/-! ### A sample -/

def sampleDockerHosts : DockerHosts := ⟨[⟨"local", "Local", "unix"⟩], by decide⟩

/-- Every ten seconds, of a host that answers. -/
def samplePolls (number : Nat) : DockerPoll :=
  ⟨fun _ => 10000 * number, fun _ _ => some true, fun _ _ => some []⟩

def openedStart : DockerState := ⟨Dict.empty.set "local" ⟨0, 60000⟩, []⟩

/-- Five failures, a minute: a host that answers is never asked. -/
theorem answering_host_is_given_up :
    ¬ ∃ earlier, earlier < 1000 ∧
      triedAt "local" (polledTimes ⟨2, ⟨5, 60000⟩⟩ sampleDockerHosts samplePolls openedStart
          (earlier + 1)) ≠
        triedAt "local" (polledTimes ⟨2, ⟨5, 60000⟩⟩ sampleDockerHosts samplePolls openedStart
          earlier) := by
  intro asked
  rcases asked with ⟨earlier, soon, tried⟩
  apply tried
  apply (host_given_up_iff ⟨2, ⟨5, 60000⟩⟩ sampleDockerHosts samplePolls
    (List.mem_singleton.mpr rfl) rfl 1000).mpr
  · intro other _
    have limit : Rule.limit ⟨5, 60000⟩ = 5 := rfl
    simp only [samplePolls, limit]
    omega
  · exact soon

end VpnSuite.Telemetry
