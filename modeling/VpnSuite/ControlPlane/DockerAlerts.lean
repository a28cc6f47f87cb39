/-
The docker alerts of the control plane (`services/docker_alert_rule_engine.py`).

`evaluate_once` turns what the reachable hosts report into active rules, adds a rule of the
host "local" under disk pressure, and brings the open alerts of these hosts in line: the pass
of `OpenRecords`, with fingerprints for keys and the host ids of the call for its scope.

A call that raises writes nothing.  Times are seconds, percentages are rationals, and the
digest is a parameter.  Of an alert, the note and the server are never read and left out.
-/

import VpnSuite.Foundations.OpenRecords
import VpnSuite.Foundations.PythonText
import VpnSuite.Foundations.StepRuns
import Mathlib.Algebra.Order.Ring.Rat
import Mathlib.Logic.Equiv.Basic

set_option autoImplicit false

namespace VpnSuite.ControlPlane

open Foundations
open Foundations.PythonText

/-! ### Rules and alerts -/

inductive DockerRule where
  | containerUnhealthy
  | containerRestartLoop
  | containerHighCpuCritical
  | containerHighCpuWarning
  | containerHighMemoryCritical
  | containerHighMemoryWarning
  | hostDiskPressure
  deriving DecidableEq, Repr

def DockerRule.text : DockerRule → String
  | .containerUnhealthy => "DockerContainerUnhealthy"
  | .containerRestartLoop => "DockerContainerRestartLoop"
  | .containerHighCpuCritical => "DockerContainerHighCPUCritical"
  | .containerHighCpuWarning => "DockerContainerHighCPUWarning"
  | .containerHighMemoryCritical => "DockerContainerHighMemoryCritical"
  | .containerHighMemoryWarning => "DockerContainerHighMemoryWarning"
  | .hostDiskPressure => "DockerHostDiskPressure"

inductive AlertSeverity where
  | critical
  | warning
  deriving DecidableEq, Repr

inductive ContainerHealth where
  | healthy
  | unhealthy
  | starting
  | none
  deriving DecidableEq, Repr

inductive AlertContext where
  | health (healthStatus : ContainerHealth) (state : String)
  | restarts (restartCount : Nat) (uptimeSeconds : Option Nat)
  | cpu (cpuPct : Option Rat)
  | memory (memPct : Option Rat)
  | disk (usedPct : Rat) (freeBytes : Nat)
  deriving DecidableEq

/-- What an alert is about. -/
structure AlertKey where
  rule : DockerRule
  hostId : String
  containerId : Option String
  deriving DecidableEq, Repr

structure ActiveRule where
  key : AlertKey
  severity : AlertSeverity
  containerName : Option String
  context : AlertContext
  deriving DecidableEq

structure DockerAlert where
  fingerprint : String
  key : AlertKey
  severity : AlertSeverity
  containerName : Option String
  context : AlertContext
  firstSeenAt : Int
  lastSeenAt : Int
  resolvedAt : Option Int
  deriving DecidableEq

def DockerAlert.unresolved (alert : DockerAlert) : Bool := alert.resolvedAt.isNone

/-! ### What a call reads -/

structure ContainerSummary where
  containerId : String
  name : String
  state : String
  healthStatus : ContainerHealth
  restartCount : Nat
  isRestartLoop : Bool
  uptimeSeconds : Option Nat
  cpuPct : Option Rat
  memPct : Option Rat
  deriving DecidableEq

/-- A host of `list_hosts`, with what `list_containers` gives for it, `none` if it raises. -/
structure DockerHost where
  hostId : String
  isReachable : Bool
  listing : Option (List ContainerSummary)
  deriving DecidableEq

structure DiskUsage where
  total : Nat
  used : Nat
  free : Nat
  deriving DecidableEq

structure AlertSettings where
  highCpuWarningPct : Rat
  highCpuCriticalPct : Rat
  highMemWarningPct : Rat
  highMemCriticalPct : Rat
  diskPressurePct : Rat
  resolvedTtlSeconds : Int
  deriving DecidableEq

/-- The containers of a host have distinct ids.  An id of the Docker API is a hexadecimal number:
it is not empty and has no colon. -/
structure DockerHost.WellFormed (host : DockerHost) : Prop where
  distinct : ∀ containers, host.listing = some containers →
    (containers.map ContainerSummary.containerId).Nodup
  plain : ∀ containers, host.listing = some containers → ∀ container ∈ containers,
    container.containerId ≠ "" ∧ ':' ∉ container.containerId.toList

/-- All that one call reads apart from the table. -/
structure AlertInputs where
  settings : AlertSettings
  now : Int
  hosts : List DockerHost
  disk : DiskUsage
  distinctHosts : (hosts.map DockerHost.hostId).Nodup
  wellFormed : ∀ host ∈ hosts, host.WellFormed

/-! ### The rules of a call -/

def containerRule (hostId : String) (container : ContainerSummary) (rule : DockerRule)
    (severity : AlertSeverity) (context : AlertContext) : ActiveRule :=
  ⟨⟨rule, hostId, some container.containerId⟩, severity, some container.name, context⟩

/-- A critical rule, or else a warning, for one percentage of a container. -/
def levelRules (hostId : String) (container : ContainerSummary) (pct : Option Rat)
    (criticalPct warningPct : Rat) (critical warning : DockerRule) (context : AlertContext) :
    List ActiveRule :=
  if criticalPct ≤ pct.getD 0 then [containerRule hostId container critical .critical context]
  else if warningPct ≤ pct.getD 0 then [containerRule hostId container warning .warning context]
  else []

def containerRules (settings : AlertSettings) (hostId : String) (container : ContainerSummary) :
    List ActiveRule :=
  (if container.healthStatus = .unhealthy then
    [containerRule hostId container .containerUnhealthy .critical
      (.health container.healthStatus container.state)] else []) ++
  (if container.isRestartLoop then
    [containerRule hostId container .containerRestartLoop .critical
      (.restarts container.restartCount container.uptimeSeconds)] else []) ++
  levelRules hostId container container.cpuPct settings.highCpuCriticalPct
    settings.highCpuWarningPct .containerHighCpuCritical .containerHighCpuWarning
    (.cpu container.cpuPct) ++
  levelRules hostId container container.memPct settings.highMemCriticalPct
    settings.highMemWarningPct .containerHighMemoryCritical .containerHighMemoryWarning
    (.memory container.memPct)

/-- The loop over the hosts; it raises when the listing of a reachable host does. -/
def hostRules (settings : AlertSettings) : List DockerHost → Option (List ActiveRule)
  | [] => some []
  | host :: rest =>
      if host.isReachable then
        host.listing.bind (fun containers =>
          (hostRules settings rest).map (fun later =>
            containers.flatMap (containerRules settings host.hostId) ++ later))
      else hostRules settings rest

def DiskUsage.usedPct (disk : DiskUsage) : Rat :=
  if disk.total = 0 then 0 else (disk.used : Rat) / disk.total * 100

namespace AlertInputs

def diskExceeded (call : AlertInputs) : Bool :=
  decide (call.settings.diskPressurePct ≤ call.disk.usedPct)

def diskKey : AlertKey := ⟨.hostDiskPressure, "local", none⟩

def diskRules (call : AlertInputs) : List ActiveRule :=
  if call.diskExceeded then
    [⟨diskKey, .warning, none, .disk call.disk.usedPct call.disk.free⟩] else []

def activeRules (call : AlertInputs) : Option (List ActiveRule) :=
  (hostRules call.settings call.hosts).map (fun rules => rules ++ call.diskRules)

def reachableIds (call : AlertInputs) : List String :=
  (call.hosts.filter DockerHost.isReachable).map DockerHost.hostId

def hostIds (call : AlertInputs) : List String :=
  call.reachableIds ++ if call.diskExceeded then ["local"] else []

def examines (call : AlertInputs) (alert : DockerAlert) : Bool :=
  decide (alert.key.hostId ∈ call.hostIds)

end AlertInputs

/-! ### The call -/

section Evaluation

variable (sha256Hex : String → String)

def fingerprint (key : AlertKey) : String :=
  sha256Hex (key.rule.text ++ ":" ++ key.hostId ++ ":" ++ orDefault key.containerId "-")

def openedAlert (now : Int) (rule : ActiveRule) : DockerAlert :=
  ⟨fingerprint sha256Hex rule.key, rule.key, rule.severity, rule.containerName, rule.context,
    now, now, none⟩

/-- The host and the container of an alert are written once, its rule each time. -/
def refreshedAlert (now : Int) (rule : ActiveRule) (alert : DockerAlert) : DockerAlert :=
  { alert with
    lastSeenAt := now, context := rule.context, severity := rule.severity,
    key := ⟨rule.key.rule, alert.key.hostId, alert.key.containerId⟩,
    containerName := rule.containerName }

def resolvedAlert (now : Int) (alert : DockerAlert) : DockerAlert :=
  { alert with resolvedAt := some now, lastSeenAt := now }

def alertUpkeep (now : Int) : Upkeep String DockerAlert ActiveRule where
  key := DockerAlert.fingerprint
  isOpen := DockerAlert.unresolved
  wanted := fun rule => fingerprint sha256Hex rule.key
  create := openedAlert sha256Hex now
  refresh := refreshedAlert now
  close := resolvedAlert now

def cleanupResolved (settings : AlertSettings) (now : Int) (alerts : Records DockerAlert) :
    Records DockerAlert :=
  let threshold := now - max 60 settings.resolvedTtlSeconds
  alerts.retain (fun alert => alert.resolvedAt.all (fun resolvedAt => threshold ≤ resolvedAt))

/-- `none` is an exception.  The number returned is that of the active fingerprints. -/
def evaluateOnce (alerts : Records DockerAlert) (call : AlertInputs) :
    Option (Records DockerAlert × Nat) :=
  call.activeRules.map (fun rules =>
    if call.hostIds = [] then (cleanupResolved call.settings call.now alerts, 0)
    else
      let upkeep := alertUpkeep sha256Hex call.now
      (cleanupResolved call.settings call.now
        (upkeep.pass call.examines rules alerts),
        (rules.map upkeep.wanted).dedup.length))

/-- The table after a call; one that raises is rolled back. -/
def afterCall (alerts : Records DockerAlert) (call : AlertInputs) : Records DockerAlert :=
  ((evaluateOnce sha256Hex alerts call).map Prod.fst).getD alerts

end Evaluation

/-! ### Which rules are active -/

/-- The condition of each rule about a container. -/
def RuleHolds (settings : AlertSettings) (container : ContainerSummary) : DockerRule → Prop
  | .containerUnhealthy => container.healthStatus = .unhealthy
  | .containerRestartLoop => container.isRestartLoop = true
  | .containerHighCpuCritical => settings.highCpuCriticalPct ≤ container.cpuPct.getD 0
  | .containerHighCpuWarning => ¬ settings.highCpuCriticalPct ≤ container.cpuPct.getD 0 ∧
      settings.highCpuWarningPct ≤ container.cpuPct.getD 0
  | .containerHighMemoryCritical => settings.highMemCriticalPct ≤ container.memPct.getD 0
  | .containerHighMemoryWarning => ¬ settings.highMemCriticalPct ≤ container.memPct.getD 0 ∧
      settings.highMemWarningPct ≤ container.memPct.getD 0
  | .hostDiskPressure => False

/-- A rule holds of a container that a reachable one of the hosts lists. -/
def HostActive (settings : AlertSettings) (hosts : List DockerHost) (key : AlertKey) : Prop :=
  ∃ host ∈ hosts, host.isReachable = true ∧ ∃ containers, host.listing = some containers ∧
    ∃ container ∈ containers, ∃ rule, RuleHolds settings container rule ∧
      key = ⟨rule, host.hostId, some container.containerId⟩

namespace AlertInputs

def Reachable (call : AlertInputs) (hostId : String) : Prop :=
  ∃ host ∈ call.hosts, host.hostId = hostId ∧ host.isReachable = true

/-- The call lists the containers of every reachable host. -/
def Returns (call : AlertInputs) : Prop :=
  ∀ host ∈ call.hosts, host.isReachable = true → host.listing.isSome = true

/-- The rule of the key is active in the call. -/
def Active (call : AlertInputs) (key : AlertKey) : Prop :=
  HostActive call.settings call.hosts key ∨ key = diskKey ∧ call.diskExceeded = true

end AlertInputs

theorem mem_levelRules {hostId : String} {container : ContainerSummary} {pct : Option Rat}
    {criticalPct warningPct : Rat} {critical warning : DockerRule} {context : AlertContext}
    {key : AlertKey} :
    key ∈ (levelRules hostId container pct criticalPct warningPct critical warning context).map
        ActiveRule.key ↔
      (criticalPct ≤ pct.getD 0 ∧ key = ⟨critical, hostId, some container.containerId⟩) ∨
        ((¬ criticalPct ≤ pct.getD 0 ∧ warningPct ≤ pct.getD 0) ∧
          key = ⟨warning, hostId, some container.containerId⟩) := by
  unfold levelRules
  by_cases high : criticalPct ≤ pct.getD 0
  · rw [if_pos high]
    simp [containerRule, high]
  · by_cases raised : warningPct ≤ pct.getD 0
    · rw [if_neg high, if_pos raised]
      simp [containerRule, high, raised]
    · rw [if_neg high, if_neg raised]
      simp [high, raised]

theorem mem_containerRules {settings : AlertSettings} {hostId : String}
    {container : ContainerSummary} {key : AlertKey} :
    key ∈ (containerRules settings hostId container).map ActiveRule.key ↔
      ∃ rule, RuleHolds settings container rule ∧
        key = ⟨rule, hostId, some container.containerId⟩ := by
  simp only [containerRules, List.map_append, List.mem_append, mem_levelRules]
  constructor
  · rintro (((sick | looping) | cpu) | memory)
    · split at sick
      · rename_i unhealthy
        exact ⟨.containerUnhealthy, unhealthy, List.mem_singleton.mp sick⟩
      · cases sick
    · split at looping
      · rename_i restarts
        exact ⟨.containerRestartLoop, restarts, List.mem_singleton.mp looping⟩
      · cases looping
    · rcases cpu with ⟨high, rfl⟩ | ⟨raised, rfl⟩
      · exact ⟨.containerHighCpuCritical, high, rfl⟩
      · exact ⟨.containerHighCpuWarning, raised, rfl⟩
    · rcases memory with ⟨high, rfl⟩ | ⟨raised, rfl⟩
      · exact ⟨.containerHighMemoryCritical, high, rfl⟩
      · exact ⟨.containerHighMemoryWarning, raised, rfl⟩
  · rintro ⟨rule, holds, rfl⟩
    cases rule with
    | containerUnhealthy =>
        left; left; left
        have unhealthy : container.healthStatus = .unhealthy := holds
        rw [if_pos unhealthy]
        exact List.mem_singleton_self _
    | containerRestartLoop =>
        left; left; right
        have restarts : container.isRestartLoop = true := holds
        rw [if_pos restarts]
        exact List.mem_singleton_self _
    | containerHighCpuCritical => exact Or.inl (Or.inr (Or.inl ⟨holds, rfl⟩))
    | containerHighCpuWarning => exact Or.inl (Or.inr (Or.inr ⟨holds, rfl⟩))
    | containerHighMemoryCritical => exact Or.inr (Or.inl ⟨holds, rfl⟩)
    | containerHighMemoryWarning => exact Or.inr (Or.inr ⟨holds, rfl⟩)
    | hostDiskPressure => exact absurd holds id

theorem hostRules_isSome {settings : AlertSettings} {hosts : List DockerHost} :
    (hostRules settings hosts).isSome = true ↔
      ∀ host ∈ hosts, host.isReachable = true → host.listing.isSome = true := by
  induction hosts with
  | nil => simp [hostRules]
  | cons host rest ih =>
      rw [List.forall_mem_cons, ← ih, hostRules]
      cases reached : host.isReachable with
      | false => simp
      | true =>
          cases listed : host.listing with
          | none => simp
          | some containers => simp

theorem mem_hostRules {settings : AlertSettings} {hosts : List DockerHost}
    {rules : List ActiveRule} (returned : hostRules settings hosts = some rules) {key : AlertKey} :
    key ∈ rules.map ActiveRule.key ↔ HostActive settings hosts key := by
  unfold HostActive
  induction hosts generalizing rules with
  | nil =>
      obtain rfl := Option.some.inj returned
      simp
  | cons host rest ih =>
      rw [List.exists_mem_cons_iff]
      rw [hostRules] at returned
      split at returned
      · rename_i reached
        obtain ⟨containers, listed, later⟩ := Option.bind_eq_some_iff.mp returned
        obtain ⟨others, restRules, rfl⟩ := Option.map_eq_some_iff.mp later
        rw [List.map_append, List.mem_append, ih restRules, List.map_flatMap, List.mem_flatMap]
        refine or_congr_left ?_
        simp only [mem_containerRules, reached, true_and, listed, Option.some.injEq,
          exists_eq_left']
      · rename_i unreached
        rw [ih returned]
        exact (or_iff_right (fun here => unreached here.1)).symm

theorem hostId_of_hostRules {settings : AlertSettings} {hosts : List DockerHost}
    {rules : List ActiveRule} (returned : hostRules settings hosts = some rules) {key : AlertKey}
    (member : key ∈ rules.map ActiveRule.key) :
    key.hostId ∈ (hosts.filter DockerHost.isReachable).map DockerHost.hostId := by
  obtain ⟨host, inHosts, reached, _, _, _, _, _, _, rfl⟩ := (mem_hostRules returned).mp member
  exact List.mem_map_of_mem (List.mem_filter.mpr ⟨inHosts, reached⟩)

/-! ### No rule is active twice -/

def containerRuleOrder : List DockerRule :=
  [.containerUnhealthy, .containerRestartLoop, .containerHighCpuCritical, .containerHighCpuWarning,
    .containerHighMemoryCritical, .containerHighMemoryWarning]

theorem levelRules_sublist (hostId : String) (container : ContainerSummary) (pct : Option Rat)
    (criticalPct warningPct : Rat) (critical warning : DockerRule) (context : AlertContext) :
    List.Sublist ((levelRules hostId container pct criticalPct warningPct critical warning
      context).map (fun rule => rule.key.rule)) [critical, warning] := by
  unfold levelRules
  split
  · exact List.Sublist.cons_cons _ (List.nil_sublist _)
  · split
    · exact List.Sublist.cons _ (List.Sublist.refl _)
    · exact List.nil_sublist _

theorem containerRules_sublist (settings : AlertSettings) (hostId : String)
    (container : ContainerSummary) :
    List.Sublist ((containerRules settings hostId container).map (fun rule => rule.key.rule))
      containerRuleOrder := by
  have single : ∀ (active : Prop) [Decidable active] (rule : ActiveRule),
      List.Sublist ((if active then [rule] else []).map (fun rule => rule.key.rule))
        [rule.key.rule] := by
    intro active _ rule
    split
    · exact List.Sublist.refl _
    · exact List.nil_sublist _
  rw [containerRules, List.map_append, List.map_append, List.map_append]
  exact (((single _ _).append (single _ _)).append (levelRules_sublist ..)).append
    (levelRules_sublist ..)

theorem containerRules_nodup (settings : AlertSettings) (hostId : String)
    (container : ContainerSummary) :
    ((containerRules settings hostId container).map ActiveRule.key).Nodup := by
  apply List.Nodup.of_map AlertKey.rule
  rw [List.map_map]
  exact (containerRules_sublist settings hostId container).nodup (by decide)

theorem hostRules_nodup {settings : AlertSettings} {hosts : List DockerHost}
    (distinctHosts : (hosts.map DockerHost.hostId).Nodup)
    (wellFormed : ∀ host ∈ hosts, host.WellFormed) {rules : List ActiveRule}
    (returned : hostRules settings hosts = some rules) : (rules.map ActiveRule.key).Nodup := by
  induction hosts generalizing rules with
  | nil =>
      obtain rfl := Option.some.inj returned
      exact List.nodup_nil
  | cons host rest ih =>
      rw [List.map_cons, List.nodup_cons] at distinctHosts
      have laterFormed := fun other member => wellFormed other (List.mem_cons_of_mem host member)
      rw [hostRules] at returned
      split at returned
      · obtain ⟨containers, listed, later⟩ := Option.bind_eq_some_iff.mp returned
        obtain ⟨others, restRules, rfl⟩ := Option.map_eq_some_iff.mp later
        rw [List.map_append, List.map_flatMap, List.nodup_append]
        refine ⟨List.nodup_flatMap.mpr ⟨?_, ?_⟩, ih distinctHosts.2 laterFormed restRules, ?_⟩
        · intro container _
          exact containerRules_nodup settings host.hostId container
        · have distinct := (wellFormed host (List.mem_cons_self ..)).distinct containers listed
          refine (List.pairwise_map.mp distinct).imp ?_
          intro left right different key inLeft inRight
          obtain ⟨_, _, rfl⟩ := mem_containerRules.mp inLeft
          obtain ⟨_, _, same⟩ := mem_containerRules.mp inRight
          exact different (Option.some.inj (AlertKey.mk.inj same).2.2)
        · intro left inHost right inRest same
          obtain ⟨container, _, inContainer⟩ := List.mem_flatMap.mp inHost
          obtain ⟨_, _, rfl⟩ := mem_containerRules.mp inContainer
          have elsewhere := hostId_of_hostRules restRules inRest
          rw [← same] at elsewhere
          obtain ⟨other, inFiltered, atHost⟩ := List.mem_map.mp elsewhere
          exact distinctHosts.1
            (List.mem_map.mpr ⟨other, (List.mem_filter.mp inFiltered).1, atHost⟩)
      · exact ih distinctHosts.2 laterFormed returned

/-! ### Fingerprints -/

/-- The keys that rules give: the one of the disk, and those of containers. -/
inductive AlertKey.Plain : AlertKey → Prop where
  | disk : Plain AlertInputs.diskKey
  | container {rule : DockerRule} {hostId containerId : String} :
      rule ≠ .hostDiskPressure → containerId ≠ "" → ':' ∉ containerId.toList →
        Plain ⟨rule, hostId, some containerId⟩

theorem DockerRule.text_injective : Function.Injective DockerRule.text := by
  intro left right same
  cases left <;> cases right <;> first | rfl | exact absurd same (by decide)

theorem DockerRule.text_plain (rule : DockerRule) : ':' ∉ rule.text.toList := by
  cases rule <;> decide

theorem fingerprint_inj {sha256Hex : String → String}
    (collisionFree : Function.Injective sha256Hex) {left right : AlertKey} (plainLeft : left.Plain)
    (plainRight : right.Plain) (same : fingerprint sha256Hex left = fingerprint sha256Hex right) :
    left = right := by
  have chars := congrArg String.toList (collisionFree same)
  simp only [String.toList_append, List.append_assoc, String.reduceToList,
    List.singleton_append] at chars
  obtain ⟨rules, rests⟩ :=
    separator_inj left.rule.text_plain right.rule.text_plain chars
  have sameRule := DockerRule.text_injective (String.toList_injective rules)
  cases plainLeft with
  | disk =>
      cases plainRight with
      | disk => rfl
      | container other _ _ => exact absurd sameRule.symm other
  | container other nonempty free =>
      cases plainRight with
      | disk => exact absurd sameRule other
      | container _ nonemptyRight freeRight =>
          simp only [orDefault, if_neg nonempty, if_neg nonemptyRight] at rests
          obtain ⟨hosts, ids⟩ := last_separator_inj free freeRight rests
          have sameId := congrArg some (String.toList_injective ids)
          exact (AlertKey.mk.injEq ..).mpr ⟨sameRule, String.toList_injective hosts, sameId⟩

/-! ### The rules of a call that returns -/

namespace AlertInputs

variable {call : AlertInputs} {key : AlertKey}

theorem mem_reachableIds {hostId : String} :
    hostId ∈ call.reachableIds ↔ call.Reachable hostId := by
  unfold reachableIds Reachable
  simp only [List.mem_map, List.mem_filter]
  constructor
  · rintro ⟨host, ⟨inHosts, reached⟩, atId⟩
    exact ⟨host, inHosts, atId, reached⟩
  · rintro ⟨host, inHosts, atId, reached⟩
    exact ⟨host, ⟨inHosts, reached⟩, atId⟩

theorem mem_hostIds {hostId : String} :
    hostId ∈ call.hostIds ↔
      call.Reachable hostId ∨ call.diskExceeded = true ∧ hostId = "local" := by
  unfold hostIds
  rw [List.mem_append, mem_reachableIds]
  split
  · rename_i exceeded
    simp [exceeded]
  · rename_i within
    simp [within]

theorem Active.reachable (active : call.Active key) (aboutContainer : key.containerId ≠ none) :
    call.Reachable key.hostId := by
  rcases active with ⟨host, inHosts, reached, _, _, _, _, _, _, rfl⟩ | ⟨rfl, _⟩
  · exact ⟨host, inHosts, rfl, reached⟩
  · exact absurd rfl aboutContainer

theorem Active.examined (active : call.Active key) : key.hostId ∈ call.hostIds := by
  rcases active with ⟨host, inHosts, reached, _, _, _, _, _, _, rfl⟩ | ⟨rfl, exceeded⟩
  · exact mem_hostIds.mpr (Or.inl ⟨host, inHosts, rfl, reached⟩)
  · exact mem_hostIds.mpr (Or.inr ⟨exceeded, rfl⟩)

theorem Active.plain (active : call.Active key) : key.Plain := by
  rcases active with
    ⟨host, inHosts, _, containers, listed, container, member, rule, holds, rfl⟩ | ⟨rfl, _⟩
  · obtain ⟨nonempty, free⟩ := (call.wellFormed host inHosts).plain containers listed container member
    refine .container ?_ nonempty free
    rintro rfl
    exact holds
  · exact .disk

theorem Active.exceeded (active : call.Active key) (aboutDisk : key.rule = .hostDiskPressure) :
    call.diskExceeded = true := by
  rcases active with ⟨_, _, _, _, _, _, _, rule, holds, rfl⟩ | ⟨_, exceeded⟩
  · have about : rule = .hostDiskPressure := aboutDisk
    rw [about] at holds
    exact absurd holds id
  · exact exceeded

variable {rules : List ActiveRule}

theorem activeRules_isSome : call.activeRules.isSome = true ↔ call.Returns := by
  rw [activeRules, Option.isSome_map]
  exact hostRules_isSome

theorem mem_activeRules (returned : call.activeRules = some rules) :
    key ∈ rules.map ActiveRule.key ↔ call.Active key := by
  obtain ⟨ofHosts, listed, rfl⟩ := Option.map_eq_some_iff.mp returned
  rw [List.map_append, List.mem_append, mem_hostRules listed]
  refine or_congr_right ?_
  unfold diskRules
  split
  · rename_i exceeded
    simp [exceeded]
  · rename_i within
    simp [within]

theorem activeRules_nodup (returned : call.activeRules = some rules) :
    (rules.map ActiveRule.key).Nodup := by
  obtain ⟨ofHosts, listed, rfl⟩ := Option.map_eq_some_iff.mp returned
  rw [List.map_append, List.nodup_append]
  refine ⟨hostRules_nodup call.distinctHosts call.wellFormed listed, ?_, ?_⟩
  · unfold diskRules
    split
    · exact List.nodup_singleton _
    · exact List.nodup_nil
  · intro left inHosts right inDisk same
    obtain ⟨_, _, _, _, _, _, _, _, _, rfl⟩ := (mem_hostRules listed).mp inHosts
    unfold diskRules at inDisk
    split at inDisk
    · obtain rfl := List.mem_singleton.mp inDisk
      cases (AlertKey.mk.inj same).2.2
    · cases inDisk

end AlertInputs

/-! ### What one call does -/

variable {sha256Hex : String → String}

theorem alertUpkeep_lawful (now : Int) : (alertUpkeep sha256Hex now).Lawful where
  key_create := fun _ => rfl
  isOpen_create := fun _ => rfl
  key_refresh := fun _ _ => rfl
  isOpen_refresh := fun _ _ => rfl
  isOpen_close := fun _ => rfl

variable (sha256Hex) in
/-- No fingerprint is open twice, and an open alert has the fingerprint of its key. -/
structure AlertsKept (alerts : Records DockerAlert) : Prop where
  once : ∀ now, (alertUpkeep sha256Hex now).OpenOnce alerts
  keyed : ∀ id alert, alerts.get? id = some alert → alert.unresolved = true →
    alert.fingerprint = fingerprint sha256Hex alert.key ∧ alert.key.Plain

theorem alertsKept_empty : AlertsKept sha256Hex Records.empty where
  once := fun _ => Upkeep.openOnce_empty
  keyed := by
    intro id alert stored
    cases stored

theorem wanted_iff (collisionFree : Function.Injective sha256Hex) {call : AlertInputs}
    {rules : List ActiveRule} (returned : call.activeRules = some rules) {key : AlertKey}
    (plain : key.Plain) :
    fingerprint sha256Hex key ∈ rules.map (alertUpkeep sha256Hex call.now).wanted ↔
      call.Active key := by
  rw [← AlertInputs.mem_activeRules returned]
  constructor
  · intro member
    obtain ⟨rule, inRules, same⟩ := List.mem_map.mp member
    have listed := List.mem_map_of_mem (f := ActiveRule.key) inRules
    have active := (AlertInputs.mem_activeRules returned).mp listed
    rw [← fingerprint_inj collisionFree active.plain plain same]
    exact listed
  · intro member
    obtain ⟨rule, inRules, rfl⟩ := List.mem_map.mp member
    exact List.mem_map.mpr ⟨rule, inRules, rfl⟩

theorem wanted_nodup (collisionFree : Function.Injective sha256Hex) {call : AlertInputs}
    {rules : List ActiveRule} (returned : call.activeRules = some rules) :
    (rules.map (alertUpkeep sha256Hex call.now).wanted).Nodup := by
  have plain : ∀ key ∈ rules.map ActiveRule.key, key.Plain := fun key member =>
    ((AlertInputs.mem_activeRules returned).mp member).plain
  have composed : rules.map (alertUpkeep sha256Hex call.now).wanted =
      (rules.map ActiveRule.key).map (fingerprint sha256Hex) := by
    rw [List.map_map]
    rfl
  rw [composed]
  apply List.Nodup.map_on _ (AlertInputs.activeRules_nodup returned)
  intro left inLeft right inRight same
  exact fingerprint_inj collisionFree (plain left inLeft) (plain right inRight) same

theorem rules_eq_nil {call : AlertInputs} {rules : List ActiveRule}
    (returned : call.activeRules = some rules) (nowhere : call.hostIds = []) : rules = [] := by
  cases rules with
  | nil => rfl
  | cons rule rest =>
      have active : call.Active rule.key :=
        (AlertInputs.mem_activeRules returned).mp (List.mem_cons_self ..)
      have examined := active.examined
      rw [nowhere] at examined
      cases examined

/-- With no host to look at, the pass would have nothing to do. -/
theorem evaluateOnce_eq {alerts : Records DockerAlert} {call : AlertInputs}
    {rules : List ActiveRule} (returned : call.activeRules = some rules) :
    evaluateOnce sha256Hex alerts call =
      some (cleanupResolved call.settings call.now
        ((alertUpkeep sha256Hex call.now).pass call.examines rules alerts),
        (rules.map (alertUpkeep sha256Hex call.now).wanted).dedup.length) := by
  rw [evaluateOnce, returned, Option.map_some]
  split
  · rename_i nowhere
    have unexamined : ∀ alert, call.examines alert = false := by
      intro alert
      rw [AlertInputs.examines, nowhere]
      rfl
    rw [rules_eq_nil returned nowhere, Upkeep.pass_nothing unexamined]
    rfl
  · rfl

theorem cleanupResolved_unresolved {settings : AlertSettings} {now : Int}
    {alerts : Records DockerAlert} {id : Nat} {alert : DockerAlert}
    (isOpen : alert.unresolved = true) :
    (cleanupResolved settings now alerts).get? id = some alert ↔ alerts.get? id = some alert := by
  have unresolved : alert.resolvedAt = none := Option.isNone_iff_eq_none.mp isOpen
  rw [cleanupResolved, Records.get?_retain, unresolved]
  exact and_iff_left rfl

section OneCall

variable {alerts : Records DockerAlert} {call : AlertInputs} {rules : List ActiveRule}

theorem afterCall_eq (returned : call.activeRules = some rules) :
    afterCall sha256Hex alerts call = cleanupResolved call.settings call.now
      ((alertUpkeep sha256Hex call.now).pass call.examines rules alerts) := by
  rw [afterCall, evaluateOnce_eq returned]
  rfl

theorem afterCall_unresolved (returned : call.activeRules = some rules) {id : Nat}
    {alert : DockerAlert} (isOpen : alert.unresolved = true) :
    (afterCall sha256Hex alerts call).get? id = some alert ↔
      ((alertUpkeep sha256Hex call.now).pass call.examines rules alerts).get? id = some alert := by
  rw [afterCall_eq returned]
  exact cleanupResolved_unresolved isOpen

theorem AlertsKept.settled (kept : AlertsKept sha256Hex alerts)
    (collisionFree : Function.Injective sha256Hex) (returned : call.activeRules = some rules) :
    (alertUpkeep sha256Hex call.now).Settled call.examines rules alerts
      ((alertUpkeep sha256Hex call.now).pass call.examines rules alerts) :=
  Upkeep.pass_settled (alertUpkeep_lawful call.now) (kept.once call.now)
    (wanted_nodup collisionFree returned)

/-- Refreshing an alert leaves it about the same thing. -/
theorem refreshedAlert_key (kept : AlertsKept sha256Hex alerts)
    (collisionFree : Function.Injective sha256Hex) {id : Nat} {alert : DockerAlert}
    (stored : alerts.get? id = some alert) (isOpen : alert.unresolved = true) {rule : ActiveRule}
    (active : call.Active rule.key) (same : fingerprint sha256Hex rule.key = alert.fingerprint)
    (now : Int) : rule.key = alert.key ∧ (refreshedAlert now rule alert).key = alert.key := by
  obtain ⟨keyed, plain⟩ := kept.keyed id alert stored isOpen
  have sameKey := fingerprint_inj collisionFree active.plain plain (same.trans keyed)
  refine ⟨sameKey, ?_⟩
  rw [refreshedAlert, sameKey]

/-- An alert that is open after a call is about a rule of the call, or the call did not look at
it and left it as it was. -/
theorem AlertsKept.unresolved_after (kept : AlertsKept sha256Hex alerts)
    (collisionFree : Function.Injective sha256Hex) (returned : call.activeRules = some rules)
    {id : Nat} {alert : DockerAlert}
    (stored : (afterCall sha256Hex alerts call).get? id = some alert)
    (isOpen : alert.unresolved = true) :
    (alert.fingerprint = fingerprint sha256Hex alert.key ∧ alert.key.Plain) ∧
      (call.Active alert.key ∨
        alerts.get? id = some alert ∧ alert.key.hostId ∉ call.hostIds) := by
  have settled := kept.settled collisionFree returned
  have active : ∀ rule ∈ rules, call.Active rule.key := fun rule member =>
    (AlertInputs.mem_activeRules returned).mp (List.mem_map_of_mem member)
  rw [afterCall_unresolved returned isOpen] at stored
  cases before : alerts.get? id with
  | none =>
      obtain ⟨rule, member, rfl⟩ := settled.origin id alert before stored
      exact ⟨⟨rfl, (active rule member).plain⟩, Or.inl (active rule member)⟩
  | some old =>
      by_cases looked : old.unresolved = true ∧ call.examines old = true
      · obtain ⟨wasOpen, examined⟩ := looked
        by_cases wanted : old.fingerprint ∈ rules.map (alertUpkeep sha256Hex call.now).wanted
        · obtain ⟨rule, member, same⟩ := List.mem_map.mp wanted
          have refreshed := settled.refreshed id old before wasOpen examined rule member same
          obtain ⟨sameKey, unchanged⟩ := refreshedAlert_key kept collisionFree before wasOpen
            (active rule member) same call.now
          rw [refreshed] at stored
          obtain rfl := Option.some.inj stored
          obtain ⟨keyed, plain⟩ := kept.keyed id old before wasOpen
          have nowActive := active rule member
          rw [sameKey, ← unchanged] at nowActive
          refine ⟨⟨?_, nowActive.plain⟩, Or.inl nowActive⟩
          calc old.fingerprint = fingerprint sha256Hex old.key := keyed
            _ = fingerprint sha256Hex (refreshedAlert call.now rule old).key := by rw [unchanged]
        · have closed := settled.closed id old before wasOpen examined wanted
          rw [closed] at stored
          obtain rfl := Option.some.inj stored
          cases isOpen
      · have untouched := settled.kept id old before (fun wasOpen =>
          Bool.eq_false_iff.mpr (fun examined => looked ⟨wasOpen, examined⟩))
        rw [untouched] at stored
        obtain rfl := Option.some.inj stored
        refine ⟨kept.keyed id old before isOpen, Or.inr ⟨rfl, ?_⟩⟩
        intro examined
        exact looked ⟨isOpen, decide_eq_true examined⟩

theorem AlertsKept.step (kept : AlertsKept sha256Hex alerts)
    (collisionFree : Function.Injective sha256Hex) :
    AlertsKept sha256Hex (afterCall sha256Hex alerts call) := by
  cases returned : call.activeRules with
  | none =>
      rw [afterCall, evaluateOnce, returned]
      exact kept
  | some rules =>
      constructor
      · intro now
        have covered : ∀ rule ∈ rules, ∀ id alert, alerts.get? id = some alert →
            alert.unresolved = true → alert.fingerprint = fingerprint sha256Hex rule.key →
            call.examines alert = true := by
          intro rule member id alert stored isOpen same
          obtain ⟨keyed, plain⟩ := kept.keyed id alert stored isOpen
          have active : call.Active rule.key :=
            (AlertInputs.mem_activeRules returned).mp (List.mem_map_of_mem member)
          have sameKey := fingerprint_inj collisionFree plain active.plain (keyed.symm.trans same)
          rw [AlertInputs.examines, sameKey]
          exact decide_eq_true active.examined
        have once := Upkeep.pass_openOnce (alertUpkeep_lawful call.now) (kept.once call.now)
          (wanted_nodup collisionFree returned) covered
        rw [afterCall_eq returned]
        exact once.retain _
      · intro id alert stored isOpen
        exact (kept.unresolved_after collisionFree returned stored isOpen).1

/-- An active rule has an open alert after the call. -/
theorem AlertsKept.opened (kept : AlertsKept sha256Hex alerts)
    (collisionFree : Function.Injective sha256Hex) (returned : call.activeRules = some rules)
    {key : AlertKey} (active : call.Active key) :
    ∃ id alert, (afterCall sha256Hex alerts call).get? id = some alert ∧
      alert.unresolved = true ∧ alert.key = key := by
  have opened : (alertUpkeep sha256Hex call.now).OpenAt
      ((alertUpkeep sha256Hex call.now).pass call.examines rules alerts)
      (fingerprint sha256Hex key) :=
    (Upkeep.openAt_pass (alertUpkeep_lawful call.now) (kept.once call.now)
      (wanted_nodup collisionFree returned) _).mpr
        (Or.inl ((wanted_iff collisionFree returned active.plain).mpr active))
  obtain ⟨id, alert, inPass, isOpen, same⟩ := opened
  have stored := (afterCall_unresolved returned isOpen).mpr inPass
  obtain ⟨⟨keyed, plain⟩, _⟩ := kept.unresolved_after collisionFree returned stored isOpen
  have sameKey := fingerprint_inj collisionFree plain active.plain (keyed.symm.trans same)
  exact ⟨id, alert, stored, isOpen, sameKey⟩

/-- An open alert the call does not look at stays. -/
theorem AlertsKept.stays (kept : AlertsKept sha256Hex alerts)
    (collisionFree : Function.Injective sha256Hex) (returned : call.activeRules = some rules)
    {id : Nat} {alert : DockerAlert} (stored : alerts.get? id = some alert)
    (isOpen : alert.unresolved = true) (outside : alert.key.hostId ∉ call.hostIds) :
    (afterCall sha256Hex alerts call).get? id = some alert := by
  apply (afterCall_unresolved returned isOpen).mpr
  apply (kept.settled collisionFree returned).kept id alert stored
  intro _
  exact decide_eq_false outside

/-- An open alert whose rule is active stays open and keeps the time it was first seen. -/
theorem AlertsKept.continued (kept : AlertsKept sha256Hex alerts)
    (collisionFree : Function.Injective sha256Hex) (returned : call.activeRules = some rules)
    {id : Nat} {alert : DockerAlert} (stored : alerts.get? id = some alert)
    (isOpen : alert.unresolved = true) (active : call.Active alert.key) :
    ∃ later, (afterCall sha256Hex alerts call).get? id = some later ∧ later.unresolved = true ∧
      later.key = alert.key ∧ later.firstSeenAt = alert.firstSeenAt := by
  obtain ⟨keyed, plain⟩ := kept.keyed id alert stored isOpen
  have wanted := (wanted_iff collisionFree returned plain).mpr active
  obtain ⟨rule, member, same⟩ := List.mem_map.mp wanted
  have ruleActive : call.Active rule.key :=
    (AlertInputs.mem_activeRules returned).mp (List.mem_map_of_mem member)
  have sameFingerprint : fingerprint sha256Hex rule.key = alert.fingerprint := same.trans keyed.symm
  have refreshed := (kept.settled collisionFree returned).refreshed id alert stored isOpen
    (decide_eq_true active.examined) rule member sameFingerprint
  have stillOpen : (refreshedAlert call.now rule alert).unresolved = true := isOpen
  refine ⟨refreshedAlert call.now rule alert, ?_, stillOpen, ?_, rfl⟩
  · exact (afterCall_unresolved returned stillOpen).mpr refreshed
  · exact (refreshedAlert_key kept collisionFree stored isOpen ruleActive sameFingerprint
      call.now).2

end OneCall

/-! ### What the alerts promise -/

/-- At most one unresolved alert of a rule, a host and a container. -/
def OneUnresolved (alerts : Records DockerAlert) : Prop :=
  ∀ left right leftAlert rightAlert, alerts.get? left = some leftAlert →
    alerts.get? right = some rightAlert → leftAlert.unresolved = true →
    rightAlert.unresolved = true → leftAlert.key = rightAlert.key → left = right

/-- What a call makes of the alerts before it. -/
structure FollowsRules (before : Records DockerAlert) (call : AlertInputs)
    (after : Records DockerAlert) : Prop where
  active : ∀ id alert, after.get? id = some alert → alert.unresolved = true →
    call.Reachable alert.key.hostId → call.Active alert.key
  undisturbed : ∀ id alert, before.get? id = some alert → alert.unresolved = true →
    alert.key.containerId ≠ none → ¬ call.Reachable alert.key.hostId →
      after.get? id = some alert
  disk : (∃ id alert, after.get? id = some alert ∧ alert.unresolved = true ∧
    alert.key.rule = .hostDiskPressure) ↔ call.diskExceeded = true
  opened : ∀ key, call.Active key →
    ∃ id alert, after.get? id = some alert ∧ alert.unresolved = true ∧ alert.key = key
  continued : ∀ id alert, before.get? id = some alert → alert.unresolved = true →
    call.Active alert.key → ∃ later, after.get? id = some later ∧ later.unresolved = true ∧
      later.key = alert.key ∧ later.firstSeenAt = alert.firstSeenAt

variable (sha256Hex) in
/-- Each call that returns follows the rules. -/
def AlertLaw (alerts : Records DockerAlert) (call : AlertInputs) : Prop :=
  ∀ after count, evaluateOnce sha256Hex alerts call = some (after, count) →
    FollowsRules alerts call after

/-- The condition on a call that returns while no reachable host is called "local": under disk
pressure no container alert of a host "local" is open, and without it no disk alert is. -/
structure LocalApart (alerts : Records DockerAlert) (call : AlertInputs) : Prop where
  underPressure : call.diskExceeded = true → ∀ id alert, alerts.get? id = some alert →
    alert.unresolved = true → alert.key.hostId = "local" → alert.key.containerId = none
  without : call.diskExceeded = false → ∀ id alert, alerts.get? id = some alert →
    alert.unresolved = true → alert.key.rule ≠ .hostDiskPressure

def LocalSafe (alerts : Records DockerAlert) (call : AlertInputs) : Prop :=
  call.Returns → ¬ call.Reachable "local" → LocalApart alerts call

section Law

variable {alerts : Records DockerAlert} {call : AlertInputs} {rules : List ActiveRule}

theorem AlertKey.Plain.of_disk {key : AlertKey} (plain : key.Plain)
    (about : key.rule = .hostDiskPressure) : key = AlertInputs.diskKey := by
  cases plain with
  | disk => rfl
  | container other _ _ => exact absurd about other

theorem AlertsKept.localApart (kept : AlertsKept sha256Hex alerts)
    (collisionFree : Function.Injective sha256Hex) (returned : call.activeRules = some rules)
    (follows : FollowsRules alerts call (afterCall sha256Hex alerts call))
    (noLocal : ¬ call.Reachable "local") : LocalApart alerts call := by
  constructor
  · intro exceeded id alert stored isOpen atLocal
    by_contra aboutContainer
    have unreachable : ¬ call.Reachable alert.key.hostId := by rwa [atLocal]
    have after := follows.undisturbed id alert stored isOpen aboutContainer unreachable
    rcases (kept.unresolved_after collisionFree returned after isOpen).2 with
      active | ⟨_, outside⟩
    · exact unreachable (active.reachable aboutContainer)
    · exact outside (AlertInputs.mem_hostIds.mpr (Or.inr ⟨exceeded, atLocal⟩))
  · intro within id alert stored isOpen aboutDisk
    have plain := (kept.keyed id alert stored isOpen).2
    have outside : alert.key.hostId ∉ call.hostIds := by
      rw [plain.of_disk aboutDisk, AlertInputs.mem_hostIds, within]
      exact fun listed => noLocal (listed.resolve_right (fun pressed => nomatch pressed.1))
    have after := kept.stays collisionFree returned stored isOpen outside
    have exceeded := follows.disk.mp ⟨id, alert, after, isOpen, aboutDisk⟩
    rw [within] at exceeded
    cases exceeded

theorem AlertsKept.follows (kept : AlertsKept sha256Hex alerts)
    (collisionFree : Function.Injective sha256Hex) (returned : call.activeRules = some rules)
    (safe : ¬ call.Reachable "local" → LocalApart alerts call) :
    FollowsRules alerts call (afterCall sha256Hex alerts call) where
  active := by
    intro id alert after isOpen reachable
    rcases (kept.unresolved_after collisionFree returned after isOpen).2 with
      active | ⟨_, outside⟩
    · exact active
    · exact absurd (AlertInputs.mem_hostIds.mpr (Or.inl reachable)) outside
  undisturbed := by
    intro id alert stored isOpen aboutContainer unreachable
    apply kept.stays collisionFree returned stored isOpen
    intro listed
    rcases AlertInputs.mem_hostIds.mp listed with reachable | ⟨exceeded, atLocal⟩
    · exact unreachable reachable
    · have noLocal : ¬ call.Reachable "local" := by rwa [atLocal] at unreachable
      exact aboutContainer ((safe noLocal).underPressure exceeded id alert stored isOpen atLocal)
  disk := by
    constructor
    · rintro ⟨id, alert, after, isOpen, aboutDisk⟩
      rcases (kept.unresolved_after collisionFree returned after isOpen).2 with
        active | ⟨stored, outside⟩
      · exact active.exceeded aboutDisk
      · rw [((kept.keyed id alert stored isOpen).2).of_disk aboutDisk,
          AlertInputs.mem_hostIds, not_or] at outside
        by_contra within
        exact (safe outside.1).without (Bool.eq_false_iff.mpr within) id alert stored isOpen
          aboutDisk
    · intro exceeded
      have active : call.Active AlertInputs.diskKey := Or.inr ⟨rfl, exceeded⟩
      obtain ⟨id, alert, after, isOpen, atDisk⟩ := kept.opened collisionFree returned active
      exact ⟨id, alert, after, isOpen, congrArg AlertKey.rule atDisk⟩
  opened := fun _ active => kept.opened collisionFree returned active
  continued := fun _ _ stored isOpen active =>
    kept.continued collisionFree returned stored isOpen active

/-- One call follows the rules exactly when the alerts of "local" are apart. -/
theorem AlertsKept.law_iff (kept : AlertsKept sha256Hex alerts)
    (collisionFree : Function.Injective sha256Hex) :
    AlertLaw sha256Hex alerts call ↔ LocalSafe alerts call := by
  cases returned : call.activeRules with
  | none =>
      have raises : evaluateOnce sha256Hex alerts call = none := by rw [evaluateOnce, returned]; rfl
      have noListing : ¬ call.Returns := by
        rw [← AlertInputs.activeRules_isSome, returned]
        exact Bool.false_ne_true
      refine iff_of_true ?_ (fun returns => absurd returns noListing)
      intro after count result
      rw [raises] at result
      cases result
  | some rules =>
      have returns : call.Returns := AlertInputs.activeRules_isSome.mp (by rw [returned]; rfl)
      have result : evaluateOnce sha256Hex alerts call = some (_, _) := evaluateOnce_eq returned
      rw [← afterCall_eq returned] at result
      constructor
      · intro law _ noLocal
        exact kept.localApart collisionFree returned (law _ _ result) noLocal
      · intro safe after count given
        rw [result] at given
        obtain ⟨rfl, _⟩ := Prod.mk.inj (Option.some.inj given)
        exact kept.follows collisionFree returned (safe returns)

theorem AlertsKept.oneUnresolved (kept : AlertsKept sha256Hex alerts) : OneUnresolved alerts := by
  intro left right leftAlert rightAlert atLeft atRight openLeft openRight same
  apply kept.once 0 left right leftAlert rightAlert atLeft atRight openLeft openRight
  have keyedLeft := (kept.keyed left leftAlert atLeft openLeft).1
  have keyedRight := (kept.keyed right rightAlert atRight openRight).1
  exact keyedLeft.trans ((congrArg _ same).trans keyedRight.symm)

end Law

/-- Runs of calls follow the rules, with at most one open alert of each kind throughout, exactly
when the alerts of "local" are apart in each of the calls. -/
theorem alerts_follow_rules_iff_local_safe (sha256Hex : String → String)
    (collisionFree : Function.Injective sha256Hex) (calls : List AlertInputs) :
    EveryStep (afterCall sha256Hex) Records.empty calls (AlertLaw sha256Hex) ∧
        EveryState (afterCall sha256Hex) Records.empty calls OneUnresolved ↔
      EveryStep (afterCall sha256Hex) Records.empty calls LocalSafe := by
  have kept : EveryState (afterCall sha256Hex) Records.empty calls (AlertsKept sha256Hex) :=
    everyState_of_step (fun _ _ held => held.step collisionFree) alertsKept_empty
  constructor
  · rintro ⟨lawful, _⟩ earlier call later split
    exact ((kept earlier (call :: later) split).law_iff collisionFree).mp
      (lawful earlier call later split)
  · intro safe
    refine ⟨?_, kept.imp AlertsKept.oneUnresolved⟩
    intro earlier call later split
    exact ((kept earlier (call :: later) split).law_iff collisionFree).mpr
      (safe earlier call later split)

/-! ### Hosts called "local" and others -/

def sampleSettings : AlertSettings := ⟨85, 95, 90, 97, 85, 86400⟩

def sampleContainer (healthStatus : ContainerHealth) : ContainerSummary :=
  ⟨"3f4e1a2b9c0d", "api", "running", healthStatus, 0, false, some 60, some 1, some 2⟩

theorem sampleHost_wellFormed (hostId : String) (isReachable : Bool)
    (healthStatus : ContainerHealth) :
    ∀ host ∈ [(⟨hostId, isReachable, some [sampleContainer healthStatus]⟩ : DockerHost)],
      host.WellFormed := by
  intro host member
  obtain rfl := List.mem_singleton.mp member
  constructor
  · intro containers listed
    obtain rfl := Option.some.inj listed
    exact List.nodup_singleton _
  · intro containers listed container inContainers
    obtain rfl := Option.some.inj listed
    obtain rfl := List.mem_singleton.mp inContainers
    have plainId : "3f4e1a2b9c0d" ≠ "" ∧ ':' ∉ "3f4e1a2b9c0d".toList := by decide
    exact plainId

/-- A call that sees one host with one container. -/
def sampleCall (now : Int) (hostId : String) (isReachable : Bool) (healthStatus : ContainerHealth)
    (usedDisk : Nat) : AlertInputs where
  settings := sampleSettings
  now := now
  hosts := [⟨hostId, isReachable, some [sampleContainer healthStatus]⟩]
  disk := ⟨100, usedDisk, 100 - usedDisk⟩
  distinctHosts := List.nodup_singleton _
  wellFormed := sampleHost_wellFormed hostId isReachable healthStatus

/-- A digest without collisions that is SHA-256 on the texts of the two alerts below. -/
def sampleAlertDigest : String → String :=
  (Equiv.swap "DockerHostDiskPressure:local:-"
    "f241d63ec543a63b9d31d791619071d19bcf1a77e1db0ca0423eb15cbfc78780").trans
  (Equiv.swap "DockerContainerUnhealthy:local:3f4e1a2b9c0d"
    "210e859b4c6bec5f0cfa628b87b55faff7808533f9885892bc8b4ec9149cd32a")

theorem sampleAlertDigest_injective : Function.Injective sampleAlertDigest :=
  Equiv.injective _

/-- With a reachable host "local", alerts come and go with their rules. -/
theorem sample_alerts_follow_rules :
    let calls := [sampleCall 0 "local" true .unhealthy 90, sampleCall 15 "local" true .healthy 50]
    EveryStep (afterCall sampleAlertDigest) Records.empty calls (AlertLaw sampleAlertDigest) ∧
      EveryState (afterCall sampleAlertDigest) Records.empty calls OneUnresolved := by
  have reachable : ∀ now health used,
      (sampleCall now "local" true health used).Reachable "local" := fun now health used =>
    ⟨_, List.mem_singleton_self _, rfl, rfl⟩
  apply (alerts_follow_rules_iff_local_safe sampleAlertDigest sampleAlertDigest_injective _).mpr
  have safe : ∀ alerts now health used, LocalSafe alerts (sampleCall now "local" true health used) :=
    fun _ now health used _ noLocal => absurd (reachable now health used) noLocal
  exact everyStep_cons.mpr ⟨safe _ _ _ _, everyStep_cons.mpr ⟨safe _ _ _ _, everyStep_nil⟩⟩

/-- The disk fills up and is cleared, with a host of another name. -/
def diskCleared : List AlertInputs :=
  [sampleCall 0 "web-1" true .healthy 90, sampleCall 15 "web-1" true .healthy 50]

/-- The host "local" is lost while the disk fills up. -/
def localLost : List AlertInputs :=
  [sampleCall 0 "local" true .unhealthy 50, sampleCall 15 "local" false .unhealthy 90]

/-- What the second of two calls makes of the table follows the rules. -/
theorem second_follows {first second : AlertInputs}
    (lawful : EveryStep (afterCall sampleAlertDigest) Records.empty [first, second]
      (AlertLaw sampleAlertDigest))
    (returns : (second.activeRules).isSome = true) :
    FollowsRules (afterCall sampleAlertDigest Records.empty first) second
      (afterCall sampleAlertDigest (afterCall sampleAlertDigest Records.empty first) second) := by
  obtain ⟨rules, returned⟩ := Option.isSome_iff_exists.mp returns
  apply lawful [first] second [] rfl
  rw [afterCall_eq returned]
  exact evaluateOnce_eq returned

def diskAlert : DockerAlert :=
  ⟨"f241d63ec543a63b9d31d791619071d19bcf1a77e1db0ca0423eb15cbfc78780", AlertInputs.diskKey,
    .warning, none, .disk 90 10, 0, 0, none⟩

def unhealthyAlert : DockerAlert :=
  ⟨"210e859b4c6bec5f0cfa628b87b55faff7808533f9885892bc8b4ec9149cd32a",
    ⟨.containerUnhealthy, "local", some "3f4e1a2b9c0d"⟩, .critical, some "api",
    .health .unhealthy "running", 0, 0, none⟩

/-- The disk alert outlives the pressure, and the alert about the container of an unreachable
host is resolved. -/
theorem disk_alert_stays_and_unreachable_alert_resolved :
    ((diskCleared.foldl (afterCall sampleAlertDigest) Records.empty).get? 0 = some diskAlert ∧
      ¬ EveryStep (afterCall sampleAlertDigest) Records.empty diskCleared
        (AlertLaw sampleAlertDigest)) ∧
    (localLost.foldl (afterCall sampleAlertDigest) Records.empty).get? 0 =
        some (resolvedAlert 15 unhealthyAlert) ∧
      ¬ EveryStep (afterCall sampleAlertDigest) Records.empty localLost
        (AlertLaw sampleAlertDigest) := by
  have cleared : (diskCleared.foldl (afterCall sampleAlertDigest) Records.empty).get? 0 =
      some diskAlert := by decide +kernel
  have resolved : (localLost.foldl (afterCall sampleAlertDigest) Records.empty).get? 0 =
      some (resolvedAlert 15 unhealthyAlert) := by decide +kernel
  refine ⟨⟨cleared, ?_⟩, resolved, ?_⟩
  · intro lawful
    have follows := second_follows lawful (by decide +kernel)
    have exceeded := follows.disk.mp ⟨0, diskAlert, cleared, rfl, rfl⟩
    exact absurd exceeded (by decide +kernel)
  · intro lawful
    have follows := second_follows lawful (by decide +kernel)
    have opened : ([sampleCall 0 "local" true .unhealthy 50].foldl (afterCall sampleAlertDigest)
        Records.empty).get? 0 = some unhealthyAlert := by decide +kernel
    have unreachable : ¬ (sampleCall 15 "local" false .unhealthy 90).Reachable "local" := by
      rintro ⟨host, member, _, reached⟩
      obtain rfl := List.mem_singleton.mp member
      cases reached
    have kept := follows.undisturbed 0 unhealthyAlert opened rfl (fun none => nomatch none)
      unreachable
    have same := Option.some.inj (kept.symm.trans resolved)
    exact absurd (congrArg DockerAlert.resolvedAt same) (by decide)

end VpnSuite.ControlPlane
