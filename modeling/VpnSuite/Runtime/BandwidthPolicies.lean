/-
The bandwidth policies of a docker node (`enforce_bandwidth_policies` in
`services/node_runtime_docker.py`).

Each plan with a policy gets a class of the traffic shaper, numbered from ten in the order of the
plan ids, and each host address of a peer bound to such a plan gets two filters into that class.
Traffic without a filter goes to the class `1:999`.

Rates, ceilings and priorities are integers or missing.
-/

import VpnSuite.Foundations.OrderedDict
import VpnSuite.Runtime.DockerAddPeer
import Mathlib.Data.List.Sort
import Mathlib.Data.String.Basic

set_option autoImplicit false

namespace VpnSuite.Runtime

open Foundations
open Foundations.PythonText

/-! ### Policies and bindings -/

structure BandwidthPolicy where
  planId : Option String
  rateMbps : Option Int
  ceilMbps : Option Int
  priority : Option Int
  deriving DecidableEq, Repr

structure PeerBinding where
  planId : Option String
  allowedIps : Option String
  deriving DecidableEq, Repr

def BandwidthPolicy.plan (policy : BandwidthPolicy) : String := orDefault policy.planId ""

def PeerBinding.plan (binding : PeerBinding) : String := orDefault binding.planId ""

/-- The host addresses of a binding. -/
def PeerBinding.hosts (binding : PeerBinding) : List String :=
  extractIpv4HostCidrs (orDefault binding.allowedIps "")

/-- `_sanitize_mbit` of an integer. -/
def sanitizeMbit (value : Int) : Int := min (max value 1) 100000

/-- `value or default`. -/
def intOr (value : Option Int) (default : Int) : Int :=
  match value with
  | none => default
  | some number => if number = 0 then default else number

def BandwidthPolicy.rate (policy : BandwidthPolicy) : Int := sanitizeMbit (policy.rateMbps.getD 1)

def BandwidthPolicy.ceil (policy : BandwidthPolicy) : Int :=
  let ceil := sanitizeMbit (intOr policy.ceilMbps policy.rate)
  if ceil < policy.rate then policy.rate else ceil

def BandwidthPolicy.prio (policy : BandwidthPolicy) : Int :=
  min (max (intOr policy.priority 3) 0) 7

/-! ### Commands -/

section Commands

variable (iface : String)

def qdiscReplace : List String :=
  ["tc", "qdisc", "replace", "dev", iface, "root", "handle", "1:", "htb", "default", "999"]

def classReplace (classid : String) (rate ceil prio : Int) : List String :=
  ["tc", "class", "replace", "dev", iface, "parent", "1:", "classid", classid, "htb", "rate",
    toString rate ++ "mbit", "ceil", toString ceil ++ "mbit", "prio", toString prio]

def filterDel : List String :=
  ["tc", "filter", "del", "dev", iface, "parent", "1:", "pref", "100", "protocol", "ip"]

def filterAdd (direction cidr classid : String) : List String :=
  ["tc", "filter", "add", "dev", iface, "parent", "1:", "pref", "100", "protocol", "ip", "u32",
    "match", "ip", direction, cidr, "flowid", classid]

def defaultClass : String := "1:999"

def classidText (classMinor : Nat) : String := "1:" ++ toString classMinor

/-! ### Classes -/

structure ClassState where
  classMinor : Nat
  classByPlan : Dict String String
  commands : List (List String)

/-- The loop over the policies. -/
def assignClass (state : ClassState) (policy : BandwidthPolicy) : ClassState :=
  if policy.plan = "" then state
  else
    let classid := classidText state.classMinor
    { classMinor := state.classMinor + 1
      classByPlan := state.classByPlan.set policy.plan classid
      commands := state.commands ++
        [classReplace iface classid policy.rate policy.ceil policy.prio] }

def policyRows (policies : List BandwidthPolicy) : List BandwidthPolicy :=
  policies.insertionSort (fun left right => left.plan ≤ right.plan)

def assignClasses (policies : List BandwidthPolicy) : ClassState :=
  (policyRows policies).foldl (assignClass iface)
    { classMinor := 10
      classByPlan := Dict.empty
      commands := [qdiscReplace iface, classReplace iface defaultClass 100000 100000 7] }

/-! ### Filters -/

/-- The two filters of a host. -/
def hostFilters (cidr classid : String) : List (List String) :=
  [filterAdd iface "dst" cidr classid, filterAdd iface "src" cidr classid]

structure BindState where
  boundPeers : Nat
  skippedNoHostIp : Nat
  commands : List (List String)
  deriving DecidableEq, Repr

/-- The loop over the bindings. -/
def bindPeer (classByPlan : Dict String String) (state : BindState) (binding : PeerBinding) :
    BindState :=
  match classByPlan.get? binding.plan with
  | none => state
  | some classid =>
      if binding.hosts = [] then { state with skippedNoHostIp := state.skippedNoHostIp + 1 }
      else
        { state with
          boundPeers := state.boundPeers + 1
          commands := state.commands ++
            binding.hosts.flatMap (fun cidr => hostFilters iface cidr classid) }

/-- The commands and the counts. -/
structure BandwidthPlan where
  commands : List (List String)
  classByPlan : Dict String String
  boundPeers : Nat
  skippedNoHostIp : Nat

def bandwidthPlan (policies : List BandwidthPolicy) (bindings : List PeerBinding) : BandwidthPlan :=
  let classes := assignClasses iface policies
  let bound := bindings.foldl (bindPeer iface classes.classByPlan)
    { boundPeers := 0
      skippedNoHostIp := 0
      commands := classes.commands ++ [filterDel iface] }
  { commands := bound.commands
    classByPlan := classes.classByPlan
    boundPeers := bound.boundPeers
    skippedNoHostIp := bound.skippedNoHostIp }

end Commands

/-! ### `enforce_bandwidth_policies` -/

/-- What was done: the commands shown, or the number of those that ran. -/
inductive BandwidthOutcome where
  | dryRun (commands : List String)
  | executed (count : Nat)
  deriving DecidableEq, Repr

structure BandwidthResult where
  outcome : BandwidthOutcome
  classes : Nat
  boundPeers : Nat
  skippedNoHostIp : Nat
  deriving DecidableEq, Repr

/-- Runs the commands; the exit code and output of each are given by its place.  Deleting filters
where there are none may fail. -/
def executeCommands (answer : Nat → Int × String) :
    Nat → List (List String) → Except WireGuardCommandError Nat
  | _, [] => .ok 0
  | place, command :: rest =>
      if (answer place).1 = 0 then
        (executeCommands answer (place + 1) rest).map (fun count => count + 1)
      else if command.take 3 = ["tc", "filter", "del"] then executeCommands answer (place + 1) rest
      else
        .error ⟨"tc apply failed", "docker exec " ++ join " " (command.take 8),
          slice 400 (answer place).2⟩

def applyPlan (dryRun : Bool) (answer : Nat → Int × String) (commands : List (List String)) :
    Except WireGuardCommandError BandwidthOutcome :=
  if dryRun then .ok (.dryRun (commands.map (join " ")))
  else (executeCommands answer 0 commands).map .executed

/-- `enforce_bandwidth_policies`. -/
def enforceBandwidthPolicies (nodeId : String) (node : Option NodeMetadata)
    (defaultInterface : String) (policies : List BandwidthPolicy) (bindings : List PeerBinding)
    (dryRun : Bool) (answer : Nat → Int × String) :
    Except WireGuardCommandError BandwidthResult :=
  match node with
  | none => .error ⟨"Node not found: " ++ nodeId, "docker exec tc", ""⟩
  | some metadata => do
      let iface ← sanitizeInterfaceName (orDefault metadata.interfaceName defaultInterface)
      let plan := bandwidthPlan iface policies bindings
      let outcome ← applyPlan dryRun answer plan.commands
      .ok
        { outcome := outcome
          classes := plan.classByPlan.keys.length
          boundPeers := plan.boundPeers
          skippedNoHostIp := plan.skippedNoHostIp }

/-! ### What the loops leave -/

section Loops

variable {iface : String} {policies rows : List BandwidthPolicy} {bindings : List PeerBinding}

theorem sanitizeMbit_bounds (value : Int) :
    1 ≤ sanitizeMbit value ∧ sanitizeMbit value ≤ 100000 := by
  unfold sanitizeMbit
  omega

theorem policy_bounds (policy : BandwidthPolicy) :
    1 ≤ policy.rate ∧ policy.rate ≤ policy.ceil ∧ policy.ceil ≤ 100000 := by
  have rateBounds : 1 ≤ policy.rate ∧ policy.rate ≤ 100000 := sanitizeMbit_bounds _
  have ceilBounds := sanitizeMbit_bounds (intOr policy.ceilMbps policy.rate)
  unfold BandwidthPolicy.ceil
  dsimp only
  split <;> omega

theorem append_number_inj (head : String) {left right : Nat} :
    head ++ toString left = head ++ toString right ↔ left = right := by
  constructor
  · intro same
    have digits : Nat.toDigits 10 left = Nat.toDigits 10 right := by
      have chars := congrArg String.toList same
      rw [String.toList_append, String.toList_append, List.append_cancel_left_eq] at chars
      exact Nat.toList_repr ▸ Nat.toList_repr ▸ chars
    rw [← @Nat.ofDigitChars_ten_toDigits left, digits, Nat.ofDigitChars_ten_toDigits]
  · rintro rfl
    rfl

theorem classidText_inj {left right : Nat} : classidText left = classidText right ↔ left = right :=
  append_number_inj "1:"

/-- The command of a row and its number. -/
def rowCommand (iface : String) (numbered : BandwidthPolicy × Nat) : List String :=
  classReplace iface (classidText numbered.2) numbered.1.rate numbered.1.ceil numbered.1.prio

def rowClass (numbered : BandwidthPolicy × Nat) : String × String :=
  (numbered.1.plan, classidText numbered.2)

/-- Rows with plan ids are numbered one after the other. -/
theorem foldl_assignClass (named : ∀ row ∈ rows, row.plan ≠ "") (state : ClassState) :
    rows.foldl (assignClass iface) state =
      { classMinor := state.classMinor + rows.length
        classByPlan := ((rows.zipIdx state.classMinor).map rowClass).foldl
          (fun dict pair => dict.set pair.1 pair.2) state.classByPlan
        commands := state.commands ++ (rows.zipIdx state.classMinor).map (rowCommand iface) } := by
  induction rows generalizing state with
  | nil =>
      rw [List.zipIdx_nil, List.map_nil, List.map_nil, List.append_nil]
      rfl
  | cons row rest ih =>
      have here : assignClass iface state row =
          { classMinor := state.classMinor + 1
            classByPlan := state.classByPlan.set row.plan (classidText state.classMinor)
            commands := state.commands ++ [rowCommand iface (row, state.classMinor)] } :=
        if_neg (named row List.mem_cons_self)
      rw [List.foldl_cons, here,
        ih (fun other member => named other (List.mem_cons_of_mem row member)), List.zipIdx_cons,
        List.map_cons, List.map_cons, List.foldl_cons, List.length_cons]
      simp only [List.append_assoc, List.singleton_append, rowClass, Nat.add_assoc, Nat.add_comm 1]

theorem mem_policyRows {policy : BandwidthPolicy} :
    policy ∈ policyRows policies ↔ policy ∈ policies :=
  List.mem_insertionSort _

theorem policyRows_length : (policyRows policies).length = policies.length :=
  List.length_insertionSort _ policies

def numberedRows (policies : List BandwidthPolicy) : List (BandwidthPolicy × Nat) :=
  (policyRows policies).zipIdx 10

theorem assignClasses_eq (named : ∀ policy ∈ policies, policy.plan ≠ "") :
    assignClasses iface policies =
      { classMinor := 10 + policies.length
        classByPlan := Dict.ofList ((numberedRows policies).map rowClass)
        commands := [qdiscReplace iface, classReplace iface defaultClass 100000 100000 7] ++
          (numberedRows policies).map (rowCommand iface) } := by
  have rowsNamed : ∀ row ∈ policyRows policies, row.plan ≠ "" :=
    fun row member => named row (mem_policyRows.mp member)
  rw [assignClasses, foldl_assignClass rowsNamed, policyRows_length]
  rfl

theorem numbered_plans : ((numberedRows policies).map rowClass).map Prod.fst =
    (policyRows policies).map BandwidthPolicy.plan := by
  have plans : Prod.fst ∘ rowClass = BandwidthPolicy.plan ∘ Prod.fst := rfl
  rw [List.map_map, plans, ← List.map_map, numberedRows, List.zipIdx_map_fst]

theorem numbered_distinct (distinct : (policies.map BandwidthPolicy.plan).Nodup) :
    (((numberedRows policies).map rowClass).map Prod.fst).Nodup := by
  rw [numbered_plans]
  exact ((List.perm_insertionSort _ policies).map _).nodup_iff.mpr distinct

/-- The class of a plan is numbered by the place of its policy. -/
theorem classByPlan_iff (named : ∀ policy ∈ policies, policy.plan ≠ "")
    (distinct : (policies.map BandwidthPolicy.plan).Nodup) {plan classid : String} :
    (assignClasses iface policies).classByPlan.get? plan = some classid ↔
      ∃ policy place, (policyRows policies)[place]? = some policy ∧ policy.plan = plan ∧
        classidText (10 + place) = classid := by
  rw [assignClasses_eq named]
  dsimp only
  rw [Dict.get?_ofList_iff (numbered_distinct distinct), List.mem_map]
  constructor
  · rintro ⟨⟨policy, number⟩, member, same⟩
    obtain ⟨atLeast, atPlace⟩ := List.mk_mem_zipIdx_iff_le_and_getElem?_sub.mp member
    obtain ⟨rfl, rfl⟩ := Prod.mk.inj same
    exact ⟨policy, number - 10, atPlace, rfl, by rw [Nat.add_sub_cancel' atLeast]⟩
  · rintro ⟨policy, place, atPlace, rfl, rfl⟩
    refine ⟨(policy, 10 + place), ?_, rfl⟩
    exact List.mk_add_mem_zipIdx_iff_getElem?.mpr atPlace

/-- The hosts of a binding with their class, if the plan has one. -/
def boundEntries (classByPlan : Dict String String) (binding : PeerBinding) :
    List (String × String) :=
  match classByPlan.get? binding.plan with
  | none => []
  | some classid => binding.hosts.map (fun cidr => (cidr, classid))

def boundHosts (classByPlan : Dict String String) (bindings : List PeerBinding) :
    List (String × String) :=
  bindings.flatMap (boundEntries classByPlan)

theorem mem_boundHosts {classByPlan : Dict String String} {host classid : String} :
    (host, classid) ∈ boundHosts classByPlan bindings ↔
      ∃ binding ∈ bindings, classByPlan.get? binding.plan = some classid ∧
        host ∈ binding.hosts := by
  rw [boundHosts, List.mem_flatMap]
  refine exists_congr (fun binding => and_congr_right (fun _ => ?_))
  unfold boundEntries
  cases classByPlan.get? binding.plan with
  | none => simp
  | some other =>
      rw [List.mem_map, Option.some.injEq]
      constructor
      · rintro ⟨cidr, member, same⟩
        obtain ⟨rfl, rfl⟩ := Prod.mk.inj same
        exact ⟨rfl, member⟩
      · rintro ⟨rfl, member⟩
        exact ⟨host, member, rfl⟩

/-- The loop over the bindings adds the filters of the bound hosts and counts the bindings. -/
theorem foldl_bindPeer (classByPlan : Dict String String) (state : BindState) :
    bindings.foldl (bindPeer iface classByPlan) state =
      { boundPeers := state.boundPeers + bindings.countP (fun binding =>
          (classByPlan.get? binding.plan).isSome && binding.hosts ≠ [])
        skippedNoHostIp := state.skippedNoHostIp + bindings.countP (fun binding =>
          (classByPlan.get? binding.plan).isSome && binding.hosts = [])
        commands := state.commands ++ (boundHosts classByPlan bindings).flatMap (fun entry =>
          hostFilters iface entry.1 entry.2) } := by
  induction bindings generalizing state with
  | nil =>
      rw [List.foldl_nil, boundHosts, List.flatMap_nil, List.flatMap_nil, List.append_nil]
      rfl
  | cons binding rest ih =>
      have entries : boundHosts classByPlan (binding :: rest) =
          boundEntries classByPlan binding ++ boundHosts classByPlan rest := List.flatMap_cons
      rw [List.foldl_cons, ih, bindPeer, entries, boundEntries, List.countP_cons, List.countP_cons]
      cases known : classByPlan.get? binding.plan with
      | none => simp
      | some classid =>
          by_cases hostless : binding.hosts = []
          · simp [hostless, Nat.add_assoc, Nat.add_comm 1]
          · simp [hostless, Nat.add_assoc, Nat.add_comm 1, List.flatMap_map]

end Loops

/-! ### The commands -/

section Plan

variable {iface : String} {policies : List BandwidthPolicy} {bindings : List PeerBinding}

/-- The binding is of a plan that has a policy. -/
def HasPolicy (policies : List BandwidthPolicy) (binding : PeerBinding) : Prop :=
  ∃ policy ∈ policies, policy.plan = binding.plan

instance (binding : PeerBinding) : Decidable (HasPolicy policies binding) :=
  inferInstanceAs (Decidable (∃ policy ∈ policies, _))

def classOf (iface : String) (policies : List BandwidthPolicy) (plan : String) : Option String :=
  (assignClasses iface policies).classByPlan.get? plan

def setupCommands (iface : String) (policies : List BandwidthPolicy) : List (List String) :=
  [qdiscReplace iface, classReplace iface defaultClass 100000 100000 7] ++
    (numberedRows policies).map (rowCommand iface)

def addCommands (iface : String) (entries : List (String × String)) : List (List String) :=
  entries.flatMap (fun entry => hostFilters iface entry.1 entry.2)

theorem plan_commands (named : ∀ policy ∈ policies, policy.plan ≠ "") :
    (bandwidthPlan iface policies bindings).commands =
      setupCommands iface policies ++ filterDel iface ::
        addCommands iface (boundHosts (assignClasses iface policies).classByPlan bindings) := by
  rw [bandwidthPlan]
  dsimp only
  rw [foldl_bindPeer, assignClasses_eq named, setupCommands, addCommands]
  simp only [List.append_assoc, List.singleton_append]

theorem filterDel_head (iface : String) : (filterDel iface).take 3 = ["tc", "filter", "del"] := rfl

theorem setup_heads {command : List String} (member : command ∈ setupCommands iface policies) :
    command.take 3 = ["tc", "qdisc", "replace"] ∨
      (command.take 3 = ["tc", "class", "replace"] ∧
        ∃ classid rate ceil prio, command = classReplace iface classid rate ceil prio ∧
          1 ≤ rate ∧ rate ≤ ceil ∧ ceil ≤ 100000) := by
  rcases List.mem_append.mp member with first | isRow
  · rcases List.mem_cons.mp first with rfl | second
    · exact .inl rfl
    · obtain rfl := List.mem_singleton.mp second
      exact .inr ⟨rfl, defaultClass, 100000, 100000, 7, rfl, by decide⟩
  · obtain ⟨numbered, -, rfl⟩ := List.mem_map.mp isRow
    exact .inr ⟨rfl, _, _, _, _, rfl, policy_bounds numbered.1⟩

theorem setup_no_filter {command : List String} (member : command ∈ setupCommands iface policies) :
    command.take 3 ≠ ["tc", "filter", "add"] := by
  rcases setup_heads member with isQdisc | ⟨isClass, -⟩
  · rw [isQdisc]
    decide
  · rw [isClass]
    decide

theorem add_heads {entries : List (String × String)} {command : List String}
    (member : command ∈ addCommands iface entries) :
    ∃ entry ∈ entries, command ∈ hostFilters iface entry.1 entry.2 ∧
      command.take 3 = ["tc", "filter", "add"] := by
  obtain ⟨entry, inEntries, isFilter⟩ := List.mem_flatMap.mp member
  refine ⟨entry, inEntries, isFilter, ?_⟩
  rcases List.mem_cons.mp isFilter with rfl | second
  · rfl
  · obtain rfl := List.mem_singleton.mp second
    rfl

theorem filterAdd_inj {direction cidr classid direction' cidr' classid' : String} :
    filterAdd iface direction cidr classid = filterAdd iface direction' cidr' classid' ↔
      direction = direction' ∧ cidr = cidr' ∧ classid = classid' := by
  simp [filterAdd]

/-- A filter is added as often as its host has its class. -/
theorem count_addCommands {entries : List (String × String)} {direction : String}
    (known : direction = "dst" ∨ direction = "src") (host classid : String) :
    (addCommands iface entries).count (filterAdd iface direction host classid) =
      entries.count (host, classid) := by
  induction entries with
  | nil => rfl
  | cons entry rest ih =>
      obtain ⟨cidr, other⟩ := entry
      have split : addCommands iface ((cidr, other) :: rest) =
          hostFilters iface cidr other ++ addCommands iface rest := List.flatMap_cons
      rw [split, List.count_append, ih, List.count_cons, hostFilters, List.count_cons,
        List.count_cons, List.count_nil, Nat.add_comm]
      simp only [beq_iff_eq, filterAdd_inj, Prod.mk.injEq]
      rcases known with rfl | rfl
      · simp
      · simp

theorem boundHosts_sublist (classByPlan : Dict String String) (bindings : List PeerBinding) :
    ((boundHosts classByPlan bindings).map Prod.fst).Sublist
      (bindings.flatMap PeerBinding.hosts) := by
  induction bindings with
  | nil => exact List.Sublist.refl _
  | cons binding rest ih =>
      have entries : boundHosts classByPlan (binding :: rest) =
          boundEntries classByPlan binding ++ boundHosts classByPlan rest := List.flatMap_cons
      rw [entries, List.map_append, List.flatMap_cons]
      refine List.Sublist.append ?_ ih
      unfold boundEntries
      cases classByPlan.get? binding.plan with
      | none => exact List.nil_sublist _
      | some classid =>
          dsimp only
          rw [List.map_map]
          have hosts : (Prod.fst ∘ fun cidr => (cidr, classid)) = (id : String → String) := rfl
          rw [hosts, List.map_id]

theorem count_plan_commands (named : ∀ policy ∈ policies, policy.plan ≠ "") {direction : String}
    (known : direction = "dst" ∨ direction = "src") (host classid : String) :
    (bandwidthPlan iface policies bindings).commands.count
        (filterAdd iface direction host classid) =
      (boundHosts (assignClasses iface policies).classByPlan bindings).count (host, classid) := by
  have isAdd : (filterAdd iface direction host classid).take 3 = ["tc", "filter", "add"] := rfl
  have notSetup : filterAdd iface direction host classid ∉ setupCommands iface policies :=
    fun member => setup_no_filter member isAdd
  have notDel : filterDel iface ≠ filterAdd iface direction host classid := by
    intro same
    rw [← same, filterDel_head] at isAdd
    exact absurd isAdd (by decide)
  rw [plan_commands named, List.count_append, List.count_eq_zero_of_not_mem notSetup,
    List.count_cons_of_ne notDel, count_addCommands known, Nat.zero_add]

/-- Plans with a policy have a class, and only they. -/
theorem classOf_isSome_iff (named : ∀ policy ∈ policies, policy.plan ≠ "")
    (distinct : (policies.map BandwidthPolicy.plan).Nodup) (binding : PeerBinding) :
    (classOf iface policies binding.plan).isSome = true ↔ HasPolicy policies binding := by
  rw [Option.isSome_iff_exists]
  constructor
  · rintro ⟨classid, known⟩
    obtain ⟨policy, place, atPlace, samePlan, -⟩ := (classByPlan_iff named distinct).mp known
    exact ⟨policy, mem_policyRows.mp (List.mem_of_getElem? atPlace), samePlan⟩
  · rintro ⟨policy, member, samePlan⟩
    obtain ⟨place, atPlace⟩ := List.getElem?_of_mem (mem_policyRows.mpr member)
    exact ⟨_, (classByPlan_iff named distinct).mpr ⟨policy, place, atPlace, samePlan, rfl⟩⟩

theorem plan_classes (named : ∀ policy ∈ policies, policy.plan ≠ "")
    (distinct : (policies.map BandwidthPolicy.plan).Nodup) :
    (bandwidthPlan iface policies bindings).classByPlan.keys.length = policies.length := by
  have keys : (bandwidthPlan iface policies bindings).classByPlan.keys =
      ((numberedRows policies).map rowClass).map Prod.fst := by
    rw [bandwidthPlan]
    dsimp only
    rw [assignClasses_eq named, Dict.keys, Dict.entries_ofList _ (numbered_distinct distinct)]
  rw [keys, numbered_plans, List.length_map, policyRows_length]

theorem plan_counts (named : ∀ policy ∈ policies, policy.plan ≠ "")
    (distinct : (policies.map BandwidthPolicy.plan).Nodup) :
    (bandwidthPlan iface policies bindings).boundPeers =
        bindings.countP (fun binding => HasPolicy policies binding && binding.hosts ≠ []) ∧
      (bandwidthPlan iface policies bindings).skippedNoHostIp =
        bindings.countP (fun binding => HasPolicy policies binding && binding.hosts = []) := by
  have known (binding : PeerBinding) :
      (classOf iface policies binding.plan).isSome = true ↔ HasPolicy policies binding :=
    classOf_isSome_iff named distinct binding
  rw [bandwidthPlan]
  dsimp only
  rw [foldl_bindPeer]
  dsimp only
  rw [Nat.zero_add, Nat.zero_add]
  constructor
  · apply List.countP_congr
    intro binding _
    simp only [Bool.and_eq_true, decide_eq_true_eq]
    exact and_congr_left' (known binding)
  · apply List.countP_congr
    intro binding _
    simp only [Bool.and_eq_true, decide_eq_true_eq]
    exact and_congr_left' (known binding)

/-- What the adapter reports: the counts of the plan and, in a dry run, its commands. -/
theorem enforceBandwidthPolicies_ok {nodeId defaultInterface : String} {node : Option NodeMetadata}
    {dryRun : Bool} {answer : Nat → Int × String} {result : BandwidthResult}
    (named : ∀ policy ∈ policies, policy.plan ≠ "")
    (distinct : (policies.map BandwidthPolicy.plan).Nodup)
    (enforced : enforceBandwidthPolicies nodeId node defaultInterface policies bindings dryRun
      answer = .ok result) :
    ∃ iface, (dryRun = true → result.outcome =
        .dryRun ((bandwidthPlan iface policies bindings).commands.map (join " "))) ∧
      result.classes = policies.length ∧
      result.boundPeers = (bandwidthPlan iface policies bindings).boundPeers ∧
      result.skippedNoHostIp = (bandwidthPlan iface policies bindings).skippedNoHostIp := by
  unfold enforceBandwidthPolicies at enforced
  cases node with
  | none => cases enforced
  | some metadata =>
      obtain ⟨iface, -, rest⟩ := bind_eq_ok.mp enforced
      obtain ⟨outcome, ran, reported⟩ := bind_eq_ok.mp rest
      obtain rfl := Except.ok.inj reported
      refine ⟨iface, ?_, plan_classes named distinct, rfl, rfl⟩
      rintro rfl
      exact (Except.ok.inj ran).symm

end Plan

/-! ### Plans and their classes -/

section Law

/-- The plans have classes of their own, apart from the default one, with rates in their bounds;
the hosts of a binding whose plan has a policy get two filters into its class, and no others do;
old filters go before the first is added; and the counts are right. -/
structure MapsPlansToClasses (iface : String) (policies : List BandwidthPolicy)
    (bindings : List PeerBinding) : Prop where
  assigned : ∀ policy ∈ policies, ∃ classid, classOf iface policies policy.plan = some classid ∧
    classid ≠ defaultClass ∧ ∃ rate ceil prio,
      classReplace iface classid rate ceil prio ∈ (bandwidthPlan iface policies bindings).commands
  distinct : ∀ left ∈ policies, ∀ right ∈ policies,
    classOf iface policies left.plan = classOf iface policies right.plan → left.plan = right.plan
  clamped : ∀ command ∈ (bandwidthPlan iface policies bindings).commands,
    command.take 3 = ["tc", "class", "replace"] →
      ∃ classid rate ceil prio, command = classReplace iface classid rate ceil prio ∧
        1 ≤ rate ∧ rate ≤ ceil ∧ ceil ≤ 100000
  filtered : ∀ binding ∈ bindings, HasPolicy policies binding →
    ∃ classid, classOf iface policies binding.plan = some classid ∧
      ∀ host ∈ binding.hosts, ∀ direction ∈ ["dst", "src"], ∀ other,
        (bandwidthPlan iface policies bindings).commands.count
            (filterAdd iface direction host other) = if other = classid then 1 else 0
  onlyBound : ∀ command ∈ (bandwidthPlan iface policies bindings).commands,
    command.take 3 = ["tc", "filter", "add"] →
      ∃ binding ∈ bindings, HasPolicy policies binding ∧ ∃ host ∈ binding.hosts, ∃ classid,
        command ∈ hostFilters iface host classid
  resetFirst : ∀ earlier command later,
    (bandwidthPlan iface policies bindings).commands = earlier ++ command :: later →
      command.take 3 = ["tc", "filter", "add"] → filterDel iface ∈ earlier
  classes : (bandwidthPlan iface policies bindings).classByPlan.keys.length = policies.length
  bound : (bandwidthPlan iface policies bindings).boundPeers =
    bindings.countP (fun binding => HasPolicy policies binding && binding.hosts ≠ [])
  skipped : (bandwidthPlan iface policies bindings).skippedNoHostIp =
    bindings.countP (fun binding => HasPolicy policies binding && binding.hosts = [])

variable {iface : String} {policies : List BandwidthPolicy} {bindings : List PeerBinding}

theorem filtered_of_distinct (named : ∀ policy ∈ policies, policy.plan ≠ "")
    (hostsDistinct : (bindings.flatMap PeerBinding.hosts).Nodup) {binding : PeerBinding}
    (inBindings : binding ∈ bindings) {classid : String}
    (known : classOf iface policies binding.plan = some classid) {host direction : String}
    (isHost : host ∈ binding.hosts) (isDirection : direction ∈ ["dst", "src"]) (other : String) :
    (bandwidthPlan iface policies bindings).commands.count (filterAdd iface direction host other) =
      if other = classid then 1 else 0 := by
  have knownDirection : direction = "dst" ∨ direction = "src" := by simpa using isDirection
  have firsts := hostsDistinct.sublist
    (boundHosts_sublist (assignClasses iface policies).classByPlan bindings)
  have own := mem_boundHosts.mpr ⟨binding, inBindings, known, isHost⟩
  have member : (host, other) ∈ boundHosts (assignClasses iface policies).classByPlan bindings ↔
      other = classid := by
    constructor
    · intro inHosts
      exact congrArg Prod.snd (List.inj_on_of_nodup_map firsts inHosts own rfl)
    · rintro rfl
      exact own
  rw [count_plan_commands named knownDirection, firsts.of_map.count]
  exact if_congr member rfl rfl

theorem reset_before_add (named : ∀ policy ∈ policies, policy.plan ≠ "")
    {earlier later : List (List String)} {command : List String}
    (split : (bandwidthPlan iface policies bindings).commands = earlier ++ command :: later)
    (isAdd : command.take 3 = ["tc", "filter", "add"]) : filterDel iface ∈ earlier := by
  have notDel : command ≠ filterDel iface := by
    rintro rfl
    rw [filterDel_head] at isAdd
    exact absurd isAdd (by decide)
  rw [plan_commands named] at split
  rcases List.append_eq_append_iff.mp split with ⟨middle, rfl, rest⟩ | ⟨middle, setup, rest⟩
  · cases middle with
    | nil => exact absurd (List.cons.inj rest).1.symm notDel
    | cons first others =>
        rw [← (List.cons.inj rest).1]
        exact List.mem_append_right _ List.mem_cons_self
  · cases middle with
    | nil => exact absurd (List.cons.inj rest).1 notDel
    | cons first others =>
        have inSetup : command ∈ setupCommands iface policies := by
          rw [setup, (List.cons.inj rest).1]
          exact List.mem_append_right _ List.mem_cons_self
        exact absurd isAdd (setup_no_filter inSetup)

/-- The 990th policy in the order of the plans would get the default class. -/
theorem few_of_maps (named : ∀ policy ∈ policies, policy.plan ≠ "")
    (distinct : (policies.map BandwidthPolicy.plan).Nodup)
    (law : MapsPlansToClasses iface policies bindings) : policies.length < 990 := by
  by_contra many
  have reached : 989 < (policyRows policies).length := by
    rw [policyRows_length]
    omega
  have atPlace := List.getElem?_eq_getElem reached
  obtain ⟨classid, known, apart, -⟩ := law.assigned _
    (mem_policyRows.mp (List.getElem_mem reached))
  have collides := (@classByPlan_iff iface _ named distinct _ _).mpr ⟨_, 989, atPlace, rfl, rfl⟩
  exact apart (Option.some.inj (known.symm.trans collides))

/-- Policies with plan ids of their own and hosts without repetition: plans are mapped to classes
faithfully exactly when there are fewer than 990 policies. -/
theorem mapsPlansToClasses_iff (iface : String) (policies : List BandwidthPolicy)
    (bindings : List PeerBinding) (named : ∀ policy ∈ policies, policy.plan ≠ "")
    (distinct : (policies.map BandwidthPolicy.plan).Nodup)
    (hostsDistinct : (bindings.flatMap PeerBinding.hosts).Nodup) :
    MapsPlansToClasses iface policies bindings ↔ policies.length < 990 := by
  constructor
  · exact few_of_maps named distinct
  · intro few
    constructor
    · intro policy member
      obtain ⟨place, atPlace⟩ := List.getElem?_of_mem (mem_policyRows.mpr member)
      refine ⟨classidText (10 + place),
        (classByPlan_iff named distinct).mpr ⟨policy, place, atPlace, rfl, rfl⟩, ?_, policy.rate,
        policy.ceil, policy.prio, ?_⟩
      · intro same
        obtain ⟨below, -⟩ := List.getElem?_eq_some_iff.mp atPlace
        rw [policyRows_length] at below
        have number := (@classidText_inj (10 + place) 999).mp same
        omega
      · rw [plan_commands named]
        apply List.mem_append_left
        apply List.mem_append_right
        exact List.mem_map_of_mem (f := rowCommand iface)
          (List.mk_add_mem_zipIdx_iff_getElem?.mpr atPlace)
    · intro left inLeft right inRight same
      obtain ⟨place, atPlace⟩ := List.getElem?_of_mem (mem_policyRows.mpr inLeft)
      have known : classOf iface policies left.plan = some (classidText (10 + place)) :=
        (classByPlan_iff named distinct).mpr ⟨left, place, atPlace, rfl, rfl⟩
      obtain ⟨policy, other, atOther, samePlan, sameClass⟩ :=
        (classByPlan_iff named distinct).mp (same.symm.trans known)
      have number := classidText_inj.mp sameClass
      obtain rfl : other = place := by omega
      rw [← samePlan, Option.some.inj (atOther.symm.trans atPlace)]
    · intro command member isClass
      rw [plan_commands named] at member
      rcases List.mem_append.mp member with inSetup | rest
      · rcases setup_heads inSetup with isQdisc | ⟨-, bounds⟩
        · rw [isQdisc] at isClass
          exact absurd isClass (by decide)
        · exact bounds
      · rcases List.mem_cons.mp rest with rfl | inAdds
        · rw [filterDel_head] at isClass
          exact absurd isClass (by decide)
        · obtain ⟨-, -, -, isAdd⟩ := add_heads inAdds
          rw [isAdd] at isClass
          exact absurd isClass (by decide)
    · intro binding inBindings hasPolicy
      obtain ⟨classid, known⟩ := Option.isSome_iff_exists.mp
        ((@classOf_isSome_iff iface _ named distinct binding).mpr hasPolicy)
      exact ⟨classid, known, fun host isHost direction isDirection other =>
        filtered_of_distinct named hostsDistinct inBindings known isHost isDirection other⟩
    · intro command member isAdd
      rw [plan_commands named] at member
      rcases List.mem_append.mp member with inSetup | rest
      · exact absurd isAdd (setup_no_filter inSetup)
      · rcases List.mem_cons.mp rest with rfl | inAdds
        · rw [filterDel_head] at isAdd
          exact absurd isAdd (by decide)
        · obtain ⟨⟨host, classid⟩, inHosts, isFilter, -⟩ := add_heads inAdds
          obtain ⟨binding, inBindings, known, isHost⟩ := mem_boundHosts.mp inHosts
          have hasPolicy := (@classOf_isSome_iff iface _ named distinct binding).mp
            (Option.isSome_of_eq_some known)
          exact ⟨binding, inBindings, hasPolicy, host, isHost, classid, isFilter⟩
    · exact fun earlier command later split isAdd => reset_before_add named split isAdd
    · exact plan_classes named distinct
    · exact (plan_counts named distinct).1
    · exact (plan_counts named distinct).2

def samplePolicy (number : Nat) : BandwidthPolicy :=
  { planId := some ("plan-" ++ toString number)
    rateMbps := some 20
    ceilMbps := some 40
    priority := some 2 }

/-- Two plans, one of them with a peer. -/
theorem two_plans_mapped : MapsPlansToClasses "awg0" [samplePolicy 1, samplePolicy 2]
    [⟨some "plan-1", some "10.8.0.2/32, 10.8.0.3/32"⟩, ⟨some "plan-3", none⟩] :=
  (mapsPlansToClasses_iff "awg0" [samplePolicy 1, samplePolicy 2]
    [⟨some "plan-1", some "10.8.0.2/32, 10.8.0.3/32"⟩, ⟨some "plan-3", none⟩] (by decide)
    (by decide) (by decide)).mpr (by decide)

def manyPolicies : List BandwidthPolicy := (List.range 990).map samplePolicy

/-- Of 990 plans one gets the default class. -/
theorem plan_gets_default_class : ¬ MapsPlansToClasses "awg0" manyPolicies [] := by
  intro law
  have plans (number : Nat) : (samplePolicy number).plan = "plan-" ++ toString number :=
    orDefault_empty _
  have named : ∀ policy ∈ manyPolicies, policy.plan ≠ "" := by
    intro policy member
    obtain ⟨number, -, rfl⟩ := List.mem_map.mp member
    rw [plans]
    intro empty
    have chars := congrArg String.toList empty
    rw [String.toList_append] at chars
    cases chars
  have distinct : (manyPolicies.map BandwidthPolicy.plan).Nodup := by
    rw [manyPolicies, List.map_map]
    refine List.Nodup.map ?_ List.nodup_range
    intro left right same
    rw [Function.comp_apply, Function.comp_apply, plans, plans] at same
    exact (append_number_inj "plan-").mp same
  have few := few_of_maps named distinct law
  rw [manyPolicies, List.length_map, List.length_range] at few
  exact absurd few (by decide)

end Law

end VpnSuite.Runtime
