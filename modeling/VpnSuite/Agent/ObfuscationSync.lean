/-
The sync of a node's obfuscation parameters (`node-agent/agent.py`,
`_apply_obfuscation_full_to_env` and its call in `main`).

The agent compares the wanted parameters with the env file of the container, rewrites the
file when they differ, and restarts the container.  The file alone decides: a container whose
restart failed after the file was written is not restarted again.

`running` is what the env file held when the container was last restarted.  A cycle brings
the outcomes of reading, writing and restarting, and the order in which Python happens to
iterate over the set of missing keys.
-/

import VpnSuite.Foundations.OrderedDict
import VpnSuite.Foundations.PythonNumbers
import VpnSuite.Foundations.StepRuns
import Mathlib.Data.Fintype.Pi

set_option autoImplicit false

namespace VpnSuite.Agent

open Foundations
open Foundations.PythonText

/-! ### The parameters -/

inductive EnvKey where
  | s1 | s2 | jc | jmin | jmax | h1 | h2 | h3 | h4
  deriving DecidableEq, Repr

/-- The keys in the order of the dict `want`. -/
def envKeys : List EnvKey := [.s1, .s2, .jc, .jmin, .jmax, .h1, .h2, .h3, .h4]

theorem mem_envKeys (key : EnvKey) : key ∈ envKeys := by
  cases key <;> decide

instance : Fintype EnvKey := ⟨⟨envKeys, by decide⟩, mem_envKeys⟩

def EnvKey.name : EnvKey → String
  | .s1 => "AWG_S1"
  | .s2 => "AWG_S2"
  | .jc => "AWG_Jc"
  | .jmin => "AWG_Jmin"
  | .jmax => "AWG_Jmax"
  | .h1 => "AWG_H1"
  | .h2 => "AWG_H2"
  | .h3 => "AWG_H3"
  | .h4 => "AWG_H4"

/-- The key of the desired state, and what is taken without it. -/
def EnvKey.field : EnvKey → String × Int
  | .s1 => ("s1", 213)
  | .s2 => ("s2", 237)
  | .jc => ("jc", 3)
  | .jmin => ("jmin", 10)
  | .jmax => ("jmax", 50)
  | .h1 => ("h1", 0)
  | .h2 => ("h2", 0)
  | .h3 => ("h3", 0)
  | .h4 => ("h4", 0)

abbrev EnvParams := EnvKey → Option Int

/-- `int(obf.get(field, default))`. -/
def wantedValue (obf : Dict String Json) (key : EnvKey) : Except IntError Int :=
  match obf.get? key.field.1 with
  | none => .ok key.field.2
  | some value => value.toInt

/-- The dict `want`, or what the first conversion that fails raises. -/
def wantedParams (obf : Dict String Json) : Except IntError (EnvKey → Int) := do
  let values ← envKeys.mapM (fun key => (wantedValue obf key).map (fun value => (key, value)))
  .ok (fun key => (values.lookup key).getD 0)

def complete (want : EnvKey → Int) : EnvParams := fun key => some (want key)

/-! ### The env file -/

/-- What text mode makes of line ends. -/
def universalNewlines : List Char → List Char
  | [] => []
  | '\r' :: '\n' :: rest => '\n' :: universalNewlines rest
  | '\r' :: rest => '\n' :: universalNewlines rest
  | char :: rest => char :: universalNewlines rest

/-- The lines of a text, each with its line break if it has one. -/
def keptLines : List Char → List (List Char)
  | [] => []
  | char :: rest =>
      if char = '\n' then ['\n'] :: keptLines rest
      else
        match keptLines rest with
        | [] => [[char]]
        | line :: others => (char :: line) :: others

/-- `f.readlines()`. -/
def readLines (file : List Char) : List (List Char) := keptLines (universalNewlines file)

def EnvKey.start (key : EnvKey) : List Char := key.name.toList ++ ['=']

def lineKey (line : List Char) : Option EnvKey :=
  envKeys.find? (fun key => key.start.isPrefixOf line)

/-- The number after the first `=`, without a comment. -/
def lineValue (line : List Char) : Option Int :=
  intOfChars (stripChars (partition '#' (stripChars (partition '=' line).2)).1)

def readLine (current : EnvParams) (line : List Char) : EnvParams :=
  match lineKey line with
  | none => current
  | some key =>
      match lineValue line with
      | none => current
      | some value => Function.update current key (some value)

/-- The dict `current` of the lines of the file. -/
def heldLines (lines : List (List Char)) : EnvParams := lines.foldl readLine (fun _ => none)

def held (file : List Char) : EnvParams := heldLines (readLines file)

def assignment (want : EnvKey → Int) (key : EnvKey) : List Char :=
  key.start ++ (toString (want key)).toList ++ ['\n']

def replacedLine (want : EnvKey → Int) (line : List Char) : List Char :=
  match lineKey line with
  | none => line
  | some key => assignment want key

/-- The keys left in `seen`, in the order in which they come. -/
def missingKeys (order : List EnvKey) (lines : List (List Char)) : List EnvKey :=
  order.filter (fun key => !lines.any (fun line => lineKey line = some key))

/-- The lines the agent writes. -/
def rewrittenLines (order : List EnvKey) (want : EnvKey → Int) (lines : List (List Char)) :
    List (List Char) :=
  lines.map (replacedLine want) ++ (missingKeys order lines).map (assignment want)

def rewritten (order : List EnvKey) (want : EnvKey → Int) (file : List Char) : List Char :=
  (rewrittenLines order want (readLines file)).flatten

/-! ### Cycles -/

/-- The env file, and the parameters the container runs with. -/
structure NodeEnv where
  file : List Char
  running : EnvParams

/-- One cycle of the agent with a known env path. -/
structure SyncCycle where
  obfuscationFull : Option (Dict String Json)
  runtimeOk : Bool
  readable : Bool
  /-- What the file is left with by a write that fails. -/
  writeFailure : Option (List Char)
  restarted : Bool
  order : { keys : List EnvKey // keys.Perm envKeys }

inductive SyncOutcome where
  | notCalled
  | raised
  | idle
  | attempted
  deriving DecidableEq, Repr

/-- What a call that goes on to write makes of the node. -/
def writeAndRestart (cycle : SyncCycle) (want : EnvKey → Int) (node : NodeEnv) : NodeEnv :=
  match cycle.writeFailure with
  | some left => { node with file := left }
  | none =>
      let file := rewritten cycle.order.1 want node.file
      if cycle.restarted then ⟨file, held file⟩ else { node with file := file }

/-- `_apply_obfuscation_full_to_env`. -/
def applyObfuscationFullToEnv (cycle : SyncCycle) (obf : Dict String Json) (node : NodeEnv) :
    SyncOutcome × NodeEnv :=
  match wantedParams obf with
  | .error _ => (.raised, node)
  | .ok want =>
      if !cycle.readable then (.idle, node)
      else if held node.file = complete want then (.idle, node)
      else (.attempted, writeAndRestart cycle want node)

/-- The sync of one cycle, as `main` guards it. -/
def syncObfuscation (cycle : SyncCycle) (node : NodeEnv) : SyncOutcome × NodeEnv :=
  match cycle.obfuscationFull with
  | none => (.notCalled, node)
  | some obf =>
      if !obf.entries.isEmpty && cycle.runtimeOk then applyObfuscationFullToEnv cycle obf node
      else (.notCalled, node)

def syncStep (node : NodeEnv) (cycle : SyncCycle) : NodeEnv := (syncObfuscation cycle node).2

/-- The parameters a cycle asks the file for. -/
def calledFor (cycle : SyncCycle) : Option (EnvKey → Int) :=
  cycle.obfuscationFull.bind (fun obf =>
    if !obf.entries.isEmpty && cycle.runtimeOk then (wantedParams obf).toOption else none)

/-! ### What a cycle does -/

section Cycles

variable {cycle : SyncCycle} {node : NodeEnv} {want : EnvKey → Int}

theorem syncObfuscation_uncalled (uncalled : calledFor cycle = none) :
    (syncObfuscation cycle node).1 ≠ .idle ∧ (syncObfuscation cycle node).2 = node := by
  unfold calledFor at uncalled
  unfold syncObfuscation
  cases asked : cycle.obfuscationFull with
  | none => exact ⟨SyncOutcome.noConfusion, rfl⟩
  | some obf =>
      rw [asked, Option.bind_some] at uncalled
      dsimp only
      split
      · rename_i guarded
        rw [if_pos guarded] at uncalled
        unfold applyObfuscationFullToEnv
        cases wanted : wantedParams obf with
        | error raised => exact ⟨SyncOutcome.noConfusion, rfl⟩
        | ok want =>
            rw [wanted] at uncalled
            cases uncalled
      · exact ⟨SyncOutcome.noConfusion, rfl⟩

theorem syncObfuscation_called (called : calledFor cycle = some want) :
    syncObfuscation cycle node =
      if cycle.readable = true ∧ held node.file ≠ complete want then
        (.attempted, writeAndRestart cycle want node)
      else (.idle, node) := by
  unfold calledFor at called
  unfold syncObfuscation
  obtain ⟨obf, asked, guarded⟩ := Option.bind_eq_some_iff.mp called
  rw [asked]
  dsimp only
  split at guarded
  · rename_i open_
    rw [if_pos open_]
    unfold applyObfuscationFullToEnv
    cases wanted : wantedParams obf with
    | error raised =>
        rw [wanted] at guarded
        cases guarded
    | ok values =>
        rw [wanted] at guarded
        obtain rfl := Option.some.inj guarded
        dsimp only
        cases cycle.readable with
        | false => simp
        | true => by_cases same : held node.file = complete values <;> simp [same]
  · cases guarded

end Cycles

/-! ### What the agent writes holds what was wanted -/

/-- A line with its line break, and no other. -/
def FullLine (line : List Char) : Prop := ∃ body, line = body ++ ['\n'] ∧ '\n' ∉ body

/-- Every line of the file ends in a line break, the last one too. -/
def EndedFile (file : List Char) : Prop := ∀ line ∈ readLines file, FullLine line

theorem keptLines_full {body : List Char} (unbroken : '\n' ∉ body) (rest : List Char) :
    keptLines (body ++ '\n' :: rest) = (body ++ ['\n']) :: keptLines rest := by
  induction body with
  | nil => rw [List.nil_append, keptLines, if_pos rfl, List.nil_append]
  | cons char others ih =>
      have different : char ≠ '\n' := by
        rintro rfl
        exact unbroken List.mem_cons_self
      rw [List.cons_append, keptLines, if_neg different,
        ih (fun member => unbroken (List.mem_cons_of_mem char member))]
      rfl

theorem keptLines_flatten {lines : List (List Char)} (full : ∀ line ∈ lines, FullLine line) :
    keptLines lines.flatten = lines := by
  induction lines with
  | nil => rfl
  | cons line rest ih =>
      obtain ⟨body, rfl, unbroken⟩ := full line List.mem_cons_self
      rw [List.flatten_cons, List.append_assoc, List.singleton_append,
        keptLines_full unbroken, ih (fun other member => full other (List.mem_cons_of_mem _ member))]

theorem keptLines_flatten_eq (chars : List Char) : (keptLines chars).flatten = chars := by
  induction chars with
  | nil => rfl
  | cons char rest ih =>
      rw [keptLines]
      split
      · rename_i broken
        rw [List.flatten_cons, ih, broken, List.singleton_append]
      · cases lines : keptLines rest with
        | nil =>
            rw [lines] at ih
            rw [← ih]
            rfl
        | cons line others =>
            rw [lines] at ih
            rw [← ih]
            rfl

theorem not_mem_universalNewlines (chars : List Char) : '\r' ∉ universalNewlines chars := by
  fun_induction universalNewlines chars with
  | case1 => exact List.not_mem_nil
  | case2 rest ih => simp [ih]
  | case3 rest _ ih => simp [ih]
  | case4 char rest _ different ih =>
      intro member
      rcases List.mem_cons.mp member with same | later
      · exact different same.symm
      · exact ih later

theorem universalNewlines_of_not_mem {chars : List Char} (free : '\r' ∉ chars) :
    universalNewlines chars = chars := by
  fun_induction universalNewlines chars with
  | case1 => rfl
  | case2 rest ih => exact absurd List.mem_cons_self free
  | case3 rest _ ih => exact absurd List.mem_cons_self free
  | case4 char rest _ different ih =>
      rw [ih (fun member => free (List.mem_cons_of_mem char member))]

/-! ### Lines of the env file -/

theorem start_incomparable : envKeys.all (fun key => envKeys.all (fun other =>
    key = other || (!key.start.isPrefixOf other.start && !other.start.isPrefixOf key.start))) =
      true := by
  decide +kernel

theorem lineKey_assignment (want : EnvKey → Int) (key : EnvKey) :
    lineKey (assignment want key) = some key := by
  have begins : key.start <+: assignment want key := by
    rw [assignment, List.append_assoc]
    exact List.prefix_append ..
  unfold lineKey
  cases found : envKeys.find? (fun other => other.start.isPrefixOf (assignment want key)) with
  | none =>
      rw [List.find?_eq_none] at found
      exact absurd (List.isPrefixOf_iff_prefix.mpr begins) (found key (mem_envKeys key))
  | some other =>
      have matched := List.find?_some found
      have otherBegins := List.isPrefixOf_iff_prefix.mp matched
      have apart := List.all_eq_true.mp
        (List.all_eq_true.mp start_incomparable key (mem_envKeys key)) other (mem_envKeys other)
      simp only [Bool.or_eq_true, decide_eq_true_eq, Bool.and_eq_true, Bool.not_eq_true'] at apart
      rcases apart with same | ⟨left, right⟩
      · rw [same]
      · rcases List.prefix_or_prefix_of_prefix begins otherBegins with within | within
        · rw [List.isPrefixOf_iff_prefix.mpr within] at left
          cases left
        · rw [List.isPrefixOf_iff_prefix.mpr within] at right
          cases right

theorem stripChars_line {word : List Char} (solid : ∀ char ∈ word, isSpace char = false) :
    stripChars (word ++ ['\n']) = word := by
  have front : (word ++ ['\n']).dropWhile isSpace = word ++ ['\n'] ∨ word = [] := by
    cases word with
    | nil => exact Or.inr rfl
    | cons char rest =>
        left
        rw [List.cons_append, List.dropWhile_cons_of_neg]
        simp [solid char List.mem_cons_self]
  rcases front with kept | rfl
  · rw [stripChars, kept, List.rdropWhile_concat_pos _ _ _ (by decide),
      (stripChars_of_ends (fun char first => solid char (List.mem_of_mem_head? first))
        (fun char last => solid char (List.mem_of_mem_getLast? last))).2.1]
  · decide

theorem lineValue_assignment {want : EnvKey → Int} {key : EnvKey}
    (short : (want key).natAbs < 10 ^ maxStrDigits) :
    lineValue (assignment want key) = some (want key) := by
  have split : assignment want key =
      key.name.toList ++ '=' :: ((toString (want key)).toList ++ ['\n']) := by
    simp only [assignment, EnvKey.start, List.append_assoc, List.cons_append,
      List.nil_append]
  have named : '=' ∉ key.name.toList := by cases key <;> decide
  have solid : ∀ char ∈ (toString (want key)).toList, isSpace char = false :=
    fun char member => isSpace_of_isIntegerChar (isIntegerChar_of_mem member)
  have uncommented : '#' ∉ (toString (want key)).toList := by
    intro member
    exact absurd (isIntegerChar_of_mem member) (by decide)
  unfold lineValue
  rw [split, partition_append named, stripChars_line solid, partition_of_not_mem uncommented]
  rw [(stripChars_of_ends (fun char first => solid char (List.mem_of_mem_head? first))
    (fun char last => solid char (List.mem_of_mem_getLast? last))).2.2]
  exact intOfChars_toString short

/-- The last line of a key counts; here they all say the same. -/
theorem foldl_readLine {want : EnvKey → Int} {lines : List (List Char)}
    (agree : ∀ line ∈ lines, ∀ key, lineKey line = some key → lineValue line = some (want key))
    (current : EnvParams) (key : EnvKey) :
    lines.foldl readLine current key =
      if lines.any (fun line => lineKey line = some key) then some (want key)
      else current key := by
  induction lines generalizing current with
  | nil => rfl
  | cons line rest ih =>
      rw [List.foldl_cons, ih (fun other member => agree other (List.mem_cons_of_mem line member)),
        List.any_cons]
      by_cases later : rest.any (fun line => lineKey line = some key) = true
      · simp [later]
      · unfold readLine
        cases found : lineKey line with
        | none => simp [later]
        | some other =>
            rw [agree line List.mem_cons_self other found]
            by_cases same : key = other
            · subst same
              simp [later]
            · simp [later, same, Ne.symm same]

theorem lineKey_replacedLine (want : EnvKey → Int) (line : List Char) :
    lineKey (replacedLine want line) = lineKey line := by
  unfold replacedLine
  cases found : lineKey line with
  | none => exact found
  | some key => exact lineKey_assignment want key

/-- The lines written hold exactly what was wanted, whatever the file held before. -/
theorem heldLines_rewrittenLines {order : List EnvKey} (ordered : order.Perm envKeys)
    {want : EnvKey → Int} (short : ∀ key, (want key).natAbs < 10 ^ maxStrDigits)
    (lines : List (List Char)) :
    heldLines (rewrittenLines order want lines) = complete want := by
  have agree : ∀ line ∈ rewrittenLines order want lines, ∀ key, lineKey line = some key →
      lineValue line = some (want key) := by
    intro line member key found
    rcases List.mem_append.mp member with replaced | added
    · obtain ⟨old, _, rfl⟩ := List.mem_map.mp replaced
      rw [lineKey_replacedLine] at found
      rw [replacedLine, found]
      exact lineValue_assignment (short key)
    · obtain ⟨other, _, rfl⟩ := List.mem_map.mp added
      rw [lineKey_assignment] at found
      obtain rfl := Option.some.inj found
      exact lineValue_assignment (short other)
  have every : ∀ key, (rewrittenLines order want lines).any
      (fun line => lineKey line = some key) = true := by
    intro key
    rw [rewrittenLines, List.any_append, Bool.or_eq_true]
    by_cases present : lines.any (fun line => lineKey line = some key) = true
    · left
      rw [List.any_map]
      simpa only [Function.comp_def, lineKey_replacedLine] using present
    · right
      rw [List.any_eq_true]
      refine ⟨assignment want key, List.mem_map_of_mem (List.mem_filter.mpr ⟨?_, ?_⟩), ?_⟩
      · exact ordered.symm.subset (mem_envKeys key)
      · rw [Bool.not_eq_true] at present
        rw [present, Bool.not_false]
      · exact decide_eq_true (lineKey_assignment want key)
  funext key
  rw [heldLines, foldl_readLine agree, every key, if_pos rfl, complete]

theorem isIntegerChar_breaks : isIntegerChar '\n' = false ∧ isIntegerChar '\r' = false := by
  decide

theorem assignment_full (want : EnvKey → Int) (key : EnvKey) : FullLine (assignment want key) := by
  refine ⟨key.start ++ (toString (want key)).toList, rfl, ?_⟩
  intro broken
  rcases List.mem_append.mp broken with named | printed
  · exact absurd named (by cases key <;> decide)
  · exact Bool.noConfusion ((isIntegerChar_of_mem printed).symm.trans isIntegerChar_breaks.1)

theorem assignment_free (want : EnvKey → Int) (key : EnvKey) : '\r' ∉ assignment want key := by
  intro member
  rcases List.mem_append.mp member with content | ending
  · rcases List.mem_append.mp content with named | printed
    · exact absurd named (by cases key <;> decide)
    · exact Bool.noConfusion ((isIntegerChar_of_mem printed).symm.trans isIntegerChar_breaks.2)
  · exact absurd ending (by decide)

theorem readLine_free {file line : List Char} (member : line ∈ readLines file) : '\r' ∉ line := by
  intro broken
  apply not_mem_universalNewlines file
  rw [← keptLines_flatten_eq (universalNewlines file)]
  exact List.mem_flatten_of_mem member broken

theorem rewrittenLines_cases {order : List EnvKey} {want : EnvKey → Int}
    {lines : List (List Char)} {line : List Char} (member : line ∈ rewrittenLines order want lines) :
    line ∈ lines ∨ ∃ key, line = assignment want key := by
  rcases List.mem_append.mp member with replaced | added
  · obtain ⟨old, stored, rfl⟩ := List.mem_map.mp replaced
    unfold replacedLine
    cases found : lineKey old with
    | none => exact Or.inl stored
    | some key => exact Or.inr ⟨key, rfl⟩
  · obtain ⟨key, _, rfl⟩ := List.mem_map.mp added
    exact Or.inr ⟨key, rfl⟩

/-- The lines that are written are those that are read again. -/
theorem readLines_rewritten {order : List EnvKey} {want : EnvKey → Int} {file : List Char}
    (ended : EndedFile file) :
    readLines (rewritten order want file) = rewrittenLines order want (readLines file) := by
  have free : '\r' ∉ rewritten order want file := by
    intro member
    obtain ⟨line, written, broken⟩ := List.mem_flatten.mp member
    rcases rewrittenLines_cases written with kept | ⟨key, rfl⟩
    · exact readLine_free kept broken
    · exact assignment_free want key broken
  rw [readLines, universalNewlines_of_not_mem free, rewritten, keptLines_flatten]
  intro line written
  rcases rewrittenLines_cases written with kept | ⟨key, rfl⟩
  · exact ended line kept
  · exact assignment_full want key

/-! ### The container follows the file -/

/-- A call that writes nothing leaves a container that runs what was wanted. -/
def IdleMeansRunning (node : NodeEnv) (cycle : SyncCycle) : Prop :=
  ∀ want, calledFor cycle = some want → (syncObfuscation cycle node).1 = .idle →
    node.running = complete want

/-- The container runs what the env file holds. -/
def InStep (node : NodeEnv) : Prop := node.running = held node.file

/-- What a failed write, or a restart that fails after the write, leaves in the file. -/
def leftInFile (cycle : SyncCycle) (want : EnvKey → Int) (node : NodeEnv) : List Char :=
  cycle.writeFailure.getD (rewritten cycle.order.1 want node.file)

/-- The condition on a cycle.  The file can be read, and when it has to be written both the
write and the restart succeed; or the container happens to run the right parameters already. -/
def syncSucceeds (node : NodeEnv) (cycle : SyncCycle) : Bool :=
  match calledFor cycle with
  | none => true
  | some want =>
      if cycle.readable then
        held node.file = complete want || (cycle.writeFailure = none && cycle.restarted) ||
          node.running = held (leftInFile cycle want node)
      else node.running = complete want

theorem writeAndRestart_inStep (cycle : SyncCycle) (want : EnvKey → Int) (node : NodeEnv) :
    InStep (writeAndRestart cycle want node) ↔
      (cycle.writeFailure = none ∧ cycle.restarted = true) ∨
        node.running = held (leftInFile cycle want node) := by
  unfold InStep writeAndRestart leftInFile
  cases cycle.writeFailure with
  | some left => simp
  | none => cases cycle.restarted <;> simp

theorem sync_exact (node : NodeEnv) (cycle : SyncCycle) (inStep : InStep node) :
    IdleMeansRunning node cycle ∧ InStep (syncStep node cycle) ↔
      syncSucceeds node cycle = true := by
  unfold IdleMeansRunning syncStep syncSucceeds
  cases called : calledFor cycle with
  | none =>
      obtain ⟨busy, same⟩ := @syncObfuscation_uncalled cycle node called
      rw [same]
      simp [inStep]
  | some want =>
      rw [syncObfuscation_called called]
      simp only [Option.some.injEq, forall_eq']
      cases readable : cycle.readable with
      | false => simp [inStep]
      | true =>
          by_cases same : held node.file = complete want
          · have running : node.running = complete want := inStep.trans same
            simp [same, inStep, running]
          · simp [same, writeAndRestart_inStep]

/-- A call that writes and restarts ends with the wanted parameters, in the file and in the
container. -/
theorem written_parameters_run {cycle : SyncCycle} {node : NodeEnv} {want : EnvKey → Int}
    (short : ∀ key, (want key).natAbs < 10 ^ maxStrDigits) (ended : EndedFile node.file)
    (called : calledFor cycle = some want) (readable : cycle.readable = true)
    (written : cycle.writeFailure = none) (restarted : cycle.restarted = true)
    (inStep : InStep node) :
    (syncStep node cycle).running = complete want ∧
      held (syncStep node cycle).file = complete want ∧ EndedFile (syncStep node cycle).file := by
  have holds : held (rewritten cycle.order.1 want node.file) = complete want := by
    rw [held, readLines_rewritten ended]
    exact heldLines_rewrittenLines cycle.order.2 short _
  rw [syncStep, syncObfuscation_called called]
  by_cases same : held node.file = complete want
  · rw [if_neg (fun both => both.2 same)]
    exact ⟨inStep.trans same, same, ended⟩
  · rw [if_pos ⟨readable, same⟩]
    simp only [writeAndRestart, written, restarted, if_true]
    refine ⟨holds, holds, ?_⟩
    intro line member
    rw [readLines_rewritten ended] at member
    rcases rewrittenLines_cases member with kept | ⟨key, rfl⟩
    · exact ended line kept
    · exact assignment_full want key

/-- Over any run of cycles the container follows the env file exactly when every sync
succeeds. -/
theorem obfuscation_follows_file_iff (start : NodeEnv) (cycles : List SyncCycle)
    (inStep : InStep start) :
    EveryStep syncStep start cycles IdleMeansRunning ∧ EveryState syncStep start cycles InStep ↔
      EveryStep syncStep start cycles (fun node cycle => syncSucceeds node cycle = true) :=
  everyStep_and_everyState_iff sync_exact inStep

/-- A node that runs the default parameters. -/
def defaultNode : NodeEnv where
  file := (envKeys.map (assignment (fun key => key.field.2))).flatten
  running := complete (fun key => key.field.2)

/-- A cycle that wants another `S1`. -/
def changedS1 (restarted : Bool) : SyncCycle where
  obfuscationFull := some (Dict.ofList [("s1", .int 100)])
  runtimeOk := true
  readable := true
  writeFailure := none
  restarted := restarted
  order := ⟨envKeys, List.Perm.refl envKeys⟩

theorem defaultNode_inStep : InStep defaultNode := by
  unfold InStep
  decide +kernel

theorem obfuscation_follows_file_iff_default :
    InStep defaultNode ∧
      (EveryStep syncStep defaultNode [changedS1 true] IdleMeansRunning ∧
          EveryState syncStep defaultNode [changedS1 true] InStep ↔
        EveryStep syncStep defaultNode [changedS1 true]
          (fun node cycle => syncSucceeds node cycle = true)) :=
  ⟨defaultNode_inStep,
    obfuscation_follows_file_iff defaultNode [changedS1 true] defaultNode_inStep⟩

/-- The restart fails, and the next cycle finds nothing to do. -/
theorem failed_restart_is_not_repeated :
    InStep defaultNode ∧
      ¬ EveryStep syncStep defaultNode [changedS1 false, changedS1 true] IdleMeansRunning := by
  refine ⟨defaultNode_inStep, ?_⟩
  intro every
  have second := every [changedS1 false] (changedS1 true) [] rfl
    (fun key => if key = .s1 then 100 else key.field.2)
  have called : calledFor (changedS1 true) =
      some (fun key => if key = .s1 then 100 else key.field.2) := by
    decide +kernel
  have idle : (syncObfuscation (changedS1 true)
      ([changedS1 false].foldl syncStep defaultNode)).1 = .idle := by
    decide +kernel
  have stale : ([changedS1 false].foldl syncStep defaultNode).running .s1 = some 213 := by
    decide +kernel
  rw [second called idle] at stale
  exact absurd stale (by decide)

end VpnSuite.Agent
