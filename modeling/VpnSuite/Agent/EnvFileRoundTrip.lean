/-
What the agent writes to the env file, read again (`_apply_obfuscation_full_to_env` in
`node-agent/agent.py`).

The lines of the known keys are replaced and the missing keys appended to the lines as
`readlines` returns them.  A last line without a line break is followed at once by what is
appended.
-/

import VpnSuite.Agent.ObfuscationSync

set_option autoImplicit false

namespace VpnSuite.Agent

open Foundations
open Foundations.PythonText

/-! ### One call on a file that can be read and written -/

inductive FileSync where
  | raised
  | unchanged
  | written (file : List Char)
  deriving DecidableEq, Repr

/-- `str(value)` returns. -/
def isPrintable (value : Int) : Bool := value.natAbs < 10 ^ maxStrDigits

/-- The order in which Python iterates over the set of missing keys. -/
abbrev KeyOrder := { keys : List EnvKey // keys.Perm envKeys }

/-- The call up to the restart.  Every key is printed, on its lines or after them. -/
def syncedFile (order : KeyOrder) (obf : Dict String Json) (file : List Char) : FileSync :=
  match wantedParams obf with
  | .error _ => .raised
  | .ok want =>
      if held file = complete want then .unchanged
      else if envKeys.all (fun key => isPrintable (want key)) then
        .written (rewritten order.1 want file)
      else .raised

/-- A line without its line break. -/
def lineText (line : List Char) : List Char := line.takeWhile (fun char => char ≠ '\n')

/-- The texts of the lines that begin with none of the keys. -/
def otherLines (file : List Char) : List (List Char) :=
  ((readLines file).filter (fun line => lineKey line = none)).map lineText

/-- What a write has to leave: a file that holds what was wanted, so that the next call has
nothing to do, with the other lines in their order. -/
structure EnvFileLaw (obf : Dict String Json) (file result : List Char) : Prop where
  holds : ∀ want, wantedParams obf = .ok want → held result = complete want
  settled : ∀ order, syncedFile order obf result = .unchanged
  others : (otherLines file).Sublist ((readLines result).map lineText)

/-- The condition: a last line that has no line break and begins with no key stands in a file
with all the keys. -/
def EndsApart (file : List Char) : Prop :=
  ∀ front last, readLines file = front ++ [last] → '\n' ∉ last → lineKey last = none →
    ∀ key, ∃ line ∈ readLines file, lineKey line = some key

/-! ### Lines of a file -/

/-- Lines of which only the last may lack its line break. -/
inductive WellEnded : List (List Char) → Prop
  | nil : WellEnded []
  | last {line : List Char} (nonempty : line ≠ []) (unbroken : '\n' ∉ line) : WellEnded [line]
  | cons {line : List Char} {rest : List (List Char)} (full : FullLine line)
      (later : WellEnded rest) : WellEnded (line :: rest)

theorem keptLines_wellEnded (chars : List Char) : WellEnded (keptLines chars) := by
  induction chars with
  | nil => exact .nil
  | cons char rest ih =>
      rw [keptLines]
      split
      · exact .cons ⟨[], rfl, List.not_mem_nil⟩ ih
      · rename_i different
        cases lines : keptLines rest with
        | nil =>
            refine .last (List.cons_ne_nil char []) ?_
            rw [List.mem_singleton]
            exact Ne.symm different
        | cons line others =>
            rw [lines] at ih
            cases ih with
            | last nonempty unbroken =>
                refine .last (List.cons_ne_nil char line) ?_
                rw [List.mem_cons, not_or]
                exact ⟨Ne.symm different, unbroken⟩
            | cons full later =>
                obtain ⟨body, rfl, unbroken⟩ := full
                refine .cons ⟨char :: body, rfl, ?_⟩ later
                rw [List.mem_cons, not_or]
                exact ⟨Ne.symm different, unbroken⟩

theorem keptLines_unbroken {line : List Char} (nonempty : line ≠ []) (unbroken : '\n' ∉ line) :
    keptLines line = [line] := by
  induction line with
  | nil => exact absurd rfl nonempty
  | cons char rest ih =>
      rw [List.mem_cons, not_or] at unbroken
      rw [keptLines, if_neg (Ne.symm unbroken.1)]
      cases rest with
      | nil => rfl
      | cons next others => rw [ih (List.cons_ne_nil next others) unbroken.2]

theorem WellEnded.keptLines_flatten {lines : List (List Char)} (ended : WellEnded lines) :
    keptLines lines.flatten = lines := by
  induction ended with
  | nil => rfl
  | last nonempty unbroken =>
      rw [List.flatten_singleton, keptLines_unbroken nonempty unbroken]
  | cons full later ih =>
      obtain ⟨body, rfl, unbroken⟩ := full
      rw [List.flatten_cons, List.append_assoc, List.singleton_append, keptLines_full unbroken, ih]

theorem WellEnded.append {lines others : List (List Char)} (full : ∀ line ∈ lines, FullLine line)
    (ended : WellEnded others) : WellEnded (lines ++ others) := by
  induction lines with
  | nil => exact ended
  | cons line rest ih =>
      exact .cons (full line List.mem_cons_self)
        (ih (fun other member => full other (List.mem_cons_of_mem line member)))

theorem WellEnded.of_full {lines : List (List Char)} (full : ∀ line ∈ lines, FullLine line) :
    WellEnded lines := by
  rw [← List.append_nil lines]
  exact .append full .nil

/-- Either every line has its line break, or the last one has none. -/
theorem WellEnded.cases_last {lines : List (List Char)} (ended : WellEnded lines) :
    (∀ line ∈ lines, FullLine line) ∨
      ∃ front last, lines = front ++ [last] ∧ (∀ line ∈ front, FullLine line) ∧ last ≠ [] ∧
        '\n' ∉ last := by
  induction ended with
  | nil => exact Or.inl nofun
  | @last line nonempty unbroken => exact Or.inr ⟨[], line, rfl, nofun, nonempty, unbroken⟩
  | @cons line rest full later ih =>
      rcases ih with all | ⟨front, last, rfl, others, nonempty, unbroken⟩
      · exact Or.inl (List.forall_mem_cons.mpr ⟨full, all⟩)
      · exact Or.inr ⟨line :: front, last, rfl, List.forall_mem_cons.mpr ⟨full, others⟩, nonempty,
          unbroken⟩

/-! ### What is written -/

section Written

variable {order : List EnvKey} {want : EnvKey → Int} {file : List Char}

theorem replacedLine_full {line : List Char} (full : FullLine line) :
    FullLine (replacedLine want line) := by
  unfold replacedLine
  split
  · exact full
  · exact assignment_full want _

theorem readLines_of_wellEnded {lines : List (List Char)} (free : ∀ line ∈ lines, '\r' ∉ line)
    (ended : WellEnded lines) : readLines lines.flatten = lines := by
  have unreturned : '\r' ∉ lines.flatten := by
    intro member
    obtain ⟨line, listed, inLine⟩ := List.mem_flatten.mp member
    exact free line listed inLine
  rw [readLines, universalNewlines_of_not_mem unreturned, ended.keptLines_flatten]

theorem mem_missingKeys (ordered : order.Perm envKeys) {lines : List (List Char)} {key : EnvKey} :
    key ∈ missingKeys order lines ↔ ∀ line ∈ lines, lineKey line ≠ some key := by
  have listed : key ∈ order := ordered.symm.subset (mem_envKeys key)
  simp only [missingKeys, List.mem_filter, listed, true_and, Bool.not_eq_true', List.any_eq_false,
    decide_eq_true_eq, ne_eq]

/-- Under the condition the lines that are written are those that are read again. -/
theorem readLines_rewritten_apart (want : EnvKey → Int) (ordered : order.Perm envKeys)
    (apart : EndsApart file) :
    readLines (rewritten order want file) = rewrittenLines order want (readLines file) := by
  apply readLines_of_wellEnded
  · intro line written
    rcases rewrittenLines_cases written with kept | ⟨key, rfl⟩
    · exact readLine_free kept
    · exact assignment_free want key
  · have assigned : ∀ line ∈ (missingKeys order (readLines file)).map (assignment want),
        FullLine line := by
      intro line added
      obtain ⟨key, _, rfl⟩ := List.mem_map.mp added
      exact assignment_full want key
    rcases (keptLines_wellEnded (universalNewlines file)).cases_last with
      all | ⟨front, last, whole, others, nonempty, unbroken⟩
    · refine .append ?_ (.of_full assigned)
      intro line replaced
      obtain ⟨old, listed, rfl⟩ := List.mem_map.mp replaced
      exact replacedLine_full (all old listed)
    · have isLines : readLines file = front ++ [last] := whole
      have frontFull : ∀ line ∈ front.map (replacedLine want), FullLine line := by
        intro line replaced
        obtain ⟨old, listed, rfl⟩ := List.mem_map.mp replaced
        exact replacedLine_full (others old listed)
      cases begins : lineKey last with
      | some key =>
          have lastFull : FullLine (replacedLine want last) := by
            rw [replacedLine, begins]
            exact assignment_full want key
          refine .append ?_ (.of_full assigned)
          rw [isLines, List.map_append]
          intro line replaced
          rcases List.mem_append.mp replaced with inFront | isLast
          · exact frontFull line inFront
          · rw [List.map_singleton, List.mem_singleton] at isLast
            rw [isLast]
            exact lastFull
      | none =>
          have noneMissing : missingKeys order (readLines file) = [] := by
            rw [List.eq_nil_iff_forall_not_mem]
            intro key missing
            obtain ⟨line, listed, isKey⟩ := apart front last isLines unbroken begins key
            exact (mem_missingKeys ordered).mp missing line listed isKey
          rw [rewrittenLines, noneMissing, isLines, List.map_append, List.map_singleton,
            List.map_nil, List.append_nil, replacedLine, begins]
          exact .append frontFull (.last nonempty unbroken)

/-- The other lines stay, in their order. -/
theorem others_sublist (lines : List (List Char)) :
    (lines.filter (fun line => lineKey line = none)).Sublist (rewrittenLines order want lines) := by
  have kept : lines.filter (fun line => lineKey line = none) =
      (lines.map (replacedLine want)).filter (fun line => lineKey line = none) := by
    induction lines with
    | nil => rfl
    | cons line rest ih =>
        rw [List.map_cons, List.filter_cons, List.filter_cons, lineKey_replacedLine, ih]
        split
        · rename_i other
          rw [replacedLine, of_decide_eq_true other]
        · rfl
  rw [kept, rewrittenLines]
  exact List.filter_sublist.trans (List.sublist_append_left _ _)

/-! ### A last line that runs into the next -/

theorem start_tail : ∀ key : EnvKey, 'A' ∉ key.start.tail := by
  intro key
  cases key <;> decide

theorem assignment_head? (want : EnvKey → Int) (key : EnvKey) :
    (assignment want key).head? = some 'A' := by
  cases key <;> rfl

/-- A line that begins with no key begins with none when an assignment follows it. -/
theorem lineKey_glued {last : List Char} (nonempty : last ≠ []) (other : lineKey last = none)
    (key : EnvKey) : lineKey (last ++ assignment want key) = none := by
  rw [lineKey, List.find?_eq_none] at other ⊢
  intro name listed begins
  have isPrefix := List.isPrefixOf_iff_prefix.mp begins
  have notLast : ¬ name.start <+: last :=
    fun short => other name listed (List.isPrefixOf_iff_prefix.mpr short)
  rcases List.prefix_or_prefix_of_prefix isPrefix (List.prefix_append last _) with short | long
  · exact notLast short
  · obtain ⟨rest, whole⟩ := long
    obtain ⟨first, others, rfl⟩ := List.exists_cons_of_ne_nil nonempty
    cases rest with
    | nil =>
        rw [List.append_nil] at whole
        exact notLast (whole ▸ List.prefix_rfl)
    | cons char more =>
        rw [← whole] at isPrefix
        have follows := (List.prefix_append_right_inj _).mp isPrefix
        obtain ⟨tail, isAssignment⟩ := follows
        have first' := assignment_head? want key
        rw [← isAssignment, List.cons_append, List.head?_cons] at first'
        have inTail : 'A' ∈ name.start.tail := by
          rw [← whole, ← Option.some.inj first', List.cons_append, List.tail_cons]
          exact List.mem_append_right _ List.mem_cons_self
        exact start_tail name inTail

theorem foldl_readLine_absent {lines : List (List Char)} {key : EnvKey}
    (absent : ∀ line ∈ lines, lineKey line ≠ some key) (current : EnvParams) :
    lines.foldl readLine current key = current key := by
  induction lines generalizing current with
  | nil => rfl
  | cons line rest ih =>
      rw [List.foldl_cons, ih (fun other member => absent other (List.mem_cons_of_mem line member))]
      unfold readLine
      cases isKey : lineKey line with
      | none => rfl
      | some other =>
          have different : key ≠ other := by
            rintro rfl
            exact absent line List.mem_cons_self isKey
          cases lineValue line with
          | none => rfl
          | some value => exact Function.update_of_ne different _ _

/-- Without the condition the first key that is appended is not read again. -/
theorem held_glued (want : EnvKey → Int) (ordered : order.Perm envKeys)
    {front : List (List Char)} {last : List Char}
    (whole : readLines file = front ++ [last]) (others : ∀ line ∈ front, FullLine line)
    (nonempty : last ≠ []) (unbroken : '\n' ∉ last) (other : lineKey last = none)
    {missing : EnvKey} {more : List EnvKey}
    (keys : missingKeys order (readLines file) = missing :: more) :
    held (rewritten order want file) missing = none := by
  have written : rewritten order want file =
      (front.map (replacedLine want) ++ [last ++ assignment want missing] ++
        more.map (assignment want)).flatten := by
    have kept : replacedLine want last = last := by rw [replacedLine, other]
    rw [rewritten, rewrittenLines, keys, whole, List.map_append, List.map_singleton, kept]
    simp
  have frontListed : ∀ line ∈ front, line ∈ readLines file := by
    intro line member
    rw [whole]
    exact List.mem_append_left _ member
  have lastListed : last ∈ readLines file := by
    rw [whole]
    exact List.mem_append_right _ List.mem_cons_self
  have lines : readLines (rewritten order want file) =
      front.map (replacedLine want) ++ [last ++ assignment want missing] ++
        more.map (assignment want) := by
    rw [written]
    apply readLines_of_wellEnded
    · intro line member
      rcases List.mem_append.mp member with before | added
      · rcases List.mem_append.mp before with replaced | glued
        · obtain ⟨old, listed, rfl⟩ := List.mem_map.mp replaced
          rw [replacedLine]
          split
          · exact readLine_free (frontListed old listed)
          · exact assignment_free want _
        · rw [List.mem_singleton.mp glued, List.mem_append, not_or]
          exact ⟨readLine_free lastListed, assignment_free want missing⟩
      · obtain ⟨key, _, rfl⟩ := List.mem_map.mp added
        exact assignment_free want key
    · apply WellEnded.of_full
      intro line member
      rcases List.mem_append.mp member with before | added
      · rcases List.mem_append.mp before with replaced | glued
        · obtain ⟨old, listed, rfl⟩ := List.mem_map.mp replaced
          exact replacedLine_full (others old listed)
        · rw [List.mem_singleton.mp glued]
          obtain ⟨body, isBody, plain⟩ := assignment_full want missing
          refine ⟨last ++ body, by rw [isBody, List.append_assoc], ?_⟩
          rw [List.mem_append, not_or]
          exact ⟨unbroken, plain⟩
      · obtain ⟨key, _, rfl⟩ := List.mem_map.mp added
        exact assignment_full want key
  have isMissing : missing ∈ missingKeys order (readLines file) := by
    rw [keys]
    exact List.mem_cons_self
  have distinct : (missing :: more).Nodup := by
    rw [← keys]
    have once : envKeys.Nodup := by decide
    exact (ordered.symm.nodup once).sublist List.filter_sublist
  rw [held, lines, heldLines, foldl_readLine_absent]
  intro line member
  rcases List.mem_append.mp member with before | added
  · rcases List.mem_append.mp before with replaced | glued
    · obtain ⟨old, listed, rfl⟩ := List.mem_map.mp replaced
      rw [lineKey_replacedLine]
      exact (mem_missingKeys ordered).mp isMissing old (frontListed old listed)
    · rw [List.mem_singleton.mp glued, lineKey_glued nonempty other]
      intro same
      cases same
  · obtain ⟨key, listed, rfl⟩ := List.mem_map.mp added
    rw [lineKey_assignment]
    rintro ⟨⟩
    exact (List.nodup_cons.mp distinct).1 listed

end Written

/-! ### The round trip -/

theorem syncedFile_written {order : KeyOrder} {obf : Dict String Json} {file result : List Char} :
    syncedFile order obf file = .written result ↔
      ∃ want, wantedParams obf = .ok want ∧ held file ≠ complete want ∧
        (∀ key, (want key).natAbs < 10 ^ maxStrDigits) ∧ result = rewritten order.1 want file := by
  unfold syncedFile
  cases wantedParams obf with
  | error raised => exact iff_of_false nofun (fun found => nomatch found.choose_spec.1)
  | ok want =>
      dsimp only
      have printable : envKeys.all (fun key => isPrintable (want key)) = true ↔
          ∀ key, (want key).natAbs < 10 ^ maxStrDigits := by
        simp only [List.all_eq_true, mem_envKeys, true_implies, isPrintable, decide_eq_true_eq]
      constructor
      · intro written
        split at written
        · cases written
        · rename_i differs
          split at written
          · rename_i shown
            obtain rfl := FileSync.written.inj written
            exact ⟨want, rfl, differs, printable.mp shown, rfl⟩
          · cases written
      · rintro ⟨_, ⟨⟩, differs, short, rfl⟩
        rw [if_neg differs, if_pos (printable.mpr short)]

/-- The whole call writes what this one says, and nothing else when the file is as wanted. -/
theorem applyObfuscationFullToEnv_file (cycle : SyncCycle) (obf : Dict String Json) (node : NodeEnv)
    (readable : cycle.readable = true) (writable : cycle.writeFailure = none) :
    (∀ result, syncedFile cycle.order obf node.file = .written result →
      (applyObfuscationFullToEnv cycle obf node).1 = .attempted ∧
        (applyObfuscationFullToEnv cycle obf node).2.file = result) ∧
    (syncedFile cycle.order obf node.file = .unchanged →
      applyObfuscationFullToEnv cycle obf node = (.idle, node)) := by
  constructor
  · intro result written
    obtain ⟨want, wanted, differs, _, rfl⟩ := syncedFile_written.mp written
    simp only [applyObfuscationFullToEnv, wanted, readable, Bool.not_true, if_neg differs,
      writeAndRestart, writable]
    refine ⟨rfl, ?_⟩
    cases cycle.restarted <;> rfl
  · intro unchanged
    unfold syncedFile at unchanged
    cases wanted : wantedParams obf with
    | error raised =>
        rw [wanted] at unchanged
        cases unchanged
    | ok want =>
        rw [wanted] at unchanged
        dsimp only at unchanged
        split at unchanged
        · rename_i same
          simp only [applyObfuscationFullToEnv, wanted, readable, Bool.not_true, same, if_true]
          rfl
        · split at unchanged <;> cases unchanged

/-- A write leaves what it has to exactly when the last line of the file is apart from what is
appended. -/
theorem env_file_round_trip_iff (order : KeyOrder) (obf : Dict String Json)
    (file result : List Char) (written : syncedFile order obf file = .written result) :
    EnvFileLaw obf file result ↔ EndsApart file := by
  obtain ⟨want, wanted, _, short, rfl⟩ := syncedFile_written.mp written
  constructor
  · intro law front last whole unbroken other key
    by_contra absent
    have missing : key ∈ missingKeys order.1 (readLines file) :=
      (mem_missingKeys order.2).mpr (fun line listed isKey => absent ⟨line, listed, isKey⟩)
    obtain ⟨first, more, keys⟩ := List.exists_cons_of_ne_nil (List.ne_nil_of_mem missing)
    have frontFull : (∀ line ∈ front, FullLine line) ∧ last ≠ [] := by
      rcases (keptLines_wellEnded (universalNewlines file)).cases_last with
        all | ⟨otherFront, otherLast, otherWhole, full, nonempty, _⟩
      · have isFull := all last (by
          change last ∈ readLines file
          rw [whole]
          exact List.mem_append_right _ List.mem_cons_self)
        obtain ⟨body, rfl, _⟩ := isFull
        exact absurd (List.mem_append_right _ List.mem_cons_self) unbroken
      · have same := whole.symm.trans otherWhole
        obtain ⟨rfl, isLast⟩ := List.append_inj' same rfl
        obtain rfl := (List.cons.inj isLast).1
        exact ⟨full, nonempty⟩
    have lost := held_glued want order.2 whole frontFull.1 frontFull.2 unbroken other keys
    rw [law.holds want wanted] at lost
    cases lost
  · intro apart
    have lines := readLines_rewritten_apart want order.2 apart
    have holds : held (rewritten order.1 want file) = complete want := by
      rw [held, lines]
      exact heldLines_rewrittenLines order.2 short _
    refine ⟨?_, ?_, ?_⟩
    · intro other asked
      rw [wanted] at asked
      obtain rfl := Except.ok.inj asked
      exact holds
    · intro nextOrder
      rw [syncedFile, wanted]
      exact if_pos holds
    · rw [otherLines, lines]
      exact (others_sublist (readLines file)).map lineText

def sampleOrder : KeyOrder := ⟨envKeys, List.Perm.refl envKeys⟩

def sampleObfuscation : Dict String Json := Dict.ofList [("s1", .int 100)]

/-- A file of a comment and one key twice, the last time without a line break. -/
def sampleEnvFile : List Char := "# node\nAWG_S1=5\nAWG_S1=6".toList

def sampleEnvResult : List Char :=
  ("# node\nAWG_S1=100\nAWG_S1=100\nAWG_S2=237\nAWG_Jc=3\nAWG_Jmin=10\nAWG_Jmax=50\n" ++
    "AWG_H1=0\nAWG_H2=0\nAWG_H3=0\nAWG_H4=0\n").toList

theorem env_file_round_trip_iff_sample :
    EnvFileLaw sampleObfuscation sampleEnvFile sampleEnvResult ↔ EndsApart sampleEnvFile :=
  env_file_round_trip_iff sampleOrder sampleObfuscation sampleEnvFile sampleEnvResult
    (by decide +kernel)

/-- A file of one line, without a line break: the first key is appended to that line. -/
theorem unended_line_swallows_key :
    ¬ (∀ order obf file result, syncedFile order obf file = .written result →
      EnvFileLaw obf file result) := by
  intro always
  have written : syncedFile sampleOrder sampleObfuscation "TZ=UTC".toList =
      .written (rewritten envKeys (fun key => if key = .s1 then 100 else key.field.2)
        "TZ=UTC".toList) := by
    decide +kernel
  obtain ⟨want, wanted, _⟩ := syncedFile_written.mp written
  have holds := congrFun ((always _ _ _ _ written).holds want wanted) .s1
  have lost : held (rewritten envKeys (fun key => if key = .s1 then 100 else key.field.2)
      "TZ=UTC".toList) .s1 = none := by
    decide +kernel
  rw [lost] at holds
  cases holds

end VpnSuite.Agent
