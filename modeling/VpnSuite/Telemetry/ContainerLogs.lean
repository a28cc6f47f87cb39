/-
The logs of a container (`services/docker_telemetry_service.py`, `services/docker_logs_service.py`,
`services/docker_engine_client.py`).

The end of each of the two streams is read from the daemon, as a text of lines that begin with
their times.  The daemon writes nanoseconds, of which microseconds are read.  The lines are merged
by them and cut again.  Messages are redacted, and what is left of one decides its severity.

A stream is what the daemon holds of it since the given time.  How dates are written and read is a
parameter; so are the letters beyond ASCII.
-/

import VpnSuite.Access.Redaction
import VpnSuite.Foundations.MergedTails
import VpnSuite.Runtime.DumpParsers

set_option autoImplicit false

namespace VpnSuite.Telemetry

open Foundations
open Foundations.PythonText
open VpnSuite.Access (atBoundary literal redactForLog)
open VpnSuite.Config (isLineBoundary splitLinesFrom)
open VpnSuite.Runtime (isBlank isSpace_of_isLineBoundary splitLinesFrom_lines)

/-- The first second of the year 1 and the last one of the year 9999, counted from the epoch. -/
def firstSecond : Int := -62135596800
def lastSecond : Int := 253402300799

/-- An entry of a stream, with its time in nanoseconds. -/
structure LogEntry where
  nanos : Int
  message : List Char
  dated : firstSecond ≤ nanos / 10 ^ 9 ∧ nanos / 10 ^ 9 ≤ lastSecond

inductive LogStream where
  | stdout
  | stderr
  deriving DecidableEq

inductive LogSeverity where
  | error
  | warn
  | info
  deriving DecidableEq

/-- A line of the answer, with its time in microseconds. -/
structure ContainerLogLine where
  ts : Int
  stream : LogStream
  severity : LogSeverity
  message : List Char
  deriving DecidableEq

/-- A number of so many decimal digits. -/
def fixedDigits : Nat → Nat → List Char
  | 0, _ => []
  | width + 1, number => fixedDigits width (number / 10) ++ [Nat.digitChar (number % 10)]

/-- How the daemon writes the date and the time of a second, and `datetime.fromisoformat`, which
comes to microseconds in UTC and takes UTC for a missing offset. -/
structure DateFormat where
  shown : Int → List Char
  fromIsoFormat : List Char → Option Int
  fromIsoFormat_shown : ∀ second (micros : Nat), firstSecond ≤ second → second ≤ lastSecond →
    micros < 10 ^ 6 →
    fromIsoFormat (shown second ++ '.' :: fixedDigits 6 micros ++ "+00:00".toList) =
      some (second * 10 ^ 6 + micros)
  shown_plain : ∀ second, ∀ char ∈ shown second, isSpace char = false ∧ char ≠ '.'

/-- What inspecting a container comes to: its log driver, or what is raised. -/
inductive LogDriver where
  | driver (name : Option String)
  | runtimeError
  | otherError

inductive LogsFailure where
  | notReadable
  | runtimeError
  | unavailable
  deriving DecidableEq

section Lines

variable (unicode : Char → Bool)

/-! ### Severity -/

/-- `\b(first|second|...)\b` somewhere in the text -/
def wordSomewhere (words : List String) : Option Char → List Char → Bool
  | _, [] => false
  | before, char :: rest =>
      (atBoundary unicode before (char :: rest) &&
        words.any (fun word =>
          (literal word (char :: rest)).any (fun parts =>
            atBoundary unicode parts.1.getLast? parts.2))) ||
      wordSomewhere words (some char) rest

def errorWords : List String := ["error", "exception", "fatal", "panic", "traceback"]
def warnWords : List String := ["warn", "warning", "degraded", "retry", "timeout"]

def classifyLogSeverity (message : List Char) : LogSeverity :=
  if wordSomewhere unicode errorWords none message then .error
  else if wordSomewhere unicode warnWords none message then .warn
  else .info

def toLogLine (stream : LogStream) (entry : Int × List Char) : ContainerLogLine :=
  let cleaned := redactForLog unicode (some entry.2)
  ⟨entry.1, stream, classifyLogSeverity unicode cleaned, cleaned⟩

end Lines

/-! ### Times -/

/-- The fraction of a second is cut to six digits. -/
def cutFraction (raw : List Char) : List Char :=
  if '.' ∈ raw then
    let (head, tail) := partition '.' raw
    if '+' ∈ tail then
      let (frac, rest) := partition '+' tail
      head ++ '.' :: frac.take 6 ++ '+' :: rest
    else if '-' ∈ tail then
      let (frac, rest) := partition '-' tail
      head ++ '.' :: frac.take 6 ++ '-' :: rest
    else head ++ '.' :: tail.take 6
  else raw

/-- `parse_docker_timestamp` -/
def parseDockerTimestamp (format : DateFormat) (value : List Char) : Option Int :=
  let raw := stripChars value
  if raw = [] then none
  else
    let zoned := if raw.getLast? = some 'Z' then raw.dropLast ++ "+00:00".toList else raw
    format.fromIsoFormat (cutFraction zoned)

/-- The time of an entry as the daemon writes it: nine digits behind the second, and `Z`. -/
def shownTime (format : DateFormat) (nanos : Int) : List Char :=
  format.shown (nanos / 10 ^ 9) ++ '.' :: fixedDigits 9 (nanos % 10 ^ 9).toNat ++ ['Z']

/-! ### Reading a stream -/

section Streams

variable (format : DateFormat)

def loggedLine (entry : LogEntry) : List Char :=
  shownTime format entry.nanos ++ ' ' :: entry.message ++ ['\n']

/-- The daemon's text of the last entries of a stream. -/
def rawLogs (tail : Nat) (log : List LogEntry) : List Char :=
  (log.rtake tail).flatMap (loggedLine format)

/-- A line without a space, or without a time in front of it, is passed over. -/
def readLogLine (line : List Char) : Option (Int × List Char) :=
  if ' ' ∈ line then
    (parseDockerTimestamp format (partition ' ' line).1).map
      (fun ts => (ts, (partition ' ' line).2))
  else none

def containerLogs (tail : Nat) (log : List LogEntry) : List (Int × List Char) :=
  ((splitLinesFrom [] (rawLogs format tail log)).filter
    (fun line => !isBlank line)).filterMap (readLogLine format)

/-! ### The endpoint -/

def readableDrivers : List String := ["json-file", "journald", "local"]

/-- The check of the log driver; an inspection that fails is passed over. -/
def checkDriver : LogDriver → Except LogsFailure Unit
  | .runtimeError => .error .runtimeError
  | .otherError => .ok ()
  | .driver name =>
      let driver := lower (strip (orDefault name ""))
      if driver ≠ "" ∧ driver ∉ readableDrivers then .error .notReadable else .ok ()

/-- `get_container_logs`; `answered` tells whether both streams were read in time. -/
def getContainerLogs (unicode : Char → Bool) (maxTail tail : Int) (inspected : LogDriver)
    (answered : Bool) (stdout stderr : List LogEntry) :
    Except LogsFailure (List ContainerLogLine) :=
  match checkDriver inspected with
  | .error failure => .error failure
  | .ok _ =>
      if answered then
        let boundedTail := (max 1 (min tail maxTail)).toNat
        let merged := (containerLogs format boundedTail stdout).map (toLogLine unicode .stdout) ++
          (containerLogs format boundedTail stderr).map (toLogLine unicode .stderr)
        .ok ((merged.mergeSort (fun left right => left.ts ≤ right.ts)).rtake boundedTail)
      else .error .unavailable

/-! ### What is read of a stream -/

section Reading

variable {format}

theorem take_fixedDigits (width dropped number : Nat) :
    (fixedDigits (width + dropped) number).take width =
      fixedDigits width (number / 10 ^ dropped) := by
  have length (count value : Nat) : (fixedDigits count value).length = count := by
    induction count generalizing value with
    | zero => rfl
    | succ count ih => rw [fixedDigits, List.length_append, ih, List.length_singleton]
  induction dropped generalizing number with
  | zero => rw [Nat.add_zero, Nat.pow_zero, Nat.div_one, List.take_of_length_le (length _ _).le]
  | succ dropped ih =>
      have short : width ≤ (fixedDigits (width + dropped) (number / 10)).length := by
        rw [length]
        omega
      rw [← Nat.add_assoc, fixedDigits, List.take_append_of_le_length short, ih,
        Nat.div_div_eq_div_mul, Nat.pow_succ']

theorem mem_fixedDigits {width number : Nat} {char : Char}
    (member : char ∈ fixedDigits width number) : char ∈ "0123456789".toList := by
  have digits : ∀ digit < 10, Nat.digitChar digit ∈ "0123456789".toList := by decide
  induction width generalizing number with
  | zero => cases member
  | succ width ih =>
      rcases List.mem_append.mp member with higher | last
      · exact ih higher
      · rw [List.mem_singleton.mp last]
        exact digits (number % 10) (Nat.mod_lt _ (by decide))

theorem shownTime_plain {nanos : Int} {char : Char} (shown : char ∈ shownTime format nanos) :
    isSpace char = false := by
  simp only [shownTime, List.mem_append, List.mem_cons] at shown
  rcases shown with (second | point | digit) | zone | none
  · exact (format.shown_plain _ char second).1
  · rw [point]
    rfl
  · have visible : "0123456789".toList.all (fun char => !isSpace char) = true := by decide
    simpa using List.all_eq_true.mp visible char (mem_fixedDigits digit)
  · rw [zone]
    rfl
  · cases none

theorem cutFraction_of {head frac rest : List Char} (whole : '.' ∉ head) (unsigned : '+' ∉ frac) :
    cutFraction (head ++ '.' :: (frac ++ '+' :: rest)) =
      head ++ '.' :: frac.take 6 ++ '+' :: rest := by
  have pointed : '.' ∈ head ++ '.' :: (frac ++ '+' :: rest) :=
    List.mem_append_right head List.mem_cons_self
  have zoned : '+' ∈ frac ++ '+' :: rest := List.mem_append_right frac List.mem_cons_self
  rw [cutFraction, if_pos pointed, partition_append whole]
  dsimp only
  rw [if_pos zoned, partition_append unsigned]

/-- Of a time of the daemon the whole microseconds are read. -/
theorem parseDockerTimestamp_shownTime {nanos : Int}
    (dated : firstSecond ≤ nanos / 10 ^ 9 ∧ nanos / 10 ^ 9 ≤ lastSecond) :
    parseDockerTimestamp format (shownTime format nanos) = some (nanos / 1000) := by
  have stripped : stripChars (shownTime format nanos) = shownTime format nanos := by
    refine (stripChars_of_ends ?_ ?_).2.2
    · intro char first
      exact shownTime_plain (List.mem_of_head? first)
    · intro char last
      exact shownTime_plain (List.mem_of_getLast? last)
  have some : shownTime format nanos ≠ [] := by simp [shownTime]
  have ends : (shownTime format nanos).getLast? = .some 'Z' := by
    rw [shownTime, List.getLast?_concat]
  have whole : '.' ∉ format.shown (nanos / 10 ^ 9) :=
    fun member => (format.shown_plain _ '.' member).2 rfl
  have unsigned : '+' ∉ fixedDigits 9 (nanos % 10 ^ 9).toNat := by
    intro member
    exact absurd (mem_fixedDigits member) (by decide)
  have fraction : (nanos % 10 ^ 9).toNat / 10 ^ 3 < 10 ^ 6 := by omega
  have zoned : (shownTime format nanos).dropLast ++ "+00:00".toList =
      format.shown (nanos / 10 ^ 9) ++
        '.' :: (fixedDigits 9 (nanos % 10 ^ 9).toNat ++ '+' :: "00:00".toList) := by
    rw [shownTime, List.dropLast_concat, List.append_assoc]
    rfl
  rw [parseDockerTimestamp]
  dsimp only
  rw [stripped, if_neg some, if_pos ends, zoned, cutFraction_of whole unsigned,
    take_fixedDigits 6 3]
  refine (format.fromIsoFormat_shown _ _ dated.1 dated.2 fraction).trans
    (congrArg Option.some ?_)
  omega

/-- A message that `splitlines` leaves in one piece. -/
def Unbroken (entry : LogEntry) : Prop := ∀ char ∈ entry.message, isLineBoundary char = false

instance (entry : LogEntry) : Decidable (Unbroken entry) := List.decidableBAll _ _

def entryText (format : DateFormat) (entry : LogEntry) : List Char :=
  shownTime format entry.nanos ++ ' ' :: entry.message

theorem entryText_whole {entry : LogEntry} (unbroken : Unbroken entry) :
    ∀ char ∈ entryText format entry, isLineBoundary char = false := by
  intro char member
  rcases List.mem_append.mp member with shown | rest
  · have visible := shownTime_plain shown
    cases broken : isLineBoundary char with
    | false => rfl
    | true => rw [isSpace_of_isLineBoundary broken] at visible; cases visible
  · rcases List.mem_cons.mp rest with space | message
    · rw [space]
      decide
    · exact unbroken char message

theorem entryText_visible (entry : LogEntry) : isBlank (entryText format entry) = false := by
  have zone : 'Z' ∈ entryText format entry :=
    List.mem_append_left _ (List.mem_append_right _ (List.mem_singleton_self 'Z'))
  have stays := mem_stripChars zone (by decide)
  unfold isBlank
  apply decide_eq_false
  intro nothing
  rw [nothing] at stays
  cases stays

theorem readLogLine_entryText (entry : LogEntry) :
    readLogLine format (entryText format entry) =
      some (entry.nanos / 1000, entry.message) := by
  have free : ' ' ∉ shownTime format entry.nanos := by
    intro member
    exact absurd (shownTime_plain member) (by decide)
  have spaced : ' ' ∈ entryText format entry :=
    List.mem_append_right _ List.mem_cons_self
  unfold readLogLine
  rw [if_pos spaced]
  unfold entryText
  rw [partition_append free, parseDockerTimestamp_shownTime entry.dated]
  rfl

theorem containerLogs_eq {log : List LogEntry} (unbroken : ∀ entry ∈ log, Unbroken entry)
    (tail : Nat) :
    containerLogs format tail log =
      (log.rtake tail).map (fun entry => (entry.nanos / 1000, entry.message)) := by
  have text : rawLogs format tail log =
      ((log.rtake tail).map (entryText format)).flatMap (fun line => line ++ ['\n']) := by
    rw [List.flatMap_map]
    rfl
  have whole : ∀ line ∈ (log.rtake tail).map (entryText format), ∀ char ∈ line,
      isLineBoundary char = false := by
    intro line member
    rcases List.mem_map.mp member with ⟨entry, listed, rfl⟩
    exact entryText_whole (unbroken entry (List.mem_of_mem_drop listed))
  have lines := splitLinesFrom_lines whole []
  rw [List.append_nil, splitLinesFrom, if_pos rfl, List.append_nil, ← text] at lines
  have visible : ((log.rtake tail).map (entryText format)).filter (fun line => !isBlank line) =
      (log.rtake tail).map (entryText format) := by
    apply List.filter_eq_self.mpr
    intro line member
    rcases List.mem_map.mp member with ⟨entry, _, rfl⟩
    rw [entryText_visible]
    rfl
  unfold containerLogs
  rw [lines, visible, List.filterMap_map]
  have read : readLogLine format ∘ entryText format =
      some ∘ fun entry => (entry.nanos / 1000, entry.message) := by
    funext entry
    exact readLogLine_entryText entry
  rw [read, List.filterMap_eq_map]

end Reading

/-- The line that is shown of an entry. -/
def shownLine (unicode : Char → Bool) (stream : LogStream) (entry : LogEntry) : ContainerLogLine :=
  toLogLine unicode stream (entry.nanos / 1000, entry.message)

/-- What is shown of a container are the last lines of its two whole streams, sorted by the
microsecond; in one microsecond the standard output comes first. -/
theorem container_logs_are_last_lines (format : DateFormat) (unicode : Char → Bool)
    (maxTail tail : Int) {inspected : LogDriver} (stdout stderr : List LogEntry)
    (readable : checkDriver inspected = .ok ())
    (unbroken : ∀ entry ∈ stdout ++ stderr, Unbroken entry)
    (stdoutTimed : stdout.Pairwise (fun first second => first.nanos ≤ second.nanos))
    (stderrTimed : stderr.Pairwise (fun first second => first.nanos ≤ second.nanos)) :
    getContainerLogs format unicode maxTail tail inspected true stdout stderr =
      .ok (((stdout.map (shownLine unicode .stdout) ++
        stderr.map (shownLine unicode .stderr)).mergeSort
          (fun left right => left.ts ≤ right.ts)).rtake (max 1 (min tail maxTail)).toNat) := by
  have lines (stream : LogStream) {log : List LogEntry}
      (whole : ∀ entry ∈ log, Unbroken entry) (count : Nat) :
      (containerLogs format count log).map (toLogLine unicode stream) =
        (log.map (shownLine unicode stream)).rtake count := by
    rw [containerLogs_eq whole, List.map_map, rtake_map]
    rfl
  have timed (stream : LogStream) {log : List LogEntry}
      (sorted : log.Pairwise (fun first second => first.nanos ≤ second.nanos)) :
      (log.map (shownLine unicode stream)).Pairwise
        (fun left right => decide (left.ts ≤ right.ts) = true) := by
    rw [List.pairwise_map]
    refine sorted.imp ?_
    intro first second ordered
    exact decide_eq_true (Int.ediv_le_ediv (by decide) ordered)
  unfold getContainerLogs
  simp only [readable, if_true]
  rw [lines .stdout (fun entry member => unbroken entry (List.mem_append_left _ member)),
    lines .stderr (fun entry member => unbroken entry (List.mem_append_right _ member)),
    rtake_mergeSort_tails _ _ _ (timed .stdout stdoutTimed) (timed .stderr stderrTimed)]
  · intro first second third below above
    simp only [decide_eq_true_eq] at below above ⊢
    omega
  · intro first second
    simp only [Bool.or_eq_true, decide_eq_true_eq]
    omega

end Streams

/-! ### A container -/

/-- The epoch and the second after it. -/
def epochText (second : Char) : List Char := "1970-01-01T00:00:0".toList ++ [second]

/-- The seconds of the sample as the daemon writes them, every other one as a tally. -/
def sampleShown (second : Int) : List Char :=
  if second = 0 then epochText '0'
  else if second = 1 then epochText '1'
  else if 0 ≤ second then '+' :: List.replicate second.toNat 'i'
  else '-' :: List.replicate (-second).toNat 'i'

def sampleSecond (text : List Char) : Option Int :=
  if text = epochText '0' then some 0
  else if text = epochText '1' then some 1
  else match text with
    | '+' :: tally => some tally.length
    | '-' :: tally => some (-tally.length)
    | _ => none

theorem tally_apart (sign : Char) (tally : List Char) (signs : sign ≠ '1') :
    sign :: tally ≠ epochText '0' ∧ sign :: tally ≠ epochText '1' := by
  constructor
  · intro same
    exact signs (List.cons.inj same).1
  · intro same
    exact signs (List.cons.inj same).1

theorem sampleSecond_shown (second : Int) : sampleSecond (sampleShown second) = some second := by
  by_cases epoch : second = 0
  · rw [epoch]
    decide
  · by_cases next : second = 1
    · rw [next]
      decide
    · unfold sampleShown
      rw [if_neg epoch, if_neg next]
      by_cases later : 0 ≤ second
      · have apart := tally_apart '+' (List.replicate second.toNat 'i') (by decide)
        simp only [if_pos later, sampleSecond, if_neg apart.1, if_neg apart.2,
          List.length_replicate]
        congr
        omega
      · have apart := tally_apart '-' (List.replicate (-second).toNat 'i') (by decide)
        simp only [if_neg later, sampleSecond, if_neg apart.1, if_neg apart.2,
          List.length_replicate]
        congr
        omega

theorem sampleShown_plain {second : Int} {char : Char} (shown : char ∈ sampleShown second) :
    isSpace char = false ∧ char ≠ '.' := by
  have listed : char ∈ epochText '0' ++ epochText '1' ++ ['+', '-', 'i'] := by
    unfold sampleShown at shown
    split at shown
    · exact List.mem_append_left _ (List.mem_append_left _ shown)
    · split at shown
      · exact List.mem_append_left _ (List.mem_append_right _ shown)
      · apply List.mem_append_right
        split at shown
        · rcases List.mem_cons.mp shown with sign | tally
          · rw [sign]
            decide
          · rw [List.eq_of_mem_replicate tally]
            decide
        · rcases List.mem_cons.mp shown with sign | tally
          · rw [sign]
            decide
          · rw [List.eq_of_mem_replicate tally]
            decide
  have each : (epochText '0' ++ epochText '1' ++ ['+', '-', 'i']).all
      (fun char => !isSpace char && char != '.') = true := by decide
  have plain := List.all_eq_true.mp each char listed
  rwa [Bool.and_eq_true, bne_iff_ne, Bool.not_eq_true'] at plain

/-- The number that digits write. -/
def digitsValue (digits : List Char) : Nat :=
  digits.foldl (fun value digit => 10 * value + (digit.toNat - 48)) 0

theorem digitsValue_fixedDigits (width number : Nat) :
    digitsValue (fixedDigits width number) = number % 10 ^ width := by
  have digits : ∀ digit < 10, (Nat.digitChar digit).toNat - 48 = digit := by decide
  induction width generalizing number with
  | zero => rw [Nat.pow_zero, Nat.mod_one]; rfl
  | succ width ih =>
      have higher := ih (number / 10)
      unfold digitsValue at higher ⊢
      rw [fixedDigits, List.foldl_append, higher, List.foldl_cons, List.foldl_nil,
        digits _ (Nat.mod_lt _ (by decide)), Nat.pow_succ', Nat.mod_mul]
      omega

def sampleFromIsoFormat (text : List Char) : Option Int :=
  (sampleSecond (partition '.' text).1).map (fun second =>
    second * 10 ^ 6 + digitsValue ((partition '.' text).2.take 6))

def sampleFormat : DateFormat where
  shown := sampleShown
  fromIsoFormat := sampleFromIsoFormat
  fromIsoFormat_shown := by
    intro second micros _ _ small
    have whole : '.' ∉ sampleShown second := fun member => (sampleShown_plain member).2 rfl
    have fraction : (fixedDigits 6 micros ++ "+00:00".toList).take 6 = fixedDigits 6 micros :=
      List.take_left' rfl
    rw [sampleFromIsoFormat, List.append_assoc, List.cons_append, partition_append whole,
      sampleSecond_shown, fraction, digitsValue_fixedDigits, Nat.mod_eq_of_lt small]
    rfl
  shown_plain := fun _ _ shown => sampleShown_plain shown

def sampleStdout : List LogEntry :=
  [⟨0, "started".toList, by decide⟩, ⟨1123456900, "retry soon".toList, by decide⟩]

def sampleStderr : List LogEntry := [⟨1123456100, "fatal: no route".toList, by decide⟩]

/-- Of three lines the last two are shown, in one microsecond that of the standard output first. -/
theorem sample_logs_are_shown :
    getContainerLogs sampleFormat (fun _ => false) 500 2 (.driver (some "json-file")) true
        sampleStdout sampleStderr =
      .ok [⟨1123456, .stdout, .warn, "retry soon".toList⟩,
        ⟨1123456, .stderr, .error, "fatal: no route".toList⟩] := by
  rw [container_logs_are_last_lines sampleFormat (fun _ => false) 500 2 sampleStdout sampleStderr
    (by decide +kernel) (by decide +kernel) (by decide +kernel) (by decide +kernel),
    List.mergeSort_of_pairwise (by decide +kernel)]
  decide +kernel

end VpnSuite.Telemetry
