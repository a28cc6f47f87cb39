/-
The two parsers of `wg show <iface> dump` (`_parse_dump` in `node-agent/agent.py`,
`_parse_wg_dump` in `services/node_runtime_docker.py`).

A dump is a line for the interface and one for each peer, of columns between tabs.  The
agent strips the fields; the backend strips the whole output, and tells a dump of all
interfaces, whose lines begin with a name, by the number of columns and by a first column
that is no key.
-/

import VpnSuite.Agent.ReconcileModel
import VpnSuite.Config.NodeObfuscation

set_option autoImplicit false

namespace VpnSuite.Runtime

open Foundations
open Foundations.PythonText
open VpnSuite.Config (isLineBoundary splitLinesFrom)

/-! ### The parsers -/

/-- `Peer` of the agent. -/
structure DumpedPeer where
  publicKey : List Char
  allowedIps : List Char
  lastHandshakeTs : Int
  rx : Int
  tx : Int
  endpoint : List Char
  deriving DecidableEq, Repr

/-- A peer as the backend returns it. -/
structure DumpedPeerDict where
  publicKey : List Char
  allowedIps : List Char
  lastHandshake : Int
  transferRx : Int
  transferTx : Int
  deriving DecidableEq, Repr

def isBlank (line : List Char) : Bool := stripChars line = []

def columnsOf (line : List Char) : List (List Char) := line.splitOn '\t'

/-- `int((column or "0").strip())`, and zero for its `ValueError`. -/
def agentNumber (column : List Char) : Int :=
  (intOfChars (stripChars (if column = [] then ['0'] else column))).getD 0

/-- `int(column) if column else 0`, and zero for its `ValueError`. -/
def backendNumber (column : List Char) : Int :=
  if column = [] then 0 else (intOfChars column).getD 0

def agentPeer (line : List Char) : Option DumpedPeer :=
  match columnsOf line with
  | key :: _ :: endpoint :: allowed :: handshake :: rx :: tx :: _ :: _ =>
      if stripChars key = [] then none
      else some ⟨stripChars key, stripChars allowed, agentNumber handshake, agentNumber rx,
        agentNumber tx, stripChars endpoint⟩
  | _ => none

def agentInterface (line : List Char) : List Char × Int :=
  match columnsOf line with
  | _ :: key :: port :: _ => (stripChars key, agentNumber port)
  | [_, key] => (stripChars key, 0)
  | _ => ([], 0)

/-- `_parse_dump`. -/
def parseDump (dump : List Char) : List Char × Int × List DumpedPeer :=
  match (splitLinesFrom [] dump).filter (fun line => !isBlank line) with
  | [] => ([], 0, [])
  | first :: rest =>
      let interface := agentInterface first
      (interface.1, interface.2, rest.filterMap agentPeer)

def backendPeer (line : List Char) : Option DumpedPeerDict :=
  match columnsOf line with
  | key :: _ :: _ :: allowed :: handshake :: rx :: tx :: _ :: _ =>
      some ⟨key, allowed, backendNumber handshake, backendNumber rx, backendNumber tx⟩
  | _ => none

/-- The key column matches `_PUBLIC_KEY_PATTERN`. -/
def isKeyColumn (column : List Char) : Bool := Agent.pubkeyRe (String.ofList column)

def backendInterface (line : List Char) : List Char × Int :=
  match columnsOf line with
  | first :: second :: third :: fourth :: _ :: _ =>
      if isKeyColumn first then (second, backendNumber third) else (third, backendNumber fourth)
  | _ :: key :: port :: _ => (key, backendNumber port)
  | [_, key] => (key, 0)
  | _ => ([], 0)

/-- `_parse_wg_dump`. -/
def parseWgDump (output : List Char) : List Char × Int × List DumpedPeerDict :=
  match (splitLinesFrom [] (stripChars output)).filter (fun line => !isBlank line) with
  | [] => ([], 0, [])
  | first :: rest =>
      let interface := backendInterface first
      (interface.1, interface.2, rest.filterMap backendPeer)

/-! ### Records and their dump -/

def isBase64Char (char : Char) : Bool :=
  isAsciiAlphanumeric char || char == '+' || char == '/' || char == '='

/-- Not empty and without white space. -/
def Solid (column : List Char) : Prop := column ≠ [] ∧ ∀ char ∈ column, isSpace char = false

/-- Without a tab and without a line break of any kind. -/
def Cell (column : List Char) : Prop :=
  '\t' ∉ column ∧ ∀ char ∈ column, isLineBoundary char = false

/-- A key of 44 base64 characters. -/
structure WireKey where
  chars : List Char
  length : chars.length = 44
  base64 : ∀ char ∈ chars, isBase64Char char = true

def noKey : List Char := "(none)".toList

def keyColumn (key : Option WireKey) : List Char := (key.map WireKey.chars).getD noKey

def numberColumn (value : Nat) : List Char := Nat.toDigits 10 value

/-- The interface line: after the port come the columns of AmneziaWG and the mark. -/
structure InterfaceRecord where
  privateKey : Option WireKey
  publicKey : Option WireKey
  listenPort : UInt16
  columns : List (List Char)
  printed : ∀ column ∈ columns, Solid column

/-- A peer line.  The keepalive is not blank; what follows it may be. -/
structure PeerRecord where
  publicKey : List Char
  presharedKey : List Char
  endpoint : List Char
  allowedIps : List Char
  lastHandshake : UInt64
  rx : UInt64
  tx : UInt64
  keepalive : List Char
  extra : List (List Char)
  named : Solid publicKey
  cells : ∀ column ∈ presharedKey :: endpoint :: allowedIps :: keepalive :: extra, Cell column
  trimmed : stripChars allowedIps = allowedIps
  visible : ∃ char ∈ keepalive, isSpace char = false

def InterfaceRecord.row (record : InterfaceRecord) : List (List Char) :=
  keyColumn record.privateKey :: keyColumn record.publicKey ::
    numberColumn record.listenPort.toNat :: record.columns

/-- The columns before the keepalive. -/
def PeerRecord.head (record : PeerRecord) : List (List Char) :=
  [record.publicKey, record.presharedKey, record.endpoint, record.allowedIps,
    numberColumn record.lastHandshake.toNat, numberColumn record.rx.toNat,
    numberColumn record.tx.toNat]

def PeerRecord.row (record : PeerRecord) : List (List Char) :=
  record.head ++ record.keepalive :: record.extra

def tabbed (row : List (List Char)) : List Char := ['\t'].intercalate row

def dumpText (interface : InterfaceRecord) (peers : List PeerRecord) : List Char :=
  (tabbed interface.row :: peers.map (fun peer => tabbed peer.row)).flatMap
    (fun line => line ++ ['\n'])

/-! ### What is compared -/

/-- Public key, allowed ips, last handshake, received and sent bytes. -/
abbrev PeerFacts := List Char × List Char × Int × Int × Int

def DumpedPeer.facts (peer : DumpedPeer) : PeerFacts :=
  (peer.publicKey, peer.allowedIps, peer.lastHandshakeTs, peer.rx, peer.tx)

def DumpedPeerDict.facts (peer : DumpedPeerDict) : PeerFacts :=
  (peer.publicKey, peer.allowedIps, peer.lastHandshake, peer.transferRx, peer.transferTx)

def PeerRecord.facts (record : PeerRecord) : PeerFacts :=
  (record.publicKey, record.allowedIps, record.lastHandshake.toNat, record.rx.toNat,
    record.tx.toNat)

/-- The facts of a dump, as the records have them. -/
def recordedFacts (interface : InterfaceRecord) (peers : List PeerRecord) :
    List Char × Int × List PeerFacts :=
  (keyColumn interface.publicKey, interface.listenPort.toNat, peers.map PeerRecord.facts)

def agentFacts (dump : List Char) : List Char × Int × List PeerFacts :=
  let parsed := parseDump dump
  (parsed.1, parsed.2.1, parsed.2.2.map DumpedPeer.facts)

def backendFacts (dump : List Char) : List Char × Int × List PeerFacts :=
  let parsed := parseWgDump dump
  (parsed.1, parsed.2.1, parsed.2.2.map DumpedPeerDict.facts)

/-! ### Lines and columns of a text -/

theorem isSpace_of_isLineBoundary {char : Char} (boundary : isLineBoundary char = true) :
    isSpace char = true := by
  simp only [isLineBoundary, List.mem_cons, List.not_mem_nil, or_false, decide_eq_true_eq]
    at boundary
  simp only [isSpace, Bool.or_eq_true, Bool.and_eq_true, decide_eq_true_eq, beq_iff_eq]
  omega

theorem splitLinesFrom_cons {char : Char} (plain : char ≠ '\r') (read rest : List Char) :
    splitLinesFrom read (char :: rest) =
      if isLineBoundary char then read.reverse :: splitLinesFrom [] rest
      else splitLinesFrom (char :: read) rest := by
  rw [splitLinesFrom]
  rintro later same -
  exact plain same

/-- A line is read up to its end. -/
theorem splitLinesFrom_line {line : List Char}
    (whole : ∀ char ∈ line, isLineBoundary char = false) (read rest : List Char) :
    splitLinesFrom read (line ++ rest) = splitLinesFrom (line.reverse ++ read) rest := by
  induction line generalizing read with
  | nil => rfl
  | cons char others ih =>
      have inside := whole char List.mem_cons_self
      have plain : char ≠ '\r' := by
        rintro rfl
        exact absurd inside (by decide)
      rw [List.cons_append, splitLinesFrom_cons plain,
        if_neg (by rw [inside]; exact Bool.false_ne_true),
        ih (fun other member => whole other (List.mem_cons_of_mem char member)),
        List.reverse_cons, List.append_assoc]
      rfl

theorem splitLinesFrom_ended {line : List Char}
    (whole : ∀ char ∈ line, isLineBoundary char = false) (rest : List Char) :
    splitLinesFrom [] (line ++ '\n' :: rest) = line :: splitLinesFrom [] rest := by
  rw [splitLinesFrom_line whole, List.append_nil,
    splitLinesFrom_cons (by decide), if_pos (by decide), List.reverse_reverse]

theorem splitLinesFrom_last {line : List Char}
    (whole : ∀ char ∈ line, isLineBoundary char = false) (some : line ≠ []) :
    splitLinesFrom [] line = [line] := by
  have read := splitLinesFrom_line whole [] []
  rw [List.append_nil, List.append_nil] at read
  rw [read, splitLinesFrom, if_neg (fun empty => some (List.reverse_eq_nil_iff.mp empty)),
    List.reverse_reverse]

theorem splitLinesFrom_lines {lines : List (List Char)}
    (whole : ∀ line ∈ lines, ∀ char ∈ line, isLineBoundary char = false) (rest : List Char) :
    splitLinesFrom [] (lines.flatMap (fun line => line ++ ['\n']) ++ rest) =
      lines ++ splitLinesFrom [] rest := by
  induction lines with
  | nil => rfl
  | cons line others ih =>
      rw [List.flatMap_cons, List.append_assoc, List.append_assoc, List.singleton_append,
        splitLinesFrom_ended (whole line List.mem_cons_self),
        ih (fun other member => whole other (List.mem_cons_of_mem line member)), List.cons_append]

theorem columnsOf_tabbed {row : List (List Char)} (some : row ≠ [])
    (cells : ∀ column ∈ row, '\t' ∉ column) : columnsOf (tabbed row) = row :=
  List.splitOn_intercalate '\t' cells some

/-- The columns before a tab, whatever comes after it. -/
theorem columnsOf_append {row : List (List Char)} (some : row ≠ [])
    (cells : ∀ column ∈ row, '\t' ∉ column) (rest : List Char) :
    columnsOf (tabbed row ++ '\t' :: rest) = row ++ columnsOf rest := by
  rw [columnsOf, List.splitOn_append_cons_self]
  exact congrArg (· ++ columnsOf rest) (columnsOf_tabbed some cells)

theorem tabbed_append {front rest : List (List Char)} (some : front ≠ []) (others : rest ≠ []) :
    tabbed (front ++ rest) = tabbed front ++ '\t' :: tabbed rest := by
  induction front with
  | nil => exact absurd rfl some
  | cons column columns ih =>
      by_cases more : columns = []
      · subst more
        rw [tabbed, List.singleton_append, List.intercalate_cons_of_ne_nil others]
        simp [tabbed]
      · rw [tabbed, List.cons_append, List.intercalate_cons_of_ne_nil (by simp [more])]
        rw [tabbed] at ih
        rw [ih more]
        simp [tabbed, List.intercalate_cons_of_ne_nil more]

/-- What stands before a visible character stays when the end is stripped. -/
theorem rdropWhile_append {front back : List Char} (visible : ∃ char ∈ back, isSpace char = false) :
    (front ++ back).rdropWhile isSpace = front ++ back.rdropWhile isSpace := by
  obtain ⟨char, member, shown⟩ := visible
  have kept : ¬ (back.reverse.dropWhile isSpace).isEmpty = true := by
    rw [List.isEmpty_iff, List.dropWhile_eq_nil_iff]
    intro blank
    rw [blank char (List.mem_reverse.mpr member)] at shown
    cases shown
  rw [List.rdropWhile, List.reverse_append, List.dropWhile_append, if_neg kept,
    List.reverse_append, List.reverse_reverse]
  rfl

theorem not_isBlank {char : Char} (shown : isSpace char = false) (rest : List Char) :
    isBlank (char :: rest) = false := by
  rw [isBlank, decide_eq_false_iff_not, stripChars,
    List.dropWhile_cons_of_neg (by simp [shown]), List.rdropWhile_eq_nil_iff]
  intro blank
  rw [blank char List.mem_cons_self] at shown
  cases shown

/-! ### Columns -/

theorem number_short {value : Nat} (fits : value < 2 ^ 64) : value < 10 ^ maxStrDigits :=
  Nat.lt_of_lt_of_le (Nat.lt_trans fits (by decide : 2 ^ 64 < 10 ^ 20))
    (Nat.pow_le_pow_right (by decide) (by decide))

theorem agentNumber_printed {value : Nat} (fits : value < 2 ^ 64) :
    agentNumber (numberColumn value) = value := by
  rw [agentNumber, numberColumn, if_neg Nat.toDigits_ne_nil, stripChars_toDigits,
    intOfChars_toDigits (number_short fits), Option.getD_some]

theorem backendNumber_printed {value : Nat} (fits : value < 2 ^ 64) :
    backendNumber (numberColumn value) = value := by
  rw [backendNumber, numberColumn, if_neg Nat.toDigits_ne_nil,
    intOfChars_toDigits (number_short fits), Option.getD_some]

theorem Solid.cell {column : List Char} (solid : Solid column) : Cell column := by
  constructor
  · intro tab
    exact absurd (solid.2 _ tab) (by decide)
  · intro char member
    rw [← Bool.not_eq_true]
    intro boundary
    have blank := isSpace_of_isLineBoundary boundary
    rw [solid.2 char member] at blank
    cases blank

theorem Solid.stripped {column : List Char} (solid : Solid column) : stripChars column = column :=
  (stripChars_of_ends (fun char first => solid.2 char (List.mem_of_mem_head? first))
    (fun char last => solid.2 char (List.mem_of_mem_getLast? last))).2.2

theorem numberColumn_solid (value : Nat) : Solid (numberColumn value) :=
  ⟨Nat.toDigits_ne_nil, fun _ member => isSpace_of_isDigit (isDigit_of_mem_toDigits member)⟩

theorem base64_solid : (List.range 128).all (fun code =>
    !isBase64Char (Char.ofNat code) || !isSpace (Char.ofNat code)) = true := by
  decide +kernel

theorem isBase64Char_ascii {char : Char} (found : isBase64Char char = true) : char.toNat < 128 := by
  simp only [isBase64Char, isAsciiAlphanumeric, Bool.or_eq_true, Bool.and_eq_true,
    decide_eq_true_eq, beq_iff_eq, Char.le_def, UInt32.le_iff_toNat_le] at found
  rcases found with ((((lower | upper) | digit) | rfl) | rfl) | rfl
  · exact Nat.lt_of_le_of_lt lower.2 (by decide)
  · exact Nat.lt_of_le_of_lt upper.2 (by decide)
  · exact Nat.lt_of_le_of_lt digit.2 (by decide)
  all_goals decide

theorem keyColumn_solid (key : Option WireKey) : Solid (keyColumn key) := by
  cases key with
  | none =>
      have shown : noKey.all (fun char => !isSpace char) = true := by decide
      refine ⟨by decide, fun char member => ?_⟩
      have solid := List.all_eq_true.mp shown char member
      rwa [Bool.not_eq_true'] at solid
  | some key =>
      refine ⟨fun empty => ?_, fun char member => ?_⟩
      · have length := key.length
        change key.chars = [] at empty
        rw [empty] at length
        cases length
      · have found := key.base64 char member
        have solid := List.all_eq_true.mp base64_solid char.toNat
          (List.mem_range.mpr (isBase64Char_ascii found))
        rw [Char.ofNat_toNat, found, Bool.not_true, Bool.false_or, Bool.not_eq_true'] at solid
        exact solid

/-! ### Interface lines -/

section Interfaces

variable (record : InterfaceRecord)

theorem InterfaceRecord.row_solid : ∀ column ∈ record.row, Solid column := by
  intro column member
  simp only [InterfaceRecord.row, List.mem_cons] at member
  rcases member with rfl | rfl | rfl | printed
  · exact keyColumn_solid record.privateKey
  · exact keyColumn_solid record.publicKey
  · exact numberColumn_solid _
  · exact record.printed column printed

theorem InterfaceRecord.columnsOf_row : columnsOf (tabbed record.row) = record.row :=
  columnsOf_tabbed (List.cons_ne_nil _ _)
    (fun column member => (record.row_solid column member).cell.1)

theorem port_fits : record.listenPort.toNat < 2 ^ 64 :=
  Nat.lt_trans record.listenPort.toNat_lt (by decide)

theorem agentInterface_row :
    agentInterface (tabbed record.row) =
      (keyColumn record.publicKey, (record.listenPort.toNat : Int)) := by
  rw [agentInterface, record.columnsOf_row, InterfaceRecord.row]
  dsimp only
  rw [(keyColumn_solid record.publicKey).stripped, agentNumber_printed (port_fits record)]

theorem isKeyColumn_keyColumn (key : Option WireKey) : isKeyColumn (keyColumn key) = key.isSome := by
  cases key with
  | none => decide
  | some key =>
      change Agent.pubkeyRe (String.ofList key.chars) = true
      refine (fullmatchClass_iff ..).mpr ?_
      rw [String.toList_ofList, key.length]
      exact ⟨by decide, by decide, key.base64⟩

/-- The backend reads the interface line as meant when it sees the key, or too few columns to
take it for a line of a dump of all interfaces. -/
theorem backendInterface_row (told : record.privateKey.isSome = true ∨ record.columns.length ≤ 1) :
    backendInterface (tabbed record.row) =
      (keyColumn record.publicKey, (record.listenPort.toNat : Int)) := by
  have port := backendNumber_printed (port_fits record)
  rw [backendInterface, record.columnsOf_row, InterfaceRecord.row]
  cases columns : record.columns with
  | nil =>
      dsimp only
      rw [port]
  | cons first rest =>
      cases rest with
      | nil =>
          dsimp only
          rw [port]
      | cons second others =>
          have known : record.privateKey.isSome = true := by
            rcases told with known | short
            · exact known
            · rw [columns] at short
              simp at short
          dsimp only
          rw [isKeyColumn_keyColumn, if_pos known, port]

theorem numberColumn_ne_keyColumn (key : Option WireKey) :
    numberColumn record.listenPort.toNat ≠ keyColumn key := by
  intro same
  have short : (numberColumn record.listenPort.toNat).length ≤ 5 :=
    (Nat.length_toDigits_le_iff (by decide) (by decide)).mpr
      (Nat.lt_trans record.listenPort.toNat_lt (by decide))
  rw [same] at short
  cases key with
  | none => exact absurd short (by decide)
  | some key =>
      change key.chars.length ≤ 5 at short
      rw [key.length] at short
      exact absurd short (by decide)

/-- Otherwise it returns the port for the key. -/
theorem backendInterface_misread (keyless : record.privateKey.isSome = false)
    (many : 1 < record.columns.length) :
    (backendInterface (tabbed record.row)).1 ≠ keyColumn record.publicKey := by
  rw [backendInterface, record.columnsOf_row, InterfaceRecord.row]
  cases columns : record.columns with
  | nil =>
      rw [columns] at many
      cases many
  | cons first rest =>
      cases rest with
      | nil =>
          rw [columns] at many
          exact absurd many (by simp)
      | cons second others =>
          dsimp only
          rw [isKeyColumn_keyColumn, keyless, if_neg Bool.false_ne_true]
          exact numberColumn_ne_keyColumn record record.publicKey

end Interfaces

/-! ### Peer lines -/

section Peers

variable (record : PeerRecord)

theorem PeerRecord.head_cells : ∀ column ∈ record.head, Cell column := by
  intro column member
  simp only [PeerRecord.head, List.mem_cons, List.not_mem_nil, or_false] at member
  rcases member with rfl | rfl | rfl | rfl | rfl | rfl | rfl
  · exact record.named.cell
  · exact record.cells _ (by simp)
  · exact record.cells _ (by simp)
  · exact record.cells _ (by simp)
  all_goals exact (numberColumn_solid _).cell

/-- The line of a peer: what is read of it, a tab, and a visible rest. -/
theorem PeerRecord.line_split :
    tabbed record.row = tabbed record.head ++ '\t' :: tabbed (record.keepalive :: record.extra) :=
  tabbed_append (List.cons_ne_nil _ _) (List.cons_ne_nil _ _)

theorem PeerRecord.rest_visible :
    ∃ char ∈ tabbed (record.keepalive :: record.extra), isSpace char = false := by
  obtain ⟨char, member, shown⟩ := record.visible
  refine ⟨char, ?_, shown⟩
  by_cases more : record.extra = []
  · rw [more, tabbed, List.intercalate_singleton]
    exact member
  · rw [tabbed, List.intercalate_cons_of_ne_nil more]
    exact List.mem_append_left _ (List.mem_append_left _ member)

/-- The columns of a line that begins as the record's does. -/
theorem PeerRecord.columnsOf_line (rest : List Char) :
    ∃ eighth others, columnsOf (tabbed record.head ++ '\t' :: rest) =
      record.head ++ eighth :: others := by
  have nonempty : record.head ≠ [] := List.cons_ne_nil _ _
  rw [columnsOf_append nonempty (fun column member => (record.head_cells column member).1)]
  cases columns : columnsOf rest with
  | nil => exact absurd columns (List.splitOn_ne_nil '\t' rest)
  | cons eighth others => exact ⟨eighth, others, rfl⟩

theorem agentPeer_line (rest : List Char) :
    (agentPeer (tabbed record.head ++ '\t' :: rest)).map DumpedPeer.facts = some record.facts := by
  obtain ⟨eighth, others, columns⟩ := record.columnsOf_line rest
  rw [agentPeer, columns, PeerRecord.head]
  simp only [List.cons_append, List.nil_append]
  rw [record.named.stripped, if_neg record.named.1, record.trimmed,
    agentNumber_printed record.lastHandshake.toNat_lt, agentNumber_printed record.rx.toNat_lt,
    agentNumber_printed record.tx.toNat_lt]
  rfl

theorem backendPeer_line (rest : List Char) :
    (backendPeer (tabbed record.head ++ '\t' :: rest)).map DumpedPeerDict.facts =
      some record.facts := by
  obtain ⟨eighth, others, columns⟩ := record.columnsOf_line rest
  rw [backendPeer, columns, PeerRecord.head]
  simp only [List.cons_append, List.nil_append]
  rw [backendNumber_printed record.lastHandshake.toNat_lt,
    backendNumber_printed record.rx.toNat_lt, backendNumber_printed record.tx.toNat_lt]
  rfl

/-- Stripping the end of a line leaves what is read of it. -/
theorem PeerRecord.line_stripped :
    ∃ rest, (tabbed record.row).rdropWhile isSpace = tabbed record.head ++ '\t' :: rest := by
  obtain ⟨char, member, shown⟩ := record.rest_visible
  rw [record.line_split, rdropWhile_append ⟨char, List.mem_cons_of_mem _ member, shown⟩]
  have behind := @rdropWhile_append ['\t'] _ record.rest_visible
  rw [List.singleton_append] at behind
  exact ⟨_, congrArg (tabbed record.head ++ ·) behind⟩

end Peers

/-! ### The dump -/

theorem tabbed_whole {row : List (List Char)} (cells : ∀ column ∈ row, Cell column) :
    ∀ char ∈ tabbed row, isLineBoundary char = false := by
  induction row with
  | nil =>
      intro char member
      cases member
  | cons column others ih =>
      intro char member
      have later := ih (fun other found => cells other (List.mem_cons_of_mem column found))
      by_cases more : others = []
      · rw [more, tabbed, List.intercalate_singleton] at member
        exact (cells column List.mem_cons_self).2 char member
      · rw [tabbed, List.intercalate_cons_of_ne_nil more, List.append_assoc] at member
        rcases List.mem_append.mp member with inside | after
        · exact (cells column List.mem_cons_self).2 char inside
        · rcases List.mem_append.mp after with tab | behind
          · obtain rfl := List.mem_singleton.mp tab
            decide
          · exact later char behind

/-- A line that is one line and begins visibly. -/
structure DumpLine (line : List Char) : Prop where
  whole : ∀ char ∈ line, isLineBoundary char = false
  begins : ∃ char rest, line = char :: rest ∧ isSpace char = false

theorem tabbed_begins {column : List Char} (solid : Solid column) (others : List (List Char)) :
    ∃ char rest, tabbed (column :: others) = char :: rest ∧ isSpace char = false := by
  obtain ⟨char, rest, rfl⟩ := List.exists_cons_of_ne_nil solid.1
  have shown := solid.2 char List.mem_cons_self
  by_cases more : others = []
  · rw [more, tabbed, List.intercalate_singleton]
    exact ⟨char, rest, rfl, shown⟩
  · rw [tabbed, List.intercalate_cons_of_ne_nil more, List.append_assoc, List.cons_append]
    exact ⟨char, _, rfl, shown⟩

theorem InterfaceRecord.dumpLine (record : InterfaceRecord) : DumpLine (tabbed record.row) where
  whole := tabbed_whole (fun column member => (record.row_solid column member).cell)
  begins := tabbed_begins (keyColumn_solid record.privateKey) _

theorem PeerRecord.dumpLine (record : PeerRecord) : DumpLine (tabbed record.row) where
  whole := by
    apply tabbed_whole
    intro column member
    rcases List.mem_append.mp member with front | back
    · exact record.head_cells column front
    · rcases List.mem_cons.mp back with rfl | further
      · exact record.cells _ (by simp)
      · exact record.cells column (by simp [further])
  begins := tabbed_begins record.named _

theorem DumpLine.visible {line : List Char} (dumped : DumpLine line) : isBlank line = false := by
  obtain ⟨char, rest, rfl, shown⟩ := dumped.begins
  exact not_isBlank shown rest

theorem filter_dumpLines {lines : List (List Char)} (dumped : ∀ line ∈ lines, DumpLine line) :
    lines.filter (fun line => !isBlank line) = lines := by
  apply List.filter_eq_self.mpr
  intro line member
  rw [(dumped line member).visible, Bool.not_false]

/-- The lines the agent sees. -/
theorem splitLinesFrom_dump {lines : List (List Char)} (dumped : ∀ line ∈ lines, DumpLine line) :
    (splitLinesFrom [] (lines.flatMap (fun line => line ++ ['\n']))).filter
      (fun line => !isBlank line) = lines := by
  have whole := splitLinesFrom_lines (fun line member => (dumped line member).whole) []
  rw [List.append_nil, splitLinesFrom, if_pos rfl, List.append_nil] at whole
  rw [whole, filter_dumpLines dumped]

theorem DumpLine.stripped {line : List Char} (dumped : DumpLine line) :
    DumpLine (line.rdropWhile isSpace) where
  whole := fun char member => dumped.whole char ((List.rdropWhile_prefix _ _).subset member)
  begins := by
    obtain ⟨char, rest, rfl, shown⟩ := dumped.begins
    by_cases visible : ∃ other ∈ rest, isSpace other = false
    · have kept := @rdropWhile_append [char] rest visible
      rw [List.singleton_append] at kept
      exact ⟨char, _, kept, shown⟩
    · have blank : ∀ other ∈ rest, isSpace other = true := by
        intro other member
        by_contra hidden
        exact visible ⟨other, member, Bool.eq_false_iff.mpr hidden⟩
      refine ⟨char, [], ?_, shown⟩
      rw [List.rdropWhile, List.reverse_cons, List.dropWhile_append_of_pos
        (fun other member => blank other (List.mem_reverse.mp member)),
        List.dropWhile_cons_of_neg (by simp [shown])]
      rfl

/-- The lines the backend sees: the last one has lost its end. -/
theorem splitLinesFrom_stripped {front : List (List Char)} {last : List Char}
    (dumped : ∀ line ∈ front, DumpLine line) (dumpedLast : DumpLine last) :
    (splitLinesFrom [] (stripChars ((front ++ [last]).flatMap (fun line => line ++ ['\n'])))).filter
        (fun line => !isBlank line) = front ++ [last.rdropWhile isSpace] := by
  have begins : ∃ char rest, (front ++ [last]).flatMap (fun line => line ++ ['\n']) =
      char :: rest ∧ isSpace char = false := by
    cases front with
    | nil =>
        obtain ⟨char, rest, rfl, shown⟩ := dumpedLast.begins
        exact ⟨char, rest ++ ['\n'], by simp, shown⟩
    | cons line others =>
        obtain ⟨char, rest, rfl, shown⟩ := (dumped line List.mem_cons_self).begins
        exact ⟨char, _, by simp only [List.cons_append, List.flatMap_cons]; rfl, shown⟩
  have visible : ∃ char ∈ last, isSpace char = false := by
    obtain ⟨char, rest, rfl, shown⟩ := dumpedLast.begins
    exact ⟨char, List.mem_cons_self, shown⟩
  have text : stripChars ((front ++ [last]).flatMap (fun line => line ++ ['\n'])) =
      front.flatMap (fun line => line ++ ['\n']) ++ last.rdropWhile isSpace := by
    obtain ⟨char, rest, whole, shown⟩ := begins
    rw [stripChars, whole, List.dropWhile_cons_of_neg (by simp [shown]), ← whole,
      List.flatMap_append, List.flatMap_singleton, ← List.append_assoc,
      List.rdropWhile_concat_pos _ _ _ (by decide), rdropWhile_append visible]
  have lastLine := dumpedLast.stripped
  have some : last.rdropWhile isSpace ≠ [] := by
    obtain ⟨char, rest, whole, -⟩ := lastLine.begins
    rw [whole]
    exact List.cons_ne_nil char rest
  rw [text, splitLinesFrom_lines (fun line member => (dumped line member).whole),
    splitLinesFrom_last lastLine.whole some]
  apply filter_dumpLines
  intro line member
  rcases List.mem_append.mp member with before | ending
  · exact dumped line before
  · obtain rfl := List.mem_singleton.mp ending
    exact lastLine

theorem tabbed_solid_end {row : List (List Char)} (solid : ∀ column ∈ row, Solid column) :
    (tabbed row).rdropWhile isSpace = tabbed row := by
  induction row with
  | nil => rfl
  | cons column others ih =>
      have first := solid column List.mem_cons_self
      have later : ∀ other ∈ others, Solid other :=
        fun other member => solid other (List.mem_cons_of_mem column member)
      by_cases more : others = []
      · rw [more, tabbed, List.intercalate_singleton]
        exact (stripChars_of_ends
          (fun char head => first.2 char (List.mem_of_mem_head? head))
          (fun char last => first.2 char (List.mem_of_mem_getLast? last))).2.1
      · have visible : ∃ char ∈ tabbed others, isSpace char = false := by
          obtain ⟨second, rest, rfl⟩ := List.exists_cons_of_ne_nil more
          obtain ⟨char, tail, whole, shown⟩ :=
            tabbed_begins (later second List.mem_cons_self) rest
          exact ⟨char, whole ▸ List.mem_cons_self, shown⟩
        have split : tabbed (column :: others) = (column ++ ['\t']) ++ tabbed others := by
          rw [tabbed, List.intercalate_cons_of_ne_nil more]
          rfl
        rw [split, rdropWhile_append visible, ih later]

section Dumps

variable (interface : InterfaceRecord) (peers : List PeerRecord)

def dumpLines : List (List Char) :=
  tabbed interface.row :: peers.map (fun peer => tabbed peer.row)

theorem dumpLines_dumped : ∀ line ∈ dumpLines interface peers, DumpLine line := by
  intro line member
  rcases List.mem_cons.mp member with rfl | listed
  · exact interface.dumpLine
  · obtain ⟨peer, _, rfl⟩ := List.mem_map.mp listed
    exact peer.dumpLine

theorem filterMap_facts {α : Type} {read : List Char → Option α} {facts : α → PeerFacts}
    (reads : ∀ peer : PeerRecord, (read (tabbed peer.row)).map facts = some peer.facts) :
    ((peers.map (fun peer => tabbed peer.row)).filterMap read).map facts =
      peers.map PeerRecord.facts := by
  rw [List.filterMap_map, List.map_filterMap]
  have same : (fun peer : PeerRecord => (read (tabbed peer.row)).map facts) =
      fun peer => some peer.facts := funext reads
  simp only [Function.comp_def, same]
  exact congrFun List.filterMap_eq_map' peers

theorem agentPeer_row (peer : PeerRecord) :
    (agentPeer (tabbed peer.row)).map DumpedPeer.facts = some peer.facts := by
  rw [peer.line_split]
  exact agentPeer_line peer _

theorem backendPeer_row (peer : PeerRecord) :
    (backendPeer (tabbed peer.row)).map DumpedPeerDict.facts = some peer.facts := by
  rw [peer.line_split]
  exact backendPeer_line peer _

theorem agentFacts_dump :
    agentFacts (dumpText interface peers) = recordedFacts interface peers := by
  have lines := splitLinesFrom_dump (dumpLines_dumped interface peers)
  change (splitLinesFrom [] (dumpText interface peers)).filter _ = _ at lines
  rw [agentFacts, parseDump, lines, dumpLines]
  dsimp only
  rw [agentInterface_row, filterMap_facts peers agentPeer_row]
  rfl

/-- The backend reads every peer, and the interface as `backendInterface` does. -/
theorem backendFacts_dump :
    backendFacts (dumpText interface peers) =
      ((backendInterface (tabbed interface.row)).1, (backendInterface (tabbed interface.row)).2,
        peers.map PeerRecord.facts) := by
  rcases List.eq_nil_or_concat' peers with rfl | ⟨front, last, rfl⟩
  · have lines := @splitLinesFrom_stripped [] (tabbed interface.row) (by simp) interface.dumpLine
    rw [tabbed_solid_end interface.row_solid] at lines
    change (splitLinesFrom [] (stripChars (dumpText interface []))).filter _ = _ at lines
    rw [backendFacts, parseWgDump, lines]
    rfl
  · have lines := splitLinesFrom_stripped (dumpLines_dumped interface front) last.dumpLine
    have text : (dumpLines interface front ++ [tabbed last.row]).flatMap
        (fun line => line ++ ['\n']) = dumpText interface (front ++ [last]) := by
      simp only [dumpLines, dumpText, List.map_append, List.map_singleton, List.cons_append]
    obtain ⟨rest, stripped⟩ := last.line_stripped
    rw [text, stripped, dumpLines, List.cons_append] at lines
    have final := backendPeer_line last rest
    obtain ⟨parsed, read, same⟩ := Option.map_eq_some_iff.mp final
    rw [backendFacts, parseWgDump, lines]
    dsimp only
    rw [List.filterMap_append, List.map_append, filterMap_facts front backendPeer_row,
      List.map_append]
    simp [read, same]

/-- The two parsers agree with the records exactly when the backend can tell the interface
line: by its private key, or by having no more than four columns. -/
theorem dump_parsers_agree_iff :
    (agentFacts (dumpText interface peers) = recordedFacts interface peers ∧
        backendFacts (dumpText interface peers) = recordedFacts interface peers) ↔
      interface.privateKey.isSome = true ∨ interface.columns.length ≤ 1 := by
  constructor
  · rintro ⟨-, backend⟩
    by_contra untold
    rw [not_or, Bool.not_eq_true, Nat.not_le] at untold
    rw [backendFacts_dump] at backend
    exact backendInterface_misread interface untold.1 untold.2 (congrArg Prod.fst backend)
  · intro told
    refine ⟨agentFacts_dump interface peers, ?_⟩
    rw [backendFacts_dump, backendInterface_row interface told]
    rfl

end Dumps

def sampleKey : WireKey where
  chars := "d0EiWoNYP/KDvrPo2VzugY7aU49foQyyykLSJjNqfUw=".toList
  length := by decide
  base64 := by
    have all : "d0EiWoNYP/KDvrPo2VzugY7aU49foQyyykLSJjNqfUw=".toList.all isBase64Char = true := by
      decide
    exact List.all_eq_true.mp all

/-- An interface without a private key, with a junk size and the mark after the port. -/
def keylessInterface : InterfaceRecord where
  privateKey := none
  publicKey := some sampleKey
  listenPort := 51820
  columns := ["4".toList, "off".toList]
  printed := by
    intro column member
    have solid : ["4".toList, "off".toList].all
        (fun column => !column.isEmpty && column.all (fun char => !isSpace char)) = true := by decide
    have shown := List.all_eq_true.mp solid column member
    simp only [Bool.and_eq_true, Bool.not_eq_true', List.isEmpty_eq_false_iff,
      List.all_eq_true] at shown
    exact shown

/-- A peer without a preshared key that has not connected, and a keepalive that is off. -/
def idlePeer : PeerRecord where
  publicKey := sampleKey.chars
  presharedKey := "(none)".toList
  endpoint := "(none)".toList
  allowedIps := "10.8.1.2/32".toList
  lastHandshake := 0
  rx := 0
  tx := 0
  keepalive := "off".toList
  extra := []
  named := by
    have solid : sampleKey.chars.all (fun char => !isSpace char) = true := by decide
    refine ⟨by decide, fun char member => ?_⟩
    simpa using List.all_eq_true.mp solid char member
  cells := by
    have plain : ["(none)".toList, "(none)".toList, "10.8.1.2/32".toList, "off".toList].all
        (fun column => !column.contains '\t' &&
          column.all (fun char => !isLineBoundary char)) = true := by decide
    intro column member
    simpa [Cell] using List.all_eq_true.mp plain column member
  trimmed := by decide
  visible := ⟨'o', by decide, by decide⟩

example : (agentFacts (dumpText keylessInterface [idlePeer])).2.2 = [idlePeer.facts] := by
  decide +kernel

/-- The backend takes the port for the public key. -/
theorem keyless_interface_is_misread :
    agentFacts (dumpText keylessInterface []) = recordedFacts keylessInterface [] ∧
      backendFacts (dumpText keylessInterface []) ≠ recordedFacts keylessInterface [] ∧
      (backendFacts (dumpText keylessInterface [])).1 = "51820".toList := by
  have misread : (backendFacts (dumpText keylessInterface [])).1 = "51820".toList := by
    decide +kernel
  refine ⟨agentFacts_dump keylessInterface [], ?_, misread⟩
  intro same
  rw [same] at misread
  exact absurd misread (by decide +kernel)

end VpnSuite.Runtime
