/-
Concurrent use of one-time tokens.

`verify_and_consume_one_time_token` and `download_config` select a row, check the copy they
have read and mark the row in a later commit, without a lock and without a condition on the
update.  Both are kinds of `OneTimeUse`: the link token hands out its payload at once, the
download reads the device first.

Run alone, the statements are the sequential functions.  Interleaved, two requests can both
be served, and a request can return after the expiry it was checked against; careful
requests do neither.
-/

import VpnSuite.Delivery.ConfigTokens
import VpnSuite.Foundations.OneTimeUse

set_option autoImplicit false

namespace VpnSuite.Delivery

open Foundations
open Foundations.OneTimeUse

/-! ### The two kinds -/

def linkTokens : Kind String OneTimeDownloadToken Unit (String × String) where
  find hash tokens := (tokens.get? hash).map (fun item => (hash, item))
  consumed item := item.consumedAt.isSome
  expired item now := item.expiresAt < now
  direct item := some (item.deviceId, item.kind)
  lookup _ _ := none
  mark instant item := { item with consumedAt := some instant }

def issuedConfigs (deployment : Deployment) :
    Kind String IssuedConfig (Dict String (Option String)) String where
  find hash configs :=
    match rowsWithHash hash configs with
    | [entry] => some entry
    | _ => none
  consumed issued := issued.consumedAt.isSome
  expired issued now := issued.expired now
  direct _ := none
  lookup applyStatus issued := readableText deployment issued ⟨Dict.empty, applyStatus⟩
  mark instant issued := { issued with consumedAt := some instant }

theorem linkTokens_lawful : linkTokens.Lawful where
  stored := by
    intro hash tokens entry found
    obtain ⟨item, stored, rfl⟩ := Option.map_eq_some_iff.mp found
    exact stored
  find_mark := by
    intro hash tokens key item instant stored
    simp only [linkTokens, Dict.get?_set]
    by_cases same : hash = key
    · subst same
      simp [stored]
    · cases found : tokens.get? hash with
      | none => simp [same]
      | some other => simp [same]
  consumed_mark _ _ := rfl
  expired_mark _ _ _ := rfl

theorem rowsWithHash_mark {hash key : String} {configs : Dict String IssuedConfig}
    {issued : IssuedConfig} (instant : Int) (stored : configs.get? key = some issued) :
    rowsWithHash hash (configs.set key { issued with consumedAt := some instant }) =
      (rowsWithHash hash configs).map (fun entry =>
        if entry.1 = key then (key, { issued with consumedAt := some instant }) else entry) := by
  unfold rowsWithHash
  rw [Dict.entries_set _ (Dict.mem_keys_of_get? stored), List.filter_map]
  congr 1
  apply List.filter_congr
  intro entry listed
  -- the marked row keeps its hash
  by_cases same : entry.1 = key
  · have here : configs.get? entry.1 = some entry.2 := (Dict.mem_entries_iff ..).mp listed
    rw [same, stored] at here
    simp [same, ← Option.some.inj here]
  · simp [same]

theorem issuedConfigs_lawful (deployment : Deployment) : (issuedConfigs deployment).Lawful where
  stored := by
    intro hash configs entry found
    simp only [issuedConfigs] at found
    split at found
    · rename_i only rows
      obtain rfl := Option.some.inj found
      exact (mem_rowsWithHash.mp (rows ▸ List.mem_singleton_self only)).1
    · cases found
  find_mark := by
    intro hash configs key issued instant stored
    simp only [issuedConfigs]
    rw [rowsWithHash_mark instant stored]
    cases rowsWithHash hash configs with
    | nil => rfl
    | cons first rest =>
        cases rest with
        | nil => rfl
        | cons second others => rfl
  consumed_mark _ _ := rfl
  expired_mark _ _ _ := rfl

/-! ### A request on its own -/

def verifyStatements (party : Nat) (hash : String) : List (Event String Unit) :=
  [.select party hash, .check party, .commit party]

def downloadStatements (party : Nat) (hash : String) :
    List (Event String (Dict String (Option String))) :=
  [.select party hash, .check party, .look party, .commit party]

/-- Undisturbed, the statements of a call are `verify_and_consume_one_time_token`. -/
theorem verify_alone (tokenHash : String → String) {token : String} (given : token ≠ "")
    {system : System String OneTimeDownloadToken Unit (String × String)} {party : Nat}
    (idle : system.phases party = .idle) :
    let after := (verifyStatements party (tokenHash token)).foldl (step linkTokens) system
    verifyAndConsumeOneTimeToken tokenHash token system.now system.rows =
      ((after.phases party).payload, after.rows) := by
  cases found : system.rows.get? (tokenHash token) with
  | none =>
      simp [verifyStatements, verifyAndConsumeOneTimeToken, given, found, step, idle, linkTokens,
        System.setPhase, Phase.payload]
  | some item =>
      cases refused : item.refused system.now with
      | true =>
          have blocked : (item.consumedAt.isSome || decide (item.expiresAt < system.now)) = true :=
            refused
          simp [verifyStatements, verifyAndConsumeOneTimeToken, given, found, refused, step, idle,
            linkTokens, System.setPhase, Phase.payload, blocked]
      | false =>
          have blocked : (item.consumedAt.isSome || decide (item.expiresAt < system.now)) = false :=
            refused
          simp [verifyStatements, verifyAndConsumeOneTimeToken, given, found, refused, step, idle,
            linkTokens, System.setPhase, Phase.payload, blocked]

/-- Undisturbed, the statements of a download are `download_config`. -/
theorem download_alone (deployment : Deployment) (token : String)
    {system : System String IssuedConfig (Dict String (Option String)) String} {party : Nat}
    (idle : system.phases party = .idle) :
    let after := (downloadStatements party (deployment.tokenHash token)).foldl
      (step (issuedConfigs deployment)) system
    let result := downloadConfig deployment ⟨token, false, system.now, system.now⟩
      ⟨system.rows, system.data⟩
    result.1.toOption = (after.phases party).payload ∧ result.2 = ⟨after.rows, system.data⟩ := by
  intro after result
  -- whatever stops the statements is one of the checks of `download_config`
  have stops (unserved : (after.phases party).payload = none ∧ after.rows = system.rows)
      (blocked : ∀ id issued text, rowsWithHash (deployment.tokenHash token) system.rows =
        [(id, issued)] → issued.consumedAt = none → issued.expired system.now = false →
        readableText deployment issued ⟨system.rows, system.data⟩ ≠ some text) :
      result.1.toOption = (after.phases party).payload ∧ result.2 = ⟨after.rows, system.data⟩ := by
    obtain ⟨error, refused⟩ | ⟨id, issued, text, rows, unused, unexpired, readable, -⟩ :=
      downloadConfig_cases deployment ⟨token, false, system.now, system.now⟩
        ⟨system.rows, system.data⟩
    · rw [show result = _ from refused, unserved.1, unserved.2]
      exact ⟨rfl, rfl⟩
    · exact absurd readable (blocked id issued text rows unused unexpired)
  cases rows : rowsWithHash (deployment.tokenHash token) system.rows with
  | nil =>
      refine stops ?_ ?_
      · simp [after, downloadStatements, rows, step, idle, issuedConfigs, System.setPhase,
          Phase.payload]
      · intro id issued text only
        cases rows.symm.trans only
  | cons entry rest =>
      cases rest with
      | cons second others =>
          refine stops ?_ ?_
          · simp [after, downloadStatements, rows, step, idle, issuedConfigs, System.setPhase,
              Phase.payload]
          · intro id issued text only
            cases rows.symm.trans only
      | nil =>
          obtain ⟨key, row⟩ := entry
          cases used : row.consumedAt.isSome || row.expired system.now with
          | true =>
              refine stops ?_ ?_
              · simp [after, downloadStatements, rows, step, idle, issuedConfigs, System.setPhase,
                  Phase.payload, used]
              · intro id issued text only unused unexpired
                cases rows.symm.trans only
                simp [unused, unexpired] at used
          | false =>
              obtain ⟨unused, unexpired⟩ := Bool.or_eq_false_iff.mp used
              cases readable : readableText deployment row ⟨Dict.empty, system.data⟩ with
              | none =>
                  refine stops ?_ ?_
                  · simp [after, downloadStatements, rows, step, idle, issuedConfigs,
                      System.setPhase, Phase.payload, unused, unexpired, readable]
                  · intro id issued text only _ _ revealed
                    cases rows.symm.trans only
                    cases readable.symm.trans revealed
              | some text =>
                  have stored : system.rows.get? key = some row :=
                    (mem_rowsWithHash.mp (rows ▸ List.mem_singleton_self (key, row))).1
                  have accepted : result = _ := downloadConfig_accepted rfl rows
                    (by simpa using unused) unexpired readable
                  rw [accepted]
                  simp [after, downloadStatements, rows, step, idle, issuedConfigs,
                    System.setPhase, Phase.payload, unused, unexpired, readable, stored,
                    Except.toOption]

/-! ### Requests in any order -/

/-- Calls and downloads in any order of their statements: none passes its check after the
expiry; and as long as no request selects an unconsumed row that another may still use, and
none is overtaken by the expiry between its check and its commit, each token is used once
and not after its expiry. -/
theorem tokens_used_once_if_careful (deployment : Deployment)
    (tokens : Dict String OneTimeDownloadToken) (configs : Dict String IssuedConfig)
    (applyStatus : Dict String (Option String)) (now : Int) (calls : List (Event String Unit))
    (downloads : List (Event String (Dict String (Option String)))) :
    let link : System String OneTimeDownloadToken Unit (String × String) :=
      System.start tokens () now
    let config : System String IssuedConfig (Dict String (Option String)) String :=
      System.start configs applyStatus now
    (EveryState (step linkTokens) link calls (CheckedInTime linkTokens) ∧
      (EveryStep (step linkTokens) link calls (Careful linkTokens) →
        EveryState (step linkTokens) link calls (UsedOnce linkTokens))) ∧
    EveryState (step (issuedConfigs deployment)) config downloads
        (CheckedInTime (issuedConfigs deployment)) ∧
      (EveryStep (step (issuedConfigs deployment)) config downloads
          (Careful (issuedConfigs deployment)) →
        EveryState (step (issuedConfigs deployment)) config downloads
          (UsedOnce (issuedConfigs deployment))) :=
  ⟨⟨checkedInTime_run linkTokens_lawful tokens () now calls,
      usedOnce_run linkTokens_lawful tokens () now calls⟩,
    checkedInTime_run (issuedConfigs_lawful deployment) configs applyStatus now downloads,
      usedOnce_run (issuedConfigs_lawful deployment) configs applyStatus now downloads⟩

/-- A link token of device `d1`, valid until 100. -/
def oneLink : System String OneTimeDownloadToken Unit (String × String) :=
  System.start (Dict.ofList [("token-1", ⟨"d1", "awg_conf", 100, none⟩)]) () 50

def oneConfig : System String IssuedConfig (Dict String (Option String)) String :=
  System.start freshConfigs.configs freshConfigs.applyStatus 50

/-- Two calls that both select before either commits are both given the payload, and so are
two downloads; a call checked at the last moment returns after the expiry. -/
theorem overlapping_requests_both_served :
    let calls := [Event.select 0 "token-1", .select 1 "token-1", .check 0, .check 1, .commit 0,
      .commit 1].foldl (step linkTokens) oneLink
    let downloads := [Event.select 0 "token-1", .select 1 "token-1", .check 0, .check 1, .look 0,
      .look 1, .commit 0, .commit 1].foldl (step (issuedConfigs sampleDeployment)) oneConfig
    let late := [Event.select 0 "token-1", .tick 100, .check 0, .tick 101, .commit 0].foldl
      (step linkTokens) oneLink
    ((calls.phases 0).payload = some ("d1", "awg_conf") ∧
        (calls.phases 1).payload = some ("d1", "awg_conf")) ∧
      ((downloads.phases 0).payload = some "[Interface]" ∧
        (downloads.phases 1).payload = some "[Interface]") ∧
      (late.phases 0).served? = some (⟨"token-1", "token-1", ⟨"d1", "awg_conf", 100, none⟩⟩, 101) := by
  decide +kernel

/-- Two calls one after the other, and a download. -/
theorem calls_in_turn_used_once :
    EveryState (step linkTokens) oneLink (verifyStatements 0 "token-1" ++ verifyStatements 1 "token-1")
        (UsedOnce linkTokens) ∧
      EveryState (step (issuedConfigs sampleDeployment)) oneConfig
        (downloadStatements 0 "token-1") (UsedOnce (issuedConfigs sampleDeployment)) := by
  have used := tokens_used_once_if_careful sampleDeployment
    (Dict.ofList [("token-1", ⟨"d1", "awg_conf", 100, none⟩)]) freshConfigs.configs
    freshConfigs.applyStatus 50 (verifyStatements 0 "token-1" ++ verifyStatements 1 "token-1")
    (downloadStatements 0 "token-1")
  refine ⟨used.1.2 ?_, used.2.2 ?_⟩
  · refine everyStep_cons.mpr ⟨?_, everyStep_cons.mpr ⟨trivial, everyStep_cons.mpr ⟨trivial,
      everyStep_cons.mpr ⟨?_, everyStep_cons.mpr ⟨trivial, everyStep_cons.mpr ⟨trivial,
      everyStep_nil⟩⟩⟩⟩⟩⟩
    · intro entry _ _ other _ _ claimed
      cases claimed
    · intro entry found unused
      obtain rfl : ("token-1", (⟨"d1", "awg_conf", 100, some 50⟩ : OneTimeDownloadToken)) = entry :=
        Option.some.inj (Eq.trans (by decide +kernel) found)
      cases unused
  · refine everyStep_cons.mpr ⟨?_, everyStep_cons.mpr ⟨trivial, everyStep_cons.mpr ⟨trivial,
      everyStep_cons.mpr ⟨trivial, everyStep_nil⟩⟩⟩⟩
    intro entry _ _ other _ _ claimed
    cases claimed

end VpnSuite.Delivery
