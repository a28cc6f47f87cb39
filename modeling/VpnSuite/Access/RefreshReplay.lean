/-
What listing a used refresh token is worth (`api/v1/auth.py`).

When the check is to fail open, a server answers every run as one that lists no token.  When
it is to fail closed, a used token is refused until its entry ends, which is up to a second
before the token does.  A logout lists a token in its last second only.  A client that always
presents the newest token is cut off once two refreshes fall into one second, since the token
it is then given is the one it has just used.
-/

import VpnSuite.Access.RefreshTokens

set_option autoImplicit false

namespace VpnSuite.Access

open Foundations
open Foundations.ExpiringMarks
open Foundations.PythonText

section Runs

variable {jwt : JwtLibrary} {sha256Hex : String → String} {settings : TokenSettings}

theorem visitAnswer_eq (state : AuthState) (visit : AuthVisit) :
    visitAnswer jwt sha256Hex settings state visit =
      if (bearerToken visit.request).any (fun token => heldBack sha256Hex settings visit
          (state.clock + visit.pause) token state.blocklist)
      then .refused authenticationUnavailable
      else unlistedAnswer jwt settings visit (state.clock + visit.pause) := by
  unfold visitAnswer
  rw [handle_eq]

theorem visitStep_eq (state : AuthState) (visit : AuthVisit) :
    visitStep jwt sha256Hex settings state visit =
      ⟨state.clock + visit.pause, keptMarks sha256Hex (state.clock + visit.pause) state.blocklist
        (listing jwt sha256Hex settings visit (state.clock + visit.pause) state.blocklist)⟩ := by
  unfold visitStep
  rw [handle_eq]

/-! ### Failing open -/

/-- The answers of a server that lists no token. -/
def unlistedAnswers (jwt : JwtLibrary) (settings : TokenSettings) (clock : Nat)
    (visits : List AuthVisit) : List AuthAnswer :=
  observations (fun clock visit => clock + visit.pause)
    (fun clock visit => unlistedAnswer jwt settings visit (clock + visit.pause)) clock visits

theorem heldBack_open (failsOpen : settings.refreshBlocklistFailClosed = false) (visit : AuthVisit)
    (now : Nat) (token : String) (marks : Marks String) :
    heldBack sha256Hex settings visit now token marks = false := by
  unfold heldBack
  rw [failsOpen, Bool.false_and]

theorem authAnswers_open (failsOpen : settings.refreshBlocklistFailClosed = false)
    (state : AuthState) (visits : List AuthVisit) :
    authAnswers jwt sha256Hex settings state visits =
      unlistedAnswers jwt settings state.clock visits := by
  unfold authAnswers unlistedAnswers
  apply observations_eq_of_related (fun state clock => state.clock = clock)
  · intro state clock visit same _
    have passes : (bearerToken visit.request).any (fun token => heldBack sha256Hex settings visit
        (state.clock + visit.pause) token state.blocklist) = false := by
      simp only [heldBack_open failsOpen]
      cases bearerToken visit.request <;> rfl
    rw [visitAnswer_eq, passes, same]
    rfl
  · intro state clock visit same _
    rw [visitStep_eq, same]
  · rfl
  · exact everyStep_true

/-- A request to refresh that finds Redis failing. -/
def unreadVisit : AuthVisit :=
  ⟨.refresh (some ⟨"Bearer", ""⟩), 0, false, false, fun _ => false⟩

theorem unlistedAnswer_ne_unavailable (visit : AuthVisit) (now : Nat) :
    unlistedAnswer jwt settings visit now ≠ .refused authenticationUnavailable := by
  have apart : ∀ error : HttpError, error.status = 401 →
      AuthAnswer.refused error ≠ .refused authenticationUnavailable := by
    intro error status same
    have equal := AuthAnswer.refused.inj same
    rw [equal] at status
    cases status
  have owned : ∀ token error, tokenOwner jwt visit now token = .error error →
      error.status = 401 := by
    intro token error refused
    unfold tokenOwner at refused
    split at refused
    · cases refused
      rfl
    · split at refused
      · cases refused
        rfl
      · split at refused
        · cases refused
          rfl
        · split at refused
          · cases refused
          · cases refused
            rfl
  unfold unlistedAnswer
  split
  · intro same
    cases same
  · split
    · exact apart missingRefreshToken rfl
    · split
      · rename_i refused
        exact apart _ (owned _ _ refused)
      · intro same
        cases same

/-- Failing open is exactly listing no token at all. -/
theorem listing_decides_nothing_iff (jwt : JwtLibrary) (sha256Hex : String → String)
    (settings : TokenSettings) :
    (∀ (state : AuthState) (visits : List AuthVisit),
      authAnswers jwt sha256Hex settings state visits =
        unlistedAnswers jwt settings state.clock visits) ↔
      settings.refreshBlocklistFailClosed = false := by
  constructor
  · intro same
    cases closed : settings.refreshBlocklistFailClosed with
    | false => rfl
    | true =>
        have answers := same ⟨0, Dict.empty⟩ [unreadVisit]
        have here := (List.cons.inj answers).1
        have held : (bearerToken unreadVisit.request).any (fun token =>
            heldBack sha256Hex settings unreadVisit (0 + unreadVisit.pause) token
              (Dict.empty : Marks String)) = true := by
          have presented : bearerToken unreadVisit.request = some "" := by decide +kernel
          rw [presented, Option.any_some]
          unfold heldBack
          rw [closed]
          rfl
        rw [visitAnswer_eq, held] at here
        exact absurd here.symm (unlistedAnswer_ne_unavailable _ _)
  · intro failsOpen state visits
    exact authAnswers_open failsOpen state visits

/-! ### Logging out -/

/-- A token that is logged out has more than a second left. -/
def EarlyLogout (jwt : JwtLibrary) (now : Nat) (visit : AuthVisit) : Prop :=
  ∀ token claims exp, visit.request = .logout token →
    decodeToken jwt now token = some claims →
    claims.exp = some exp → 1000 < 1000 * exp - now

/-- The visit, were Redis to refuse what a logout writes. -/
def unwrittenLogout (visit : AuthVisit) : AuthVisit :=
  match visit.request with
  | .logout _ => { visit with writes := false }
  | .refresh _ => visit

theorem unwrittenLogout_request (visit : AuthVisit) :
    (unwrittenLogout visit).request = visit.request := by
  unfold unwrittenLogout
  split
  · rfl
  · rfl

theorem unwrittenLogout_pause (visit : AuthVisit) :
    (unwrittenLogout visit).pause = visit.pause := by
  unfold unwrittenLogout
  split
  · rfl
  · rfl

theorem loggedOutToken_early {visit : AuthVisit} {now : Nat} (early : EarlyLogout jwt now visit) :
    loggedOutToken jwt now visit.request = none := by
  cases asked : visit.request with
  | refresh credentials => rfl
  | logout token =>
      cases decoded : decodeToken jwt now token with
      | none => simp only [loggedOutToken, decoded, Option.bind_none]
      | some claims =>
          simp only [loggedOutToken, decoded, Option.bind_some]
          cases expires : claims.exp with
          | none => rfl
          | some exp =>
              have long := early token claims exp asked decoded expires
              have past :
                  ¬ (claims.type = some "refresh" ∧ 1000 * exp - (now : Int) ≤ 1000) := by
                intro ending
                have short := ending.2
                omega
              rw [Option.bind_some, if_neg past]

theorem visitAnswer_unwritten (state : AuthState) (visit : AuthVisit) :
    visitAnswer jwt sha256Hex settings state visit =
      visitAnswer jwt sha256Hex settings state (unwrittenLogout visit) := by
  cases asked : visit.request with
  | logout token =>
      simp only [visitAnswer, handle, unwrittenLogout, asked]
  | refresh credentials =>
      have same : unwrittenLogout visit = visit := by simp only [unwrittenLogout, asked]
      rw [same]

theorem visitStep_unwritten (state : AuthState) (visit : AuthVisit)
    (early : EarlyLogout jwt (state.clock + visit.pause) visit) :
    visitStep jwt sha256Hex settings state visit =
      visitStep jwt sha256Hex settings state (unwrittenLogout visit) := by
  cases asked : visit.request with
  | logout token =>
      have idle := loggedOutToken_early early
      have unwritten : (unwrittenLogout visit).writes = false := by
        simp only [unwrittenLogout, asked]
      have bearerless : bearerToken visit.request = none := by rw [asked]; rfl
      rw [visitStep_eq, visitStep_eq, unwrittenLogout_pause]
      simp only [listing, unwritten, bearerless, idle, Option.map_none, ite_self]
      rfl
  | refresh credentials =>
      have same : unwrittenLogout visit = visit := by simp only [unwrittenLogout, asked]
      rw [same]

/-- Logging out with more than a second to go leaves every later answer as it was. -/
theorem early_logouts_list_nothing (jwt : JwtLibrary) (sha256Hex : String → String)
    (settings : TokenSettings) (state : AuthState) (visits : List AuthVisit)
    (early : EveryStep (visitStep jwt sha256Hex settings) state visits
      (fun state visit => EarlyLogout jwt (state.clock + visit.pause) visit)) :
    authAnswers jwt sha256Hex settings state visits =
        authAnswers jwt sha256Hex settings state (visits.map unwrittenLogout) ∧
      visits.foldl (visitStep jwt sha256Hex settings) state =
        (visits.map unwrittenLogout).foldl (visitStep jwt sha256Hex settings) state := by
  have kept : ∀ left right visit, left = right →
      EarlyLogout jwt (left.clock + visit.pause) visit →
      visitStep jwt sha256Hex settings left visit =
        visitStep jwt sha256Hex settings right (unwrittenLogout visit) := by
    intro left right visit same inTime
    rw [← same]
    exact visitStep_unwritten left visit inTime
  constructor
  · unfold authAnswers
    rw [observations_map]
    apply observations_eq_of_related Eq
    · intro left right visit same _
      rw [same]
      exact visitAnswer_unwritten right visit
    · exact kept
    · rfl
    · exact early
  · rw [List.foldl_map]
    exact foldl_related Eq kept rfl early

/-- A token with a minute to go, logged out, then presented. -/
def loggedOutVisits : List AuthVisit :=
  [⟨.logout (sampleLibrary.encode ⟨some "1", some "refresh", some 60⟩), 0, true, true, fun _ => true⟩,
    ⟨.refresh (some ⟨"Bearer", sampleLibrary.encode ⟨some "1", some "refresh", some 60⟩⟩), 0, true,
      true, fun _ => true⟩]

theorem logged_out_token_is_accepted :
    authAnswers sampleLibrary id sampleTokenSettings ⟨0, Dict.empty⟩ loggedOutVisits =
      authAnswers sampleLibrary id sampleTokenSettings ⟨0, Dict.empty⟩
        (loggedOutVisits.map unwrittenLogout) := by
  refine (early_logouts_list_nothing sampleLibrary id sampleTokenSettings ⟨0, Dict.empty⟩
    loggedOutVisits ?_).1
  have early : ∀ exp : Int, 1 < exp → EarlyLogout sampleLibrary 0
      ⟨.logout (sampleLibrary.encode ⟨some "1", some "refresh", some exp⟩), 0, true, true,
        fun _ => true⟩ := by
    intro exp long token claims other asked decoded expires
    cases asked
    have verified := (Option.filter_eq_some_iff.mp decoded).1
    rw [sampleLibrary_signs] at verified
    cases verified
    cases expires
    omega
  unfold loggedOutVisits
  rw [everyStep_cons, everyStep_cons]
  refine ⟨early 60 (by decide), ?_, everyStep_nil⟩
  intro token claims exp asked
  cases asked

/-! ### Failing closed -/

def Accepted (jwt : JwtLibrary) (sha256Hex : String → String) (settings : TokenSettings)
    (state : AuthState) (visit : AuthVisit) : Prop :=
  ∃ tokens, visitAnswer jwt sha256Hex settings state visit = .refreshed tokens

/-- A request to refresh with a token of the same digest. -/
def Presents (sha256Hex : String → String) (token : String) (visit : AuthVisit) : Prop :=
  ∃ other, bearerToken visit.request = some other ∧ sha256Hex other = sha256Hex token

/-- Redis answers the request, and its token is good. -/
def Sound (jwt : JwtLibrary) (sha256Hex : String → String) (token : String) (now : Nat)
    (visit : AuthVisit) : Prop :=
  visit.reads = true ∧ ∃ other owner, bearerToken visit.request = some other ∧
    sha256Hex other = sha256Hex token ∧ tokenOwner jwt visit now other = .ok owner

/-- The clock, and the instant at which the entry of a token ends. -/
structure Timetable where
  clock : Nat
  ends : Int

/-- A logout that Redis takes lists its token for a second. -/
def relisted (jwt : JwtLibrary) (sha256Hex : String → String) (token : String) (now : Nat)
    (visit : AuthVisit) (ends : Int) : Int :=
  match loggedOutToken jwt now visit.request with
  | none => ends
  | some other => if visit.writes ∧ sha256Hex other = sha256Hex token then now + 1000 else ends

def Timetable.step (jwt : JwtLibrary) (sha256Hex : String → String) (token : String)
    (table : Timetable) (visit : AuthVisit) : Timetable :=
  ⟨table.clock + visit.pause,
    relisted jwt sha256Hex token (table.clock + visit.pause) visit table.ends⟩

theorem refreshBlocklistKey_eq_iff {first second : String} :
    refreshBlocklistKey sha256Hex first = refreshBlocklistKey sha256Hex second ↔
      sha256Hex first = sha256Hex second := by
  unfold refreshBlocklistKey
  rw [← String.toList_inj, String.toList_append, String.toList_append, List.append_right_inj,
    String.toList_inj]

theorem heldBack_closed (closed : settings.refreshBlocklistFailClosed = true) (visit : AuthVisit)
    (now : Nat) (token : String) (marks : Marks String) :
    heldBack sha256Hex settings visit now token marks = false ↔
      visit.reads = true ∧ marked now (refreshBlocklistKey sha256Hex token) marks = false := by
  unfold heldBack
  rw [closed, Bool.true_and, Bool.or_eq_false_iff, Bool.not_eq_false']

theorem unlistedAnswer_presented {visit : AuthVisit} {now : Nat} {token : String}
    (presented : bearerToken visit.request = some token) :
    (∀ owner, tokenOwner jwt visit now token = .ok owner →
        unlistedAnswer jwt settings visit now = .refreshed (issueTokens jwt settings now owner.1)) ∧
      ∀ error, tokenOwner jwt visit now token = .error error →
        unlistedAnswer jwt settings visit now = .refused error := by
  rcases bearerToken_eq_some presented with ⟨given, asked, _, _⟩
  have same : bearerToken (.refresh (some given)) = some token := by rw [← asked, presented]
  constructor
  · intro owner owned
    simp only [unlistedAnswer, asked, same, owned]
  · intro error refused
    simp only [unlistedAnswer, asked, same, refused]

/-- What is accepted is what a server that lists no token accepts and the check lets pass. -/
theorem accepted_iff {state : AuthState} {visit : AuthVisit} {token : String}
    (presented : bearerToken visit.request = some token) :
    Accepted jwt sha256Hex settings state visit ↔
      heldBack sha256Hex settings visit (state.clock + visit.pause) token state.blocklist = false ∧
        ∃ owner, tokenOwner jwt visit (state.clock + visit.pause) token = .ok owner := by
  unfold Accepted
  rw [visitAnswer_eq, presented, Option.any_some]
  cases heldBack sha256Hex settings visit (state.clock + visit.pause) token state.blocklist with
  | true => simp
  | false =>
      cases owned : tokenOwner jwt visit (state.clock + visit.pause) token with
      | error error => simp [(unlistedAnswer_presented presented).2 error owned]
      | ok owner => simp [(unlistedAnswer_presented presented).1 owner owned]

theorem presented_accepted_iff (closed : settings.refreshBlocklistFailClosed = true)
    (state : AuthState) (visit : AuthVisit) (token : String) :
    Presents sha256Hex token visit ∧ Accepted jwt sha256Hex settings state visit ↔
      Sound jwt sha256Hex token (state.clock + visit.pause) visit ∧
        marked (state.clock + visit.pause : Nat) (refreshBlocklistKey sha256Hex token)
          state.blocklist = false := by
  constructor
  · intro both
    rcases both with ⟨⟨other, presented, same⟩, accepted⟩
    rcases (accepted_iff presented).mp accepted with ⟨passes, owner, owned⟩
    rcases (heldBack_closed closed ..).mp passes with ⟨reads, free⟩
    rw [refreshBlocklistKey_eq_iff.mpr same] at free
    exact ⟨⟨reads, other, owner, presented, same, owned⟩, free⟩
  · intro both
    rcases both with ⟨⟨reads, other, owner, presented, same, owned⟩, free⟩
    rw [← refreshBlocklistKey_eq_iff.mpr same] at free
    exact ⟨⟨other, presented, same⟩, (accepted_iff presented).mpr
      ⟨(heldBack_closed closed ..).mpr ⟨reads, free⟩, owner, owned⟩⟩

/-- How a visit that is not accepted with the token moves its entry. -/
theorem ends_visitStep {state : AuthState} {visit : AuthVisit} {token : String}
    {ends : Int} (listed : state.blocklist.get? (refreshBlocklistKey sha256Hex token) = some ends)
    (idle : ¬ (Presents sha256Hex token visit ∧ Accepted jwt sha256Hex settings state visit)) :
    (visitStep jwt sha256Hex settings state visit).blocklist.get?
        (refreshBlocklistKey sha256Hex token) =
      some (relisted jwt sha256Hex token (state.clock + visit.pause) visit ends) := by
  rw [visitStep_eq]
  unfold listing relisted
  cases presented : bearerToken visit.request with
  | some other =>
      rcases bearerToken_eq_some presented with ⟨given, asked, _, _⟩
      have noLogout : loggedOutToken jwt (state.clock + visit.pause) visit.request = none := by
        rw [asked]
        rfl
      rw [noLogout]
      by_cases writes : visit.writes = true
      · simp only [if_pos writes]
        by_cases accepted : Accepted jwt sha256Hex settings state visit
        · have apart : sha256Hex other ≠ sha256Hex token := by
            intro same
            exact idle ⟨⟨other, presented, same⟩, accepted⟩
          rcases (accepted_iff presented).mp accepted with ⟨passes, owner, owned⟩
          have apartKeys : refreshBlocklistKey sha256Hex token ≠
              refreshBlocklistKey sha256Hex other := by
            intro same
            exact apart (refreshBlocklistKey_eq_iff.mp same).symm
          simp only [passes, owned]
          exact (get?_mark_other apartKeys).trans listed
        · cases held : heldBack sha256Hex settings visit (state.clock + visit.pause) other
              state.blocklist with
          | true => exact listed
          | false =>
              cases owned : tokenOwner jwt visit (state.clock + visit.pause) other with
              | error error => exact listed
              | ok owner => exact absurd ((accepted_iff presented).mpr ⟨held, owner, owned⟩) accepted
      · rw [if_neg writes]
        exact listed
  | none =>
      cases loggedOut : loggedOutToken jwt (state.clock + visit.pause) visit.request with
      | none => simpa [keptMarks] using listed
      | some other =>
          by_cases writes : visit.writes = true
          · simp only [writes, if_true, true_and, Option.map_some, keptMarks]
            by_cases same : sha256Hex other = sha256Hex token
            · rw [if_pos same, ← refreshBlocklistKey_eq_iff.mpr same]
              exact get?_mark_self
            · have apartKeys : refreshBlocklistKey sha256Hex token ≠
                  refreshBlocklistKey sha256Hex other := by
                intro equal
                exact same (refreshBlocklistKey_eq_iff.mp equal).symm
              rw [if_neg same]
              exact (get?_mark_other apartKeys).trans listed
          · simpa [keptMarks, writes] using listed

theorem free_iff_ends {state : AuthState} {key : String} {ends now : Int}
    (listed : state.blocklist.get? key = some ends) :
    marked now key state.blocklist = false ↔ ends ≤ now := by
  rw [marked_eq_false_iff]
  unfold FreeFrom
  rw [listed]
  simp

/-- A token is accepted again exactly when it comes after its entry has ended. -/
theorem accepted_again_iff (closed : settings.refreshBlocklistFailClosed = true)
    {state : AuthState} {token : String} {ends : Int} (later : List AuthVisit)
    (listed : state.blocklist.get? (refreshBlocklistKey sha256Hex token) = some ends) :
    SomeStep (visitStep jwt sha256Hex settings) state later
        (fun state visit => Presents sha256Hex token visit ∧
          Accepted jwt sha256Hex settings state visit) ↔
      SomeStep (Timetable.step jwt sha256Hex token) ⟨state.clock, ends⟩ later
        (fun table visit => Sound jwt sha256Hex token (table.clock + visit.pause) visit ∧
          table.ends ≤ (table.clock + visit.pause : Nat)) := by
  apply someStep_iff_of_related (fun (state : AuthState) (table : Timetable) =>
    table.clock = state.clock ∧
      state.blocklist.get? (refreshBlocklistKey sha256Hex token) = some table.ends)
  · intro state table visit _ related
    rw [presented_accepted_iff closed, free_iff_ends related.2, related.1]
  · intro state table visit _ related idle
    constructor
    · rw [visitStep_eq]
      unfold Timetable.step
      rw [related.1]
    · rw [ends_visitStep related.2 idle]
      unfold Timetable.step
      rw [related.1]
  · exact ⟨rfl, listed⟩

/-- The entry an accepted refresh leaves. -/
theorem listed_of_accepted {state : AuthState} {first : AuthVisit} {token : String}
    {owner : String × Int} (presented : bearerToken first.request = some token)
    (owned : tokenOwner jwt first (state.clock + first.pause) token = .ok owner)
    (written : first.writes = true) (accepted : Accepted jwt sha256Hex settings state first) :
    (visitStep jwt sha256Hex settings state first).blocklist.get?
        (refreshBlocklistKey sha256Hex token) =
      some ((state.clock + first.pause : Nat) +
        1000 * rotationTtl (state.clock + first.pause) owner.2) := by
  have passes := ((accepted_iff presented).mp accepted).1
  rw [visitStep_eq]
  simp only [listing, written, presented, passes, owned]
  exact get?_mark_self

theorem tokenOwner_good {visit : AuthVisit} {now : Nat} {token sub : String} {exp : Int}
    (good : jwt.verified token = some ⟨some sub, some "refresh", some exp⟩) (named : sub ≠ "")
    (owner : String × Int) :
    tokenOwner jwt visit now token = .ok owner ↔
      seconds now ≤ exp ∧ visit.admins sub = true ∧ owner = (sub, exp) := by
  unfold tokenOwner decodeToken
  rw [good]
  by_cases inTime : seconds now ≤ exp
  · by_cases known : visit.admins sub = true
    · simp only [Option.filter_some, inTime, orNone, named, known, Option.all_some, decide_true,
        if_true, if_false, Option.bind_some, Option.getD_some, ne_eq, not_true_eq_false,
        Except.ok.injEq, true_and]
      exact eq_comm
    · simp [Option.filter_some, inTime, orNone, named, known]
  · simp [Option.filter_some, inTime]

/-- What is left of the last second of a token after its entry has ended. -/
theorem entry_ended_iff {used now : Nat} {exp : Int} (inTime : seconds used ≤ exp) :
    seconds now ≤ exp ∧ ((used : Int) + 1000 * rotationTtl used exp ≤ now) ↔
      seconds now = exp ∧ seconds used < exp ∧ used % 1000 ≤ now % 1000 := by
  unfold seconds rotationTtl at *
  unfold seconds
  omega

/-- A used token is accepted again exactly in the last second of its life, once that second
is as old as the one it was first used in was then. -/
theorem used_token_replayed_iff (closed : settings.refreshBlocklistFailClosed = true)
    {state : AuthState} {first : AuthVisit} {token sub : String} {exp : Int}
    (later : List AuthVisit) (presented : bearerToken first.request = some token)
    (good : jwt.verified token = some ⟨some sub, some "refresh", some exp⟩) (named : sub ≠ "")
    (written : first.writes = true) (accepted : Accepted jwt sha256Hex settings state first)
    (apart : ∀ visit ∈ later, ∀ other, bearerToken visit.request = some other →
      sha256Hex other = sha256Hex token → other = token)
    (stays : ∀ visit ∈ later, ∀ other, visit.request = .logout other →
      sha256Hex other ≠ sha256Hex token) :
    SomeStep (visitStep jwt sha256Hex settings) (visitStep jwt sha256Hex settings state first) later
        (fun state visit => Presents sha256Hex token visit ∧
          Accepted jwt sha256Hex settings state visit) ↔
      SomeStep (fun clock visit => clock + visit.pause) (state.clock + first.pause) later
        (fun clock visit => bearerToken visit.request = some token ∧ visit.reads = true ∧
          visit.admins sub = true ∧ seconds (clock + visit.pause) = exp ∧
          seconds (state.clock + first.pause) < exp ∧
          (state.clock + first.pause) % 1000 ≤ (clock + visit.pause) % 1000) := by
  rcases ((accepted_iff presented).mp accepted).2 with ⟨owner, owned⟩
  rcases (tokenOwner_good good named owner).mp owned with ⟨inTime, known, rfl⟩
  rw [accepted_again_iff closed later (listed_of_accepted presented owned written accepted)]
  apply someStep_iff_of_related (fun (table : Timetable) clock => table.clock = clock ∧
    table.ends = (state.clock + first.pause : Nat) +
      1000 * rotationTtl (state.clock + first.pause) exp)
  · intro table clock visit member related
    rcases related with ⟨sameClock, sameEnds⟩
    rw [sameClock, sameEnds]
    constructor
    · intro both
      rcases both with ⟨⟨reads, other, owner, shown, same, found⟩, ended⟩
      have equal := apart visit member other shown same
      subst equal
      rcases (tokenOwner_good good named owner).mp found with ⟨alive, admin, _⟩
      rcases (entry_ended_iff inTime).mp ⟨alive, ended⟩ with ⟨last, early, late⟩
      exact ⟨shown, reads, admin, last, early, late⟩
    · intro all
      rcases all with ⟨shown, reads, admin, last, early, late⟩
      rcases (entry_ended_iff inTime).mpr ⟨last, early, late⟩ with ⟨alive, ended⟩
      exact ⟨⟨reads, token, (sub, exp), shown, rfl,
        (tokenOwner_good good named _).mpr ⟨alive, admin, rfl⟩⟩, ended⟩
  · intro table clock visit member related _
    rcases related with ⟨sameClock, sameEnds⟩
    unfold Timetable.step
    refine ⟨by rw [sameClock], ?_⟩
    have unlisted : relisted jwt sha256Hex token (table.clock + visit.pause) visit table.ends =
        table.ends := by
      cases asked : visit.request with
      | refresh credentials => simp only [relisted, loggedOutToken, asked]
      | logout other =>
          have different := stays visit member other asked
          unfold relisted
          rw [asked]
          split
          · rfl
          · rename_i listed found
            have sameToken : other = listed := by
              simp only [loggedOutToken, Option.bind_eq_some_iff] at found
              rcases found with ⟨claims, _, exp, _, chosen⟩
              split at chosen
              · exact Option.some.inj chosen
              · cases chosen
            rw [← sameToken, if_neg (fun both => different both.2)]
    exact unlisted.trans sameEnds
  · exact ⟨rfl, rfl⟩

/-- A token with five seconds to go, used a quarter of a second into one of them. -/
def sampleRefreshToken : String := sampleLibrary.encode ⟨some "1", some "refresh", some 5⟩

def samplePresented (pause : Nat) : AuthVisit :=
  ⟨.refresh (some ⟨"Bearer", sampleRefreshToken⟩), pause, true, true, fun _ => true⟩

theorem samplePresented_bearer (pause : Nat) :
    bearerToken (samplePresented pause).request = some sampleRefreshToken := by
  have bearer : ("Bearer" : String).toLower = "bearer" := by decide +kernel
  simp [bearerToken, samplePresented, Option.filter_some, bearer]

theorem sample_token_is_replayed :
    SomeStep (visitStep sampleLibrary id sampleTokenSettings)
      (visitStep sampleLibrary id sampleTokenSettings ⟨0, Dict.empty⟩ (samplePresented 250))
      [samplePresented 5000]
      (fun state visit => Presents id sampleRefreshToken visit ∧
        Accepted sampleLibrary id sampleTokenSettings state visit) := by
  have good := sampleLibrary_signs 5
  have owned : tokenOwner sampleLibrary (samplePresented 250) 250 sampleRefreshToken = .ok ("1", 5) :=
    (tokenOwner_good good (by decide) _).mpr ⟨by decide, rfl, rfl⟩
  have accepted : Accepted sampleLibrary id sampleTokenSettings ⟨0, Dict.empty⟩
      (samplePresented 250) :=
    (accepted_iff (samplePresented_bearer 250)).mpr ⟨rfl, _, owned⟩
  refine (used_token_replayed_iff rfl [samplePresented 5000] (samplePresented_bearer 250) good
    (by decide) rfl accepted ?_ ?_).mpr ?_
  · intro visit member other presented same
    exact same
  · intro visit member other asked
    rw [List.mem_singleton] at member
    rw [member] at asked
    cases asked
  · refine ⟨[], samplePresented 5000, [], rfl, samplePresented_bearer 5000, rfl, rfl, ?_⟩
    decide

end Runs

end VpnSuite.Access
