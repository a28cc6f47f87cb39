/-
A client that goes on refreshing (`api/v1/auth.py`, `core/security.py`).

The client presents the refresh token it was given last.  A token is its claims and nothing
else, so that a refresh in the second in which its token was issued returns that token, which
is then listed.  A timetable of two numbers, the second of issue and the end of the entry of
the token held, says at which refresh a session ends.
-/

import VpnSuite.Access.RefreshReplay

set_option autoImplicit false

namespace VpnSuite.Access

open Foundations
open Foundations.ExpiringMarks
open Foundations.PythonText

/-- The circumstances of a refresh; which token it presents is up to the client. -/
structure Turn where
  pause : Nat
  reads : Bool
  writes : Bool
  admins : String → Bool

structure SessionClient where
  state : AuthState
  token : Option String

/-- The claims of a refresh token. -/
def ownedClaims (sub : String) (exp : Int) : Claims := ⟨some sub, some "refresh", some exp⟩

section Clients

variable (jwt : JwtLibrary) (sha256Hex : String → String) (settings : TokenSettings)

def Turn.visit (turn : Turn) (token : String) : AuthVisit :=
  ⟨.refresh (some ⟨"Bearer", token⟩), turn.pause, turn.reads, turn.writes, turn.admins⟩

/-- A client that is turned away has to log in again. -/
def SessionClient.step (client : SessionClient) (turn : Turn) : SessionClient :=
  match client.token with
  | none => client
  | some token =>
      ⟨visitStep jwt sha256Hex settings client.state (turn.visit token),
        match visitAnswer jwt sha256Hex settings client.state (turn.visit token) with
        | .refreshed tokens => some tokens.refreshToken
        | .refused _ => none
        | .loggedOut => none⟩

def SessionClient.loggedIn (clock : Nat) (blocklist : Marks String) (sub : String) :
    SessionClient :=
  ⟨⟨clock, blocklist⟩, some (createRefreshToken jwt settings clock sub)⟩

end Clients

/-! ### The timetable of a session -/

/-- The second the token held was issued in, and the end of its entry, if it has one. -/
structure Session where
  clock : Nat
  issued : Int
  ends : Option Int

/-- A refresh at this turn goes through. -/
def Session.Survives (settings : TokenSettings) (sub : String) (session : Session) (turn : Turn) :
    Prop :=
  (settings.refreshBlocklistFailClosed = true → turn.reads = true ∧
      ∀ ends, session.ends = some ends → ends ≤ (session.clock + turn.pause : Nat)) ∧
    seconds (session.clock + turn.pause) ≤ session.issued + settings.refreshTokenExpireSeconds ∧
    turn.admins sub = true

/-- The token is issued anew, or in the second of its issue once more. -/
def Session.step (settings : TokenSettings) (session : Session) (turn : Turn) : Session :=
  let now := session.clock + turn.pause
  ⟨now, seconds now,
    if seconds now = session.issued then
      if turn.writes then some (now + 1000 * max 1 settings.refreshTokenExpireSeconds)
      else session.ends
    else none⟩

section Law

variable {jwt : JwtLibrary} {sha256Hex : String → String} {settings : TokenSettings}
  {sub : String}

/-- The key under which a token of the session is listed. -/
def sessionKey (jwt : JwtLibrary) (sha256Hex : String → String) (sub : String) (exp : Int) :
    String :=
  refreshBlocklistKey sha256Hex (jwt.encode (ownedClaims sub exp))

/-- The client holds the token of the timetable, and none that would expire later is listed. -/
structure Follows (jwt : JwtLibrary) (sha256Hex : String → String) (settings : TokenSettings)
    (sub : String) (client : SessionClient) (session : Session) : Prop where
  clock : client.state.clock = session.clock
  issued : session.issued ≤ seconds session.clock
  token : client.token =
    some (jwt.encode (ownedClaims sub (session.issued + settings.refreshTokenExpireSeconds)))
  ends : client.state.blocklist.get? (sessionKey jwt sha256Hex sub
    (session.issued + settings.refreshTokenExpireSeconds)) = session.ends
  fresh : ∀ exp, session.issued + settings.refreshTokenExpireSeconds < exp →
    client.state.blocklist.get? (sessionKey jwt sha256Hex sub exp) = none

theorem bearerToken_visit (turn : Turn) (token : String) :
    bearerToken (turn.visit token).request = some token := by
  have bearer : ("Bearer" : String).toLower = "bearer" := by decide +kernel
  simp [bearerToken, Turn.visit, Option.filter_some, bearer]

/-- A turn is survived when the token held is accepted. -/
theorem Follows.survives_iff {client : SessionClient} {session : Session}
    (signs : ∀ exp, jwt.verified (jwt.encode (ownedClaims sub exp)) = some (ownedClaims sub exp))
    (named : sub ≠ "")
    (follows : Follows jwt sha256Hex settings sub client session) (turn : Turn) :
    Accepted jwt sha256Hex settings client.state (turn.visit (jwt.encode (ownedClaims sub
        (session.issued + settings.refreshTokenExpireSeconds)))) ↔
      session.Survives settings sub turn := by
  rw [accepted_iff (bearerToken_visit turn _)]
  have clock : client.state.clock + (turn.visit (jwt.encode (ownedClaims sub
      (session.issued + settings.refreshTokenExpireSeconds)))).pause =
      session.clock + turn.pause := by
    rw [follows.clock]
    rfl
  rw [clock]
  have owners : (∃ owner, tokenOwner jwt (turn.visit (jwt.encode (ownedClaims sub
        (session.issued + settings.refreshTokenExpireSeconds)))) (session.clock + turn.pause)
        (jwt.encode (ownedClaims sub
          (session.issued + settings.refreshTokenExpireSeconds))) = .ok owner) ↔
      seconds (session.clock + turn.pause) ≤
          session.issued + settings.refreshTokenExpireSeconds ∧
        turn.admins sub = true := by
    constructor
    · intro found
      rcases found with ⟨owner, owned⟩
      rcases (tokenOwner_good (signs _) named owner).mp owned with ⟨alive, admin, _⟩
      exact ⟨alive, admin⟩
    · intro both
      exact ⟨_, (tokenOwner_good (signs _) named _).mpr ⟨both.1, both.2, rfl⟩⟩
  rw [owners]
  unfold Session.Survives
  apply and_congr_left'
  cases closed : settings.refreshBlocklistFailClosed with
  | false => simp [heldBack_open closed]
  | true =>
      rw [heldBack_closed closed, marked_eq_false_iff]
      unfold FreeFrom
      have entry := follows.ends
      unfold sessionKey at entry
      rw [entry]
      simp [Turn.visit]

theorem seconds_mono {earlier later : Nat} (passed : earlier ≤ later) :
    seconds earlier ≤ seconds later := by
  unfold seconds
  omega

/-- What a turn that is survived leaves under the keys of the session. -/
theorem get?_visitStep {state : AuthState} {turn : Turn} {exp : Int}
    (signs : ∀ exp, jwt.verified (jwt.encode (ownedClaims sub exp)) = some (ownedClaims sub exp))
    (named : sub ≠ "")
    (apart : ∀ first second, sha256Hex (jwt.encode (ownedClaims sub first)) =
      sha256Hex (jwt.encode (ownedClaims sub second)) → first = second)
    (accepted : Accepted jwt sha256Hex settings state
      (turn.visit (jwt.encode (ownedClaims sub exp)))) (other : Int) :
    (visitStep jwt sha256Hex settings state
        (turn.visit (jwt.encode (ownedClaims sub exp)))).blocklist.get?
        (sessionKey jwt sha256Hex sub other) =
      if turn.writes = true ∧ other = exp then
        some ((state.clock + turn.pause : Nat) + 1000 * rotationTtl (state.clock + turn.pause) exp)
      else state.blocklist.get? (sessionKey jwt sha256Hex sub other) := by
  rcases (accepted_iff (bearerToken_visit turn _)).mp accepted with ⟨passes, owner, owned⟩
  have same := ((tokenOwner_good (signs _) named owner).mp owned).2.2
  rw [visitStep_eq]
  by_cases written : turn.writes = true
  · have writes : (turn.visit (jwt.encode (ownedClaims sub exp))).writes = true := written
    simp only [listing, writes, if_true, bearerToken_visit, passes, owned, written, true_and, same]
    by_cases equal : other = exp
    · rw [if_pos equal, equal]
      exact get?_mark_self
    · rw [if_neg equal]
      apply get?_mark_other
      intro sameKey
      exact equal (apart other exp (refreshBlocklistKey_eq_iff.mp sameKey))
  · have unwritten : ¬ (turn.visit (jwt.encode (ownedClaims sub exp))).writes = true := written
    simp only [listing, unwritten, written]
    rfl

theorem visitAnswer_accepted {state : AuthState} {visit : AuthVisit} {token : String}
    {owner : String × Int} (presented : bearerToken visit.request = some token)
    (owned : tokenOwner jwt visit (state.clock + visit.pause) token = .ok owner)
    (accepted : Accepted jwt sha256Hex settings state visit) :
    visitAnswer jwt sha256Hex settings state visit =
      .refreshed (issueTokens jwt settings (state.clock + visit.pause) owner.1) := by
  have passes := ((accepted_iff presented).mp accepted).1
  rw [visitAnswer_eq, presented, Option.any_some, passes]
  exact (unlistedAnswer_presented presented).1 owner owned

theorem SessionClient.step_accepted {client : SessionClient} {turn : Turn} {token : String}
    (held : client.token = some token) {tokens : TokenResponse}
    (accepted : visitAnswer jwt sha256Hex settings client.state (turn.visit token) =
      .refreshed tokens) :
    client.step jwt sha256Hex settings turn =
      ⟨visitStep jwt sha256Hex settings client.state (turn.visit token),
        some tokens.refreshToken⟩ := by
  unfold SessionClient.step
  simp only [held, accepted]

theorem SessionClient.step_refused {client : SessionClient} {turn : Turn} {token : String}
    (held : client.token = some token)
    (refused : ¬ Accepted jwt sha256Hex settings client.state (turn.visit token)) :
    (client.step jwt sha256Hex settings turn).token = none := by
  unfold SessionClient.step
  simp only [held]
  cases answered : visitAnswer jwt sha256Hex settings client.state (turn.visit token) with
  | refreshed tokens => exact absurd ⟨tokens, answered⟩ refused
  | refused error => rfl
  | loggedOut => rfl

theorem Follows.step {client : SessionClient} {session : Session} {turn : Turn}
    (signs : ∀ exp, jwt.verified (jwt.encode (ownedClaims sub exp)) = some (ownedClaims sub exp))
    (named : sub ≠ "")
    (apart : ∀ first second, sha256Hex (jwt.encode (ownedClaims sub first)) =
      sha256Hex (jwt.encode (ownedClaims sub second)) → first = second)
    (follows : Follows jwt sha256Hex settings sub client session)
    (survives : session.Survives settings sub turn) :
    Follows jwt sha256Hex settings sub (client.step jwt sha256Hex settings turn)
      (session.step settings turn) := by
  have accepted := (follows.survives_iff signs named turn).mpr survives
  rcases ((accepted_iff (bearerToken_visit turn _)).mp accepted).2 with ⟨owner, owned⟩
  have answered := visitAnswer_accepted (bearerToken_visit turn _) owned accepted
  have ownSub := ((tokenOwner_good (signs _) named owner).mp owned).2.2
  have left := get?_visitStep signs named apart accepted
  have later : session.issued ≤ seconds (session.clock + turn.pause) :=
    Int.le_trans follows.issued (seconds_mono (Nat.le_add_right _ _))
  rw [SessionClient.step_accepted follows.token answered]
  constructor
  · exact congrArg (· + turn.pause) follows.clock
  · exact Int.le_refl _
  · have clock : client.state.clock + (turn.visit (jwt.encode (ownedClaims sub
        (session.issued + settings.refreshTokenExpireSeconds)))).pause =
        session.clock + turn.pause := congrArg (· + turn.pause) follows.clock
    rw [clock, ownSub]
    rfl
  · unfold Session.step
    rw [left, follows.clock]
    by_cases again : seconds (session.clock + turn.pause) = session.issued
    · simp only [again, and_true, if_true, follows.ends]
      by_cases written : turn.writes = true
      · have left : session.issued + settings.refreshTokenExpireSeconds - session.issued =
            settings.refreshTokenExpireSeconds := by omega
        rw [if_pos written, if_pos written, rotationTtl, again, left]
      · rw [if_neg written, if_neg written]
    · have different : ¬ seconds (session.clock + turn.pause) +
          settings.refreshTokenExpireSeconds =
          session.issued + settings.refreshTokenExpireSeconds := by omega
      simp only [different, again, and_false, if_false]
      exact follows.fresh _ (by omega)
  · intro exp past
    have beyond : session.issued + settings.refreshTokenExpireSeconds < exp := by
      have after : (session.step settings turn).issued = seconds (session.clock + turn.pause) :=
        rfl
      omega
    rw [left, if_neg (fun both => absurd both.2 (by omega))]
    exact follows.fresh exp beyond

theorem SessionClient.turned_away {client : SessionClient} (turnedAway : client.token = none)
    (turns : List Turn) :
    turns.foldl (SessionClient.step jwt sha256Hex settings) client = client := by
  induction turns with
  | nil => rfl
  | cons turn rest ih =>
      have still : client.step jwt sha256Hex settings turn = client := by
        unfold SessionClient.step
        rw [turnedAway]
      rw [List.foldl_cons, still, ih]

/-- A session holds a token at its end when no turn of it failed. -/
theorem holds_token_iff {client : SessionClient} (held : client.token.isSome = true)
    (turns : List Turn) :
    (turns.foldl (SessionClient.step jwt sha256Hex settings) client).token.isSome = true ↔
      ¬ SomeStep (SessionClient.step jwt sha256Hex settings) client turns
        (fun client turn => (client.step jwt sha256Hex settings turn).token = none) := by
  induction turns generalizing client with
  | nil => exact iff_of_true held someStep_nil
  | cons turn rest ih =>
      rw [List.foldl_cons, someStep_cons, not_or]
      by_cases lost : (client.step jwt sha256Hex settings turn).token = none
      · rw [SessionClient.turned_away lost, lost]
        simp
      · have still : (client.step jwt sha256Hex settings turn).token.isSome = true :=
          Option.isSome_iff_ne_none.mpr lost
        rw [ih still, and_iff_right lost]

/-- A session lasts exactly as long as each of its turns survives the timetable. -/
theorem session_lasts_iff
    (signs : ∀ exp, jwt.verified (jwt.encode (ownedClaims sub exp)) = some (ownedClaims sub exp))
    (named : sub ≠ "")
    (apart : ∀ first second, sha256Hex (jwt.encode (ownedClaims sub first)) =
      sha256Hex (jwt.encode (ownedClaims sub second)) → first = second)
    (clock : Nat) (blocklist : Marks String)
    (unlisted : ∀ exp, blocklist.get? (sessionKey jwt sha256Hex sub exp) = none)
    (turns : List Turn) :
    (turns.foldl (SessionClient.step jwt sha256Hex settings)
        (SessionClient.loggedIn jwt settings clock blocklist sub)).token.isSome = true ↔
      EveryStep (Session.step settings) ⟨clock, seconds clock, none⟩ turns
        (Session.Survives settings sub) := by
  have follows : Follows jwt sha256Hex settings sub
      (SessionClient.loggedIn jwt settings clock blocklist sub) ⟨clock, seconds clock, none⟩ :=
    ⟨rfl, Int.le_refl _, rfl, unlisted _, fun exp _ => unlisted exp⟩
  have every : EveryStep (Session.step settings) ⟨clock, seconds clock, none⟩ turns
        (Session.Survives settings sub) ↔
      ¬ SomeStep (Session.step settings) ⟨clock, seconds clock, none⟩ turns
        (fun session turn => ¬ session.Survives settings sub turn) := by
    rw [← everyStep_not_iff]
    simp only [not_not]
  rw [holds_token_iff rfl, every]
  apply not_congr
  apply someStep_iff_of_related (Follows jwt sha256Hex settings sub)
  · intro client session turn _ follows
    have survives := follows.survives_iff signs named turn
    constructor
    · intro lost survived
      rcases survives.mpr survived with ⟨tokens, answered⟩
      rw [SessionClient.step_accepted follows.token answered] at lost
      cases lost
    · intro failed
      exact SessionClient.step_refused follows.token (fun accepted => failed (survives.mp accepted))
  · intro client session turn _ follows kept
    by_cases survived : session.Survives settings sub turn
    · exact follows.step signs named apart survived
    · exact absurd (SessionClient.step_refused follows.token (fun accepted =>
        survived ((follows.survives_iff signs named turn).mp accepted))) kept
  · exact follows

/-- Three refreshes within the second of the login, when the check is to fail closed. -/
theorem hasty_session_ends :
    ¬ ((List.replicate 3 (⟨100, true, true, fun _ => true⟩ : Turn)).foldl
      (SessionClient.step sampleLibrary id sampleTokenSettings)
      (SessionClient.loggedIn sampleLibrary sampleTokenSettings 0 Dict.empty "1")).token.isSome =
        true := by
  rw [session_lasts_iff sampleLibrary_signs (by decide)
    (fun first second same => sampleLibrary_injective same) 0 Dict.empty (fun exp => rfl)]
  intro every
  have second := (everyStep_cons.mp (everyStep_cons.mp every).2).1
  have passed := (second.1 rfl).2 604800100 (by decide)
  revert passed
  decide

end Law

end VpnSuite.Access
