/-
Refreshing and logging out (`api/v1/auth.py`, `core/security.py`).

A refresh answers with new tokens and lists the used one in Redis; a logout lists it too.
The refusal of a listed token is raised inside the handler that is there for Redis failing,
so that it is swallowed with those: it becomes a 503, or nothing at all when the check is to
fail open.  A logout asks Redis for a lifetime that is a fraction, which it does not take,
unless the token has a second left at most.

A visit brings the milliseconds since the one before it, whether Redis takes its reads and
its writes, and the administrators there are.  The digest and the JWT library are parameters:
a text whose signature holds has claims, and time only decides about their expiry.
-/

import VpnSuite.Foundations.ExpiringMarks
import VpnSuite.Foundations.PythonText
import VpnSuite.Foundations.RaisingPrograms
import VpnSuite.Foundations.RunSimulations

set_option autoImplicit false

namespace VpnSuite.Access

open Foundations
open Foundations.ExpiringMarks
open Foundations.PythonText
open Raising

/-! ### Tokens -/

/-- The claims of a token that are read. -/
structure Claims where
  sub : Option String
  type : Option String
  exp : Option Int
  deriving DecidableEq

structure JwtLibrary where
  encode : Claims → String
  verified : String → Option Claims

structure TokenSettings where
  refreshBlocklistFailClosed : Bool
  accessTokenExpireSeconds : Int
  refreshTokenExpireSeconds : Int

structure HttpError where
  status : Nat
  detail : String
  deriving DecidableEq

structure TokenResponse where
  accessToken : String
  refreshToken : String
  deriving DecidableEq

/-- What may be raised between a request and Redis. -/
inductive BlocklistFailure where
  | redis
  | http (error : HttpError)

structure Credentials where
  scheme : String
  credentials : String

inductive AuthRequest where
  | refresh (credentials : Option Credentials)
  | logout (refreshToken : String)

structure AuthVisit where
  request : AuthRequest
  pause : Nat
  reads : Bool
  writes : Bool
  admins : String → Bool

structure AuthState where
  clock : Nat
  blocklist : Marks String

inductive AuthAnswer where
  | refreshed (tokens : TokenResponse)
  | refused (error : HttpError)
  | loggedOut
  deriving DecidableEq

/-- `int(time())` -/
def seconds (now : Nat) : Int := (now / 1000 : Nat)

/-- `_exp` -/
def expiryOf (now : Nat) (lifetime : Int) : Int := seconds now + lifetime

def missingRefreshToken : HttpError := ⟨401, "Missing refresh token"⟩
def tokenRevoked : HttpError := ⟨401, "Token revoked"⟩
def authenticationUnavailable : HttpError := ⟨503, "Authentication temporarily unavailable"⟩
def invalidRefreshToken : HttpError := ⟨401, "Invalid refresh token"⟩
def userNotFound : HttpError := ⟨401, "User not found"⟩

section Endpoints

variable (jwt : JwtLibrary) (sha256Hex : String → String) (settings : TokenSettings)

def accessClaims (now : Nat) (sub : String) : Claims :=
  ⟨some sub, some "access", some (expiryOf now settings.accessTokenExpireSeconds)⟩

def refreshClaims (now : Nat) (sub : String) : Claims :=
  ⟨some sub, some "refresh", some (expiryOf now settings.refreshTokenExpireSeconds)⟩

def createAccessToken (now : Nat) (sub : String) : String :=
  jwt.encode (accessClaims settings now sub)

def createRefreshToken (now : Nat) (sub : String) : String :=
  jwt.encode (refreshClaims settings now sub)

/-- The library refuses a token from the second after its expiry on. -/
def decodeToken (now : Nat) (token : String) : Option Claims :=
  (jwt.verified token).filter (fun claims => claims.exp.all (fun exp => seconds now ≤ exp))

def refreshBlocklistKey (token : String) : String := "refresh_blocklist:" ++ sha256Hex token

/-! ### The endpoints -/

/-- `SETEX` with whole seconds; a lifetime that is a fraction is refused. -/
def setex (visit : AuthVisit) (now : Nat) (ttl : Option Int) (key : String) :
    Raising (Marks String) BlocklistFailure Unit :=
  match ttl with
  | none => raise .redis
  | some ttl => call (if visit.writes then none else some .redis) (mark now (1000 * ttl) key)

/-- `max(1, int(exp) - time.time())`, and whether it is whole -/
def logoutTtl (now : Nat) (exp : Int) : Option Int :=
  if 1000 * exp - now ≤ 1000 then some 1 else none

def logout (visit : AuthVisit) (now : Nat) (refreshToken : String) :
    Raising (Marks String) HttpError Unit :=
  match decodeToken jwt now refreshToken with
  | none => pure ()
  | some claims =>
      match claims.exp with
      | none => pure ()
      | some exp =>
          if claims.type = some "refresh" then
            attempt (setex visit now (logoutTtl now exp) (refreshBlocklistKey sha256Hex refreshToken))
              (fun _ => pure ())
          else pure ()

/-- The body of the `try`: a listed token raises there as well. -/
def checkBlocklist (visit : AuthVisit) (now : Nat) (token : String) :
    Raising (Marks String) BlocklistFailure Unit := do
  let listed ← query (fun marks =>
    if visit.reads then .ok (marked now (refreshBlocklistKey sha256Hex token) marks)
    else .error .redis)
  check (!listed) (.http tokenRevoked)

/-- The administrator a refresh token is for, and its expiry. -/
def tokenOwner (visit : AuthVisit) (now : Nat) (token : String) :
    Except HttpError (String × Int) :=
  match decodeToken jwt now token with
  | none => .error invalidRefreshToken
  | some claims =>
      if claims.type ≠ some "refresh" then .error invalidRefreshToken
      else match claims.sub.bind orNone with
        | none => .error invalidRefreshToken
        | some sub =>
            if visit.admins sub then .ok (sub, claims.exp.getD 0) else .error userNotFound

def rotationTtl (now : Nat) (exp : Int) : Int := max 1 (exp - seconds now)

def issueTokens (now : Nat) (sub : String) : TokenResponse :=
  ⟨createAccessToken jwt settings now sub, createRefreshToken jwt settings now sub⟩

def refresh (visit : AuthVisit) (now : Nat) (credentials : Option Credentials) :
    Raising (Marks String) HttpError TokenResponse :=
  match credentials with
  | none => raise missingRefreshToken
  | some given =>
      if given.scheme.toLower ≠ "bearer" then raise missingRefreshToken
      else do
        attempt (checkBlocklist sha256Hex visit now given.credentials)
          (fun _ => check (!settings.refreshBlocklistFailClosed) authenticationUnavailable)
        let owner ← query (fun _ => tokenOwner jwt visit now given.credentials)
        attempt (setex visit now (some (rotationTtl now owner.2))
            (refreshBlocklistKey sha256Hex given.credentials))
          (fun _ => pure ())
        pure (issueTokens jwt settings now owner.1)

def handle (visit : AuthVisit) (now : Nat) (marks : Marks String) : AuthAnswer × Marks String :=
  match visit.request with
  | .refresh credentials =>
      match refresh jwt sha256Hex settings visit now credentials marks with
      | (.ok tokens, after) => (.refreshed tokens, after)
      | (.error error, after) => (.refused error, after)
  | .logout token => (.loggedOut, (logout jwt sha256Hex visit now token marks).2)

def visitAnswer (state : AuthState) (visit : AuthVisit) : AuthAnswer :=
  (handle jwt sha256Hex settings visit (state.clock + visit.pause) state.blocklist).1

def visitStep (state : AuthState) (visit : AuthVisit) : AuthState :=
  ⟨state.clock + visit.pause,
    (handle jwt sha256Hex settings visit (state.clock + visit.pause) state.blocklist).2⟩

/-- The answers of a run. -/
def authAnswers (state : AuthState) (visits : List AuthVisit) : List AuthAnswer :=
  observations (visitStep jwt sha256Hex settings) (visitAnswer jwt sha256Hex settings) state visits

end Endpoints

/-! ### A sample -/

/-- A library whose tokens tell their expiry by their length, for one administrator. -/
def sampleLibrary : JwtLibrary where
  encode claims := String.ofList (List.replicate
    (if 0 ≤ claims.exp.getD 0 then 2 * (claims.exp.getD 0).toNat
      else 2 * (-claims.exp.getD 0).toNat + 1) 'a')
  verified token := some ⟨some "1", some "refresh",
    some (if token.length % 2 = 0 then (token.length / 2 : Nat) else -(token.length / 2 : Nat))⟩

def sampleTokenSettings : TokenSettings := ⟨true, 900, 604800⟩

theorem sampleLibrary_signs (exp : Int) :
    sampleLibrary.verified (sampleLibrary.encode ⟨some "1", some "refresh", some exp⟩) =
      some ⟨some "1", some "refresh", some exp⟩ := by
  simp only [sampleLibrary, String.length_ofList, List.length_replicate, Option.getD_some]
  congr 3
  split <;> split <;> omega

theorem sampleLibrary_injective {first second : Int}
    (same : sampleLibrary.encode ⟨some "1", some "refresh", some first⟩ =
      sampleLibrary.encode ⟨some "1", some "refresh", some second⟩) : first = second := by
  have read := congrArg sampleLibrary.verified same
  rw [sampleLibrary_signs, sampleLibrary_signs] at read
  simpa using read

section Answers

variable {jwt : JwtLibrary} {sha256Hex : String → String} {settings : TokenSettings}
  {visit : AuthVisit} {now : Nat} {marks : Marks String} {token : String}

/-- The bearer token of a request to refresh. -/
def bearerToken : AuthRequest → Option String
  | .refresh credentials =>
      (credentials.filter (fun given => given.scheme.toLower = "bearer")).map
        Credentials.credentials
  | .logout _ => none

/-- The refresh token of a request to log out, while Redis takes the lifetime it is listed for. -/
def loggedOutToken (jwt : JwtLibrary) (now : Nat) : AuthRequest → Option String
  | .refresh _ => none
  | .logout token =>
      (decodeToken jwt now token).bind (fun claims => claims.exp.bind (fun exp =>
        if claims.type = some "refresh" ∧ 1000 * exp - now ≤ 1000 then some token else none))

/-- The check of the blocklist ends a request to refresh. -/
def heldBack (sha256Hex : String → String) (settings : TokenSettings) (visit : AuthVisit)
    (now : Nat) (token : String) (marks : Marks String) : Bool :=
  settings.refreshBlocklistFailClosed &&
    (!visit.reads || marked now (refreshBlocklistKey sha256Hex token) marks)

/-- What a server that lists no token answers. -/
def unlistedAnswer (jwt : JwtLibrary) (settings : TokenSettings) (visit : AuthVisit) (now : Nat) :
    AuthAnswer :=
  match visit.request with
  | .logout _ => .loggedOut
  | .refresh _ =>
      match bearerToken visit.request with
      | none => .refused missingRefreshToken
      | some token =>
          match tokenOwner jwt visit now token with
          | .error error => .refused error
          | .ok owner => .refreshed (issueTokens jwt settings now owner.1)

theorem checkBlocklist_run :
    checkBlocklist sha256Hex visit now token marks =
      (if visit.reads then
        if marked now (refreshBlocklistKey sha256Hex token) marks then .error (.http tokenRevoked)
        else .ok ()
      else .error .redis, marks) := by
  cases reads : visit.reads with
  | false => simp [checkBlocklist, bind, query, reads]
  | true =>
      cases listed : marked now (refreshBlocklistKey sha256Hex token) marks with
      | false => simp [checkBlocklist, bind, query, reads, listed]
      | true => simp [checkBlocklist, bind, query, reads, listed]

/-- Whatever the check raises is handled alike. -/
theorem handled_run :
    attempt (checkBlocklist sha256Hex visit now token)
        (fun _ => check (!settings.refreshBlocklistFailClosed) authenticationUnavailable) marks =
      (if heldBack sha256Hex settings visit now token marks
        then .error authenticationUnavailable else .ok (), marks) := by
  unfold heldBack
  cases reads : visit.reads with
  | false =>
      have raised : checkBlocklist sha256Hex visit now token marks = (.error .redis, marks) := by
        rw [checkBlocklist_run, reads]
        rfl
      rw [attempt_run_error raised]
      cases settings.refreshBlocklistFailClosed <;> rfl
  | true =>
      cases listed : marked now (refreshBlocklistKey sha256Hex token) marks with
      | false =>
          have passed : checkBlocklist sha256Hex visit now token marks = (.ok (), marks) := by
            rw [checkBlocklist_run, reads, listed]
            rfl
          rw [attempt_run_ok passed, Bool.not_true, Bool.or_false, Bool.and_false]
          rfl
      | true =>
          have raised : checkBlocklist sha256Hex visit now token marks =
              (.error (.http tokenRevoked), marks) := by
            rw [checkBlocklist_run, reads, listed]
            rfl
          rw [attempt_run_error raised]
          cases settings.refreshBlocklistFailClosed <;> rfl

/-- Redis takes a lifetime of whole seconds; its failing is swallowed. -/
theorem setex_run (ttl : Option Int) (key : String) :
    attempt (setex visit now ttl key) (fun _ => (pure () : Raising (Marks String) HttpError Unit))
        marks =
      (.ok (), match ttl with
        | none => marks
        | some ttl => if visit.writes then mark now (1000 * ttl) key marks else marks) := by
  cases ttl with
  | none => rfl
  | some ttl =>
      unfold setex
      cases visit.writes <;> rfl

/-- What a refresh answers and lists. -/
theorem refresh_run {given : Credentials} (bearer : given.scheme.toLower = "bearer") :
    refresh jwt sha256Hex settings visit now (some given) marks =
      if heldBack sha256Hex settings visit now given.credentials marks then
        (.error authenticationUnavailable, marks)
      else match tokenOwner jwt visit now given.credentials with
        | .error error => (.error error, marks)
        | .ok owner => (.ok (issueTokens jwt settings now owner.1),
            if visit.writes then mark now (1000 * rotationTtl now owner.2)
              (refreshBlocklistKey sha256Hex given.credentials) marks
            else marks) := by
  have isBearer : ¬ given.scheme.toLower ≠ "bearer" := fun other => other bearer
  simp only [refresh, if_neg isBearer]
  cases held : heldBack sha256Hex settings visit now given.credentials marks with
  | true =>
      apply bind_run_error
      rw [handled_run, held]
      rfl
  | false =>
      have passed : attempt (checkBlocklist sha256Hex visit now given.credentials)
          (fun _ => check (!settings.refreshBlocklistFailClosed) authenticationUnavailable) marks =
          (.ok (), marks) := by
        rw [handled_run, held]
        rfl
      rw [bind_run_ok passed]
      cases owned : tokenOwner jwt visit now given.credentials with
      | error error =>
          apply bind_run_error
          rw [query_run]
      | ok owner =>
          exact bind_run_ok (setex_run (some (rotationTtl now owner.2)) _)

theorem refresh_missing {credentials : Option Credentials}
    (missing : bearerToken (.refresh credentials) = none) :
    refresh jwt sha256Hex settings visit now credentials marks =
      (.error missingRefreshToken, marks) := by
  cases credentials with
  | none => rfl
  | some given =>
      have other : given.scheme.toLower ≠ "bearer" := by
        intro bearer
        simp [bearerToken, Option.filter_some, bearer] at missing
      simp only [refresh, if_pos other]
      rfl

theorem bearerToken_eq_some {request : AuthRequest} (presented : bearerToken request = some token) :
    ∃ given : Credentials, request = .refresh (some given) ∧
      given.scheme.toLower = "bearer" ∧ given.credentials = token := by
  cases request with
  | logout other => cases presented
  | refresh credentials =>
      unfold bearerToken at presented
      rw [Option.map_eq_some_iff] at presented
      rcases presented with ⟨given, kept, same⟩
      rw [Option.filter_eq_some_iff] at kept
      exact ⟨given, by rw [kept.1], of_decide_eq_true kept.2, same⟩

theorem logout_run :
    (logout jwt sha256Hex visit now token marks).2 =
      match loggedOutToken jwt now (.logout token) with
      | none => marks
      | some listed =>
          if visit.writes then mark now 1000 (refreshBlocklistKey sha256Hex listed) marks
          else marks := by
  cases decoded : decodeToken jwt now token with
  | none => simp only [logout, loggedOutToken, decoded, Option.bind_none, pure_run]
  | some claims =>
      simp only [logout, loggedOutToken, decoded, Option.bind_some]
      cases claims.exp with
      | none => rfl
      | some exp =>
          by_cases isRefresh : claims.type = some "refresh"
          · simp only [isRefresh, if_true, setex_run, logoutTtl, Option.bind_some, true_and]
            by_cases ending : 1000 * exp - (now : Int) ≤ 1000
            · simp only [if_pos ending]
              rfl
            · simp only [if_neg ending]
          · simp only [isRefresh, false_and, if_false, Option.bind_some, pure_run]

/-- The token a visit lists in Redis, and for how long. -/
def listing (jwt : JwtLibrary) (sha256Hex : String → String) (settings : TokenSettings)
    (visit : AuthVisit) (now : Nat) (marks : Marks String) : Option (String × Int) :=
  if visit.writes then
    match bearerToken visit.request with
    | none => (loggedOutToken jwt now visit.request).map (fun token => (token, 1000))
    | some token =>
        if heldBack sha256Hex settings visit now token marks then none
        else match tokenOwner jwt visit now token with
          | .error _ => none
          | .ok owner => some (token, 1000 * rotationTtl now owner.2)
  else none

def keptMarks (sha256Hex : String → String) (now : Nat) (marks : Marks String) :
    Option (String × Int) → Marks String
  | none => marks
  | some (token, lifetime) => mark now lifetime (refreshBlocklistKey sha256Hex token) marks

/-- What a visit is answered and what it leaves in Redis. -/
theorem handle_eq :
    handle jwt sha256Hex settings visit now marks =
      (if (bearerToken visit.request).any
          (fun token => heldBack sha256Hex settings visit now token marks)
        then .refused authenticationUnavailable else unlistedAnswer jwt settings visit now,
      keptMarks sha256Hex now marks (listing jwt sha256Hex settings visit now marks)) := by
  cases asked : visit.request with
  | logout token =>
      have blocklist : (logout jwt sha256Hex visit now token marks).2 =
          keptMarks sha256Hex now marks (listing jwt sha256Hex settings visit now marks) := by
        rw [logout_run]
        simp only [listing, asked, bearerToken]
        cases loggedOutToken jwt now (.logout token) with
        | none => simp [keptMarks]
        | some listed => cases visit.writes <;> rfl
      simp only [handle, unlistedAnswer, asked, blocklist, bearerToken, Option.any_none]
      rfl
  | refresh credentials =>
      simp only [handle, unlistedAnswer, listing, asked]
      cases presented : bearerToken (.refresh credentials) with
      | none =>
          have idle : loggedOutToken jwt now (.refresh credentials) = none := rfl
          simp only [refresh_missing presented, idle, Option.any_none, Option.map_none, ite_self]
          rfl
      | some token =>
          rcases bearerToken_eq_some presented with ⟨given, same, bearer, rfl⟩
          cases same
          simp only [refresh_run bearer, Option.any_some]
          cases heldBack sha256Hex settings visit now given.credentials marks with
          | true => simp [keptMarks]
          | false =>
              cases tokenOwner jwt visit now given.credentials with
              | error error => simp [keptMarks]
              | ok owner => cases visit.writes <;> rfl

end Answers

end VpnSuite.Access
