/-
The rate limiters of the API (`core/rate_limit.py`).

Each counts a request under one or two keys of Redis and refuses it when a counter is over
its limit.  A second command lets a counter expire a window after it was opened.  When Redis
fails, at whatever command, the request is let through, but for a login that is to fail
closed.

A request brings the time since the one before it, in milliseconds, and the number of Redis
commands after which the connection fails.  The addresses exempt from the limit of the API
are a predicate of the settings.
-/

import VpnSuite.Foundations.ExpiringCounters
import VpnSuite.Foundations.PythonText

set_option autoImplicit false

namespace VpnSuite.Access

open Foundations
open Foundations.ExpiringCounters
open Foundations.PythonText

/-! ### Limits and keys -/

inductive Limiter where
  | api
  | login
  | adminIssue
  | serverActions
  | downloadIp
  | downloadToken
  deriving DecidableEq, Repr

structure RateSettings where
  loginRateLimit : Int
  loginRateWindowSeconds : Int
  loginRateLimitFailClosed : Bool
  apiRateLimitPerMinute : Int
  apiRateLimitWindowSeconds : Int
  exempt : String → Bool

def Limiter.keyPrefix : Limiter → String
  | .api => "ratelimit:api:"
  | .login => "ratelimit:login:"
  | .adminIssue => "ratelimit:admin_issue:"
  | .serverActions => "ratelimit:server_actions:"
  | .downloadIp => "ratelimit:config_dl:ip:"
  | .downloadToken => "ratelimit:config_dl:tok:"

/-- A key, without the prefix of its limiter. -/
abbrev RateKey := Limiter × String

/-- The key as Redis knows it. -/
def rateKeyText (key : RateKey) : String := key.1.keyPrefix ++ key.2

def limiters : List Limiter :=
  [.api, .login, .adminIssue, .serverActions, .downloadIp, .downloadToken]

theorem keyPrefix_incomparable : limiters.all (fun first => limiters.all (fun second =>
    first = second || !first.keyPrefix.toList.isPrefixOf second.keyPrefix.toList)) = true := by
  decide +kernel

/-- Keys of different limiters never meet. -/
theorem rateKeyText_injective {first second : RateKey}
    (same : rateKeyText first = rateKeyText second) : first = second := by
  obtain ⟨limiter, subject⟩ := first
  obtain ⟨other, otherSubject⟩ := second
  have listed : ∀ limiter : Limiter, limiter ∈ limiters := by
    intro limiter
    cases limiter <;> decide
  have apart : ∀ first second : Limiter, first.keyPrefix.toList <+: second.keyPrefix.toList →
      first = second := by
    intro first second within
    have here := List.all_eq_true.mp (List.all_eq_true.mp keyPrefix_incomparable first
      (listed first)) second (listed second)
    simpa [List.isPrefixOf_iff_prefix.mpr within] using here
  have texts : limiter.keyPrefix.toList ++ subject.toList =
      other.keyPrefix.toList ++ otherSubject.toList := by
    have both := congrArg String.toList same
    simpa only [rateKeyText, String.toList_append] using both
  have begins : other.keyPrefix.toList <+: limiter.keyPrefix.toList ++ subject.toList :=
    texts ▸ List.prefix_append ..
  have sameLimiter : limiter = other := by
    rcases List.prefix_or_prefix_of_prefix (List.prefix_append _ _) begins with within | within
    · exact apart limiter other within
    · exact (apart other limiter within).symm
  subst sameLimiter
  rw [String.toList_inj.mp (List.append_cancel_left texts)]

def rateLimit (settings : RateSettings) (key : RateKey) : Int :=
  match key.1 with
  | .api => settings.apiRateLimitPerMinute
  | .login => settings.loginRateLimit
  | .adminIssue => 30
  | .serverActions => 10
  | .downloadIp => 60
  | .downloadToken => 5

/-- The window of a key, in milliseconds. -/
def rateWindow (settings : RateSettings) (key : RateKey) : Int :=
  1000 * match key.1 with
    | .api => settings.apiRateLimitWindowSeconds
    | .login => settings.loginRateWindowSeconds
    | .adminIssue => 60
    | .serverActions => 60
    | .downloadIp => 60
    | .downloadToken => 60

/-! ### The limiters -/

structure Client where
  forwardedFor : Option String
  realIp : Option String
  host : Option String
  deriving DecidableEq, Repr

def Client.hostOrUnknown (client : Client) : String := client.host.getD "unknown"

/-- `_client_ip`. -/
def clientIp (client : Client) : String :=
  match orNone (orDefault client.forwardedFor "") with
  | some forwarded => strip (String.ofList (partition ',' forwarded.toList).1)
  | none =>
      match orNone (orDefault client.realIp "") with
      | some real => strip real
      | none => client.hostOrUnknown

inductive RateOutcome where
  | admitted
  | refused (detail : String)
  | unavailable (detail : String)
  deriving DecidableEq, Repr

def RateOutcome.statusCode : RateOutcome → Option Nat
  | .admitted => none
  | .refused _ => some 429
  | .unavailable _ => some 503

section Limiters

variable (settings : RateSettings) (clock : Int)

/-- What the limiters share: count, and answer by the counts or by the failure. -/
def checked (keys : List RateKey) (detail : String) (failed : RateOutcome)
    (connection : Connection RateKey) : RateOutcome × Connection RateKey :=
  let counted := countAll clock (rateWindow settings) (rateLimit settings) keys connection
  (match counted.1 with
    | .ok true => .refused detail
    | .ok false => .admitted
    | .error _ => failed, counted.2)

/-- `GlobalAPIRateLimitMiddleware.dispatch`. -/
def dispatch (path : String) (client : Client) (connection : Connection RateKey) :
    RateOutcome × Connection RateKey :=
  if settings.apiRateLimitPerMinute ≤ 0 || !"/api/".toList.isPrefixOf path.toList then
    (.admitted, connection)
  else if settings.exempt (clientIp client) then (.admitted, connection)
  else
    checked settings clock [(.api, clientIp client)] "Too many requests. Try again later."
      .admitted connection

/-- `rate_limit_login_failure`. -/
def rateLimitLoginFailure (client : Client) : Connection RateKey → RateOutcome × Connection RateKey :=
  checked settings clock [(.login, client.hostOrUnknown)]
    "Too many login attempts. Try again later."
    (if settings.loginRateLimitFailClosed then
      .unavailable "Service temporarily unavailable. Try again later."
    else .admitted)

/-- `rate_limit_admin_issue`. -/
def rateLimitAdminIssue (client : Client) : Connection RateKey → RateOutcome × Connection RateKey :=
  checked settings clock [(.adminIssue, client.hostOrUnknown)]
    "Too many peer issuance requests. Try again later." .admitted

/-- `rate_limit_server_actions`. -/
def rateLimitServerActions (serverId adminId : String) :
    Connection RateKey → RateOutcome × Connection RateKey :=
  checked settings clock [(.serverActions, adminId ++ ":" ++ serverId)]
    "Too many actions for this server. Try again later." .admitted

/-- `rate_limit_config_download`. -/
def rateLimitConfigDownload (client : Client) (token : String) :
    Connection RateKey → RateOutcome × Connection RateKey :=
  checked settings clock [(.downloadIp, client.hostOrUnknown), (.downloadToken, slice 32 token)]
    "Too many download requests. Try again later." .admitted

end Limiters

/-! ### Requests -/

inductive RateCall where
  | api (path : String) (client : Client)
  | loginFailure (client : Client)
  | adminIssue (client : Client)
  | serverActions (serverId adminId : String)
  | configDownload (client : Client) (token : String)
  deriving DecidableEq, Repr

structure RateRequest where
  call : RateCall
  elapsed : Nat
  failsAfter : Option Nat
  deriving DecidableEq, Repr

section Requests

variable (settings : RateSettings)

def serve (clock : Int) : RateCall → Connection RateKey → RateOutcome × Connection RateKey
  | .api path client => dispatch settings clock path client
  | .loginFailure client => rateLimitLoginFailure settings clock client
  | .adminIssue client => rateLimitAdminIssue settings clock client
  | .serverActions serverId adminId => rateLimitServerActions settings clock serverId adminId
  | .configDownload client token => rateLimitConfigDownload settings clock client token

/-- The keys a call counts under. -/
def keysOf : RateCall → List RateKey
  | .api path client =>
      if settings.apiRateLimitPerMinute ≤ 0 || !"/api/".toList.isPrefixOf path.toList ||
          settings.exempt (clientIp client) then []
      else [(.api, clientIp client)]
  | .loginFailure client => [(.login, client.hostOrUnknown)]
  | .adminIssue client => [(.adminIssue, client.hostOrUnknown)]
  | .serverActions serverId adminId => [(.serverActions, adminId ++ ":" ++ serverId)]
  | .configDownload client token =>
      [(.downloadIp, client.hostOrUnknown), (.downloadToken, slice 32 token)]

theorem keysOf_nodup (call : RateCall) : (keysOf settings call).Nodup := by
  cases call with
  | api path client =>
      rw [keysOf]
      split
      · exact List.nodup_nil
      · exact List.nodup_singleton _
  | configDownload client token => simp [keysOf]
  | loginFailure client => exact List.nodup_singleton _
  | adminIssue client => exact List.nodup_singleton _
  | serverActions serverId adminId => exact List.nodup_singleton _

/-- A request as a visit to its counters. -/
def visitOf (request : RateRequest) : Visit RateKey :=
  ⟨keysOf settings request.call, keysOf_nodup settings request.call, request.elapsed,
    request.failsAfter⟩

/-- One request: the answer, and Redis after it. -/
def answer (state : Timed RateKey) (request : RateRequest) : RateOutcome × Connection RateKey :=
  serve settings (state.arrival (visitOf settings request)) request.call
    ⟨state.counters, request.failsAfter⟩

def rateStep (state : Timed RateKey) (request : RateRequest) : Timed RateKey :=
  ⟨state.arrival (visitOf settings request), (answer settings state request).2.counters⟩

/-- How many requests that count under a key are admitted. -/
def admittedUnder (key : RateKey) : Timed RateKey → List RateRequest → Nat
  | _, [] => 0
  | state, request :: rest =>
      (if key ∈ keysOf settings request.call ∧ (answer settings state request).1 = .admitted then 1
        else 0) + admittedUnder key (rateStep settings state request) rest

/-! ### The law -/

/-- Every counter expires within its window. -/
def CountersExpire (state : Timed RateKey) : Prop :=
  Bounded state.clock (rateWindow settings) state.counters

/-- Whoever stays silent for the windows of a call is admitted when Redis does not fail. -/
def SilentAdmitted (state : Timed RateKey) : Prop :=
  ∀ (between : List RateRequest) (request : RateRequest),
    (∀ other ∈ between, ∀ key ∈ keysOf settings request.call,
      key ∉ keysOf settings other.call) →
    (∀ key ∈ keysOf settings request.call, state.clock + rateWindow settings key ≤
      (between.foldl (rateStep settings) state).arrival (visitOf settings request)) →
    request.failsAfter = none →
    (answer settings (between.foldl (rateStep settings) state) request).1 = .admitted

/-- From a request that opens a counter on, at most its limit are admitted in the window. -/
def WindowKept (state : Timed RateKey) (window : List RateRequest) : Prop :=
  ∀ first rest key, window = first :: rest → key ∈ keysOf settings first.call →
    live (state.arrival (visitOf settings first)) key state.counters = none →
    (∀ request ∈ window, request.failsAfter = none) →
    (window.foldl (rateStep settings) state).clock <
      state.arrival (visitOf settings first) + rateWindow settings key →
    admittedUnder settings key state window ≤ (rateLimit settings key).toNat

structure RateLimitLaw (start : Timed RateKey) (requests : List RateRequest) : Prop where
  expire : EveryState (rateStep settings) start requests (CountersExpire settings)
  silent : EveryState (rateStep settings) start requests (SilentAdmitted settings)
  window : ∀ earlier window later, requests = earlier ++ window ++ later →
    WindowKept settings (earlier.foldl (rateStep settings) start) window

/-- The condition: no request opens a counter and fails before the expiry is set. -/
def expirySet (state : Timed RateKey) (request : RateRequest) : Bool :=
  !losesExpiry (state.arrival (visitOf settings request)) state.counters
    (keysOf settings request.call) request.failsAfter

end Requests

/-! ### Requests are visits -/

section Visits

variable {settings : RateSettings} {state : Timed RateKey} {request : RateRequest}

/-- What a call does to Redis, and when it is admitted. -/
structure ServedBy (ran : Except Unit Bool × Connection RateKey)
    (served : RateOutcome × Connection RateKey) : Prop where
  connection : served.2 = ran.2
  within : ran.1 = .ok false → served.1 = .admitted
  exceeded : ran.1 = .ok true → served.1 ≠ .admitted

theorem checked_served (clock : Int) (keys : List RateKey) (detail : String) (failed : RateOutcome)
    (connection : Connection RateKey) :
    ServedBy (countAll clock (rateWindow settings) (rateLimit settings) keys connection)
      (checked settings clock keys detail failed connection) := by
  refine ⟨rfl, ?_, ?_⟩
  · intro within
    rw [checked]
    dsimp only
    rw [within]
  · intro exceeded
    rw [checked]
    dsimp only
    rw [exceeded]
    exact RateOutcome.noConfusion

theorem serve_served (clock : Int) (call : RateCall) (connection : Connection RateKey) :
    ServedBy (countAll clock (rateWindow settings) (rateLimit settings) (keysOf settings call)
      connection) (serve settings clock call connection) := by
  cases call with
  | api path client =>
      rw [serve, dispatch, keysOf]
      have skipped : ServedBy (countAll clock (rateWindow settings) (rateLimit settings) []
          connection) (.admitted, connection) := ⟨rfl, fun _ => rfl, nofun⟩
      cases closed : (settings.apiRateLimitPerMinute ≤ 0 ||
          !"/api/".toList.isPrefixOf path.toList : Bool) with
      | true => exact skipped
      | false =>
          cases exempted : settings.exempt (clientIp client) with
          | true => exact skipped
          | false => exact checked_served clock _ _ _ connection
  | loginFailure client => exact checked_served clock _ _ _ connection
  | adminIssue client => exact checked_served clock _ _ _ connection
  | serverActions serverId adminId => exact checked_served clock _ _ _ connection
  | configDownload client token => exact checked_served clock _ _ _ connection

theorem rateStep_eq :
    rateStep settings state request =
      visitStep (rateWindow settings) (rateLimit settings) state (visitOf settings request) :=
  congrArg (fun connection : Connection RateKey =>
    Timed.mk (state.arrival (visitOf settings request)) connection.counters)
    (serve_served _ request.call ⟨state.counters, request.failsAfter⟩).connection

theorem foldl_rateStep (requests : List RateRequest) (start : Timed RateKey) :
    requests.foldl (rateStep settings) start =
      (requests.map (visitOf settings)).foldl
        (visitStep (rateWindow settings) (rateLimit settings)) start := by
  rw [List.foldl_map]
  exact congrArg (fun step => requests.foldl step start)
    (funext fun state => funext fun request => rateStep_eq)

theorem admitted_iff_within (unfailing : request.failsAfter = none) :
    (answer settings state request).1 = .admitted ↔
      withinLimits (count (rateWindow settings) (rateLimit settings) state
        (visitOf settings request)).1 = true := by
  have served := @serve_served settings (state.arrival (visitOf settings request)) request.call
    ⟨state.counters, request.failsAfter⟩
  obtain ⟨after, -, ran⟩ := @countAll_complete RateKey _ (state.arrival (visitOf settings request))
    (rateWindow settings) (rateLimit settings) (keysOf settings request.call) state.counters
    (keysOf_nodup settings request.call)
  rw [unfailing, ran] at served
  have counted : (count (rateWindow settings) (rateLimit settings) state
      (visitOf settings request)).1 = .ok ((keysOf settings request.call).any (fun key =>
        rateLimit settings key <
          nextCount (state.arrival (visitOf settings request)) key state.counters)) := by
    rw [count]
    change (countAll _ _ _ (keysOf settings request.call)
      ⟨state.counters, request.failsAfter⟩).1 = _
    rw [unfailing, ran]
  rw [counted, answer, unfailing]
  cases exceeded : (keysOf settings request.call).any (fun key => rateLimit settings key <
      nextCount (state.arrival (visitOf settings request)) key state.counters) with
  | true =>
      rw [exceeded] at served
      exact iff_of_false (served.exceeded rfl) Bool.false_ne_true
  | false =>
      rw [exceeded] at served
      exact iff_of_true (served.within rfl) rfl

theorem admittedUnder_eq {requests : List RateRequest} (key : RateKey)
    (unfailing : ∀ request ∈ requests, request.failsAfter = none) (start : Timed RateKey) :
    admittedUnder settings key start requests =
      servedUnder (rateWindow settings) (rateLimit settings) key start
        (requests.map (visitOf settings)) := by
  induction requests generalizing start with
  | nil => rfl
  | cons request rest ih =>
      have admitted := @admitted_iff_within settings start request
        (unfailing request List.mem_cons_self)
      rw [admittedUnder, List.map_cons, servedUnder, ← rateStep_eq,
        ih (fun other member => unfailing other (List.mem_cons_of_mem request member))]
      by_cases served : key ∈ (visitOf settings request).keys ∧
          withinLimits (count (rateWindow settings) (rateLimit settings) start
            (visitOf settings request)).1 = true
      · have counted : key ∈ keysOf settings request.call ∧
            (answer settings start request).1 = .admitted := ⟨served.1, admitted.mpr served.2⟩
        rw [if_pos served, if_pos counted]
      · have uncounted : ¬ (key ∈ keysOf settings request.call ∧
            (answer settings start request).1 = .admitted) :=
          fun both => served ⟨both.1, admitted.mp both.2⟩
        rw [if_neg served, if_neg uncounted]

end Visits

/-! ### When the law holds -/

section Law

variable {settings : RateSettings} {state : Timed RateKey}

theorem rateLimit_pos {call : RateCall} (logins : 1 ≤ settings.loginRateLimit) :
    ∀ key ∈ keysOf settings call, 1 ≤ rateLimit settings key := by
  intro key member
  cases call with
  | api path client =>
      rw [keysOf] at member
      split at member
      · cases member
      · rename_i counted
        obtain rfl := List.mem_singleton.mp member
        simp only [Bool.or_eq_true, decide_eq_true_eq, not_or] at counted
        change 1 ≤ settings.apiRateLimitPerMinute
        omega
  | loginFailure client =>
      obtain rfl := List.mem_singleton.mp member
      exact logins
  | adminIssue client =>
      obtain rfl := List.mem_singleton.mp member
      change (1 : Int) ≤ 30
      decide
  | serverActions serverId adminId =>
      obtain rfl := List.mem_singleton.mp member
      change (1 : Int) ≤ 10
      decide
  | configDownload client token =>
      rcases List.mem_cons.mp member with rfl | second
      · change (1 : Int) ≤ 60
        decide
      · obtain rfl := List.mem_singleton.mp second
        change (1 : Int) ≤ 5
        decide

theorem silentAdmitted_of_expire (logins : 1 ≤ settings.loginRateLimit)
    (expire : CountersExpire settings state) : SilentAdmitted settings state := by
  intro between request untouched silent unfailing
  rw [admitted_iff_within unfailing]
  apply fresh_visit_within
  · exact unfailing
  · intro key member
    have waited := silent key member
    rw [foldl_rateStep] at waited ⊢
    have passed := @clock_le_run RateKey _ (rateWindow settings) (rateLimit settings)
      (between.map (visitOf settings)) state
    apply live_after_silence expire _ waited
    · rw [Timed.arrival]
      omega
    · intro visit listed
      obtain ⟨other, found, rfl⟩ := List.mem_map.mp listed
      exact untouched other found key member
  · exact rateLimit_pos logins

/-- A login limit that is not positive refuses even the first attempt. -/
theorem logins_of_silent (silent : SilentAdmitted settings state) :
    1 ≤ settings.loginRateLimit := by
  by_contra barred
  let attempt : RateRequest :=
    ⟨.loginFailure ⟨none, none, none⟩, (rateWindow settings (.login, "unknown")).toNat, none⟩
  have admitted := silent [] attempt (by simp) (by
    intro key member
    obtain rfl := List.mem_singleton.mp member
    change state.clock + rateWindow settings (.login, "unknown") ≤
      state.clock + ((rateWindow settings (.login, "unknown")).toNat : Int)
    omega) rfl
  rw [admitted_iff_within rfl] at admitted
  have room := within_limit rfl (List.mem_singleton_self (Limiter.login, "unknown")) admitted
  have first := nextCount_pos (state.arrival (visitOf settings attempt))
    (Limiter.login, "unknown") state.counters
  change (nextCount (state.arrival (visitOf settings attempt)) (Limiter.login, "unknown")
    state.counters : Int) ≤ settings.loginRateLimit at room
  omega

theorem windowKept (state : Timed RateKey) (window : List RateRequest) :
    WindowKept settings state window := by
  rintro first rest key rfl member opens unfailing inTime
  rw [admittedUnder_eq key unfailing, List.map_cons]
  rw [foldl_rateStep, List.map_cons] at inTime
  refine servedUnder_window member opens ?_ inTime
  intro visit listed
  rw [← List.map_cons] at listed
  obtain ⟨request, found, rfl⟩ := List.mem_map.mp listed
  exact unfailing request found

/-- From a state whose counters expire, a run obeys the law exactly when no request opens a
counter and fails before the expiry is set, and logins are admitted at all. -/
theorem rate_limit_law_iff (settings : RateSettings) (start : Timed RateKey)
    (requests : List RateRequest) (expire : CountersExpire settings start) :
    RateLimitLaw settings start requests ↔
      1 ≤ settings.loginRateLimit ∧
        EveryStep (rateStep settings) start requests (fun state request =>
          expirySet settings state request = true) := by
  have steps : EveryState (rateStep settings) start requests (CountersExpire settings) ↔
      EveryStep (rateStep settings) start requests (fun state request =>
        expirySet settings state request = true) := by
    have same : rateStep settings = fun state request =>
        visitStep (rateWindow settings) (rateLimit settings) state (visitOf settings request) :=
      funext fun state => funext fun request => rateStep_eq
    have visits := @bounded_run_iff RateKey _ (rateWindow settings) (rateLimit settings) start
      (requests.map (visitOf settings)) expire
    rw [everyState_map, everyStep_map, ← same] at visits
    simp only [expirySet, Bool.not_eq_true']
    exact visits
  constructor
  · intro law
    exact ⟨logins_of_silent law.silent.start_holds, steps.mp law.expire⟩
  · rintro ⟨logins, every⟩
    have expires := steps.mpr every
    exact ⟨expires, expires.imp (silentAdmitted_of_expire logins),
      fun earlier window later _ => windowKept _ window⟩

end Law

def defaultSettings : RateSettings := ⟨10, 900, false, 600, 60, fun ip => ip = "127.0.0.1"⟩

/-- Redis without a key. -/
def emptyRedis : Timed RateKey := ⟨0, Dict.empty⟩

theorem emptyRedis_expires : CountersExpire defaultSettings emptyRedis := by
  intro key counter alive
  cases (live_eq_some.mp alive).1

def failedLogin (failsAfter : Option Nat) : RateRequest :=
  ⟨.loginFailure ⟨none, none, some "203.0.113.7"⟩, 1000, failsAfter⟩

theorem rate_limit_law_iff_default :
    RateLimitLaw defaultSettings emptyRedis [failedLogin none, failedLogin (some 0)] ↔
      1 ≤ defaultSettings.loginRateLimit ∧
        EveryStep (rateStep defaultSettings) emptyRedis [failedLogin none, failedLogin (some 0)]
          (fun state request => expirySet defaultSettings state request = true) :=
  rate_limit_law_iff defaultSettings emptyRedis _ emptyRedis_expires

/-- The connection fails between the two commands of a client's first attempt: the counter
never expires, and after ten more attempts the client is refused after a day of silence. -/
theorem lost_expiry_locks_client_out :
    ¬ RateLimitLaw defaultSettings emptyRedis [failedLogin (some 1)] ∧
      (answer defaultSettings
        ((failedLogin (some 1) :: List.replicate 10 (failedLogin none)).foldl
          (rateStep defaultSettings) emptyRedis)
        { failedLogin none with elapsed := 86400000 }).1 =
          .refused "Too many login attempts. Try again later." := by
  refine ⟨?_, by decide +kernel⟩
  intro law
  have after := law.expire [failedLogin (some 1)] [] rfl (.login, "203.0.113.7") ⟨1, none, by decide⟩
    (by
      refine live_eq_some.mpr ⟨?_, nofun⟩
      rfl)
  obtain ⟨expiry, found, -⟩ := after
  cases found

end VpnSuite.Access
