/-
Delivery of configurations by token (`core/one_time_download.py`,
`api/v1/admin_configs.py`).

A link token is looked up by its hash and marked when it is used.  An issued config has a
token of its own, which two endpoints take: the download marks the row, the QR endpoint
only reads it.  Each endpoint has its own list of checks.

A request brings the answer of the rate limiter and its readings of the clock.  Hashing and
decryption belong to the deployment.
-/

import VpnSuite.Fleet.DeviceModel
import VpnSuite.Foundations.RaisingPrograms
import VpnSuite.Foundations.StepRuns

set_option autoImplicit false

namespace VpnSuite.Delivery

open Foundations
open Foundations.PythonText
open VpnSuite.Fleet (FleetSettings)

/-! ### Link tokens -/

/-- A row of `one_time_download_tokens`, stored under its unique hash. -/
structure OneTimeDownloadToken where
  deviceId : String
  kind : String
  expiresAt : Int
  consumedAt : Option Int
  deriving DecidableEq, Repr

def OneTimeDownloadToken.refused (item : OneTimeDownloadToken) (now : Int) : Bool :=
  item.consumedAt.isSome || item.expiresAt < now

/-- `verify_and_consume_one_time_token`: the payload, and the tokens as committed. -/
def verifyAndConsumeOneTimeToken (tokenHash : String → String) (token : String) (now : Int)
    (tokens : Dict String OneTimeDownloadToken) :
    Option (String × String) × Dict String OneTimeDownloadToken :=
  if token = "" then (none, tokens)
  else
    match tokens.get? (tokenHash token) with
    | none => (none, tokens)
    | some item =>
        if item.refused now then (none, tokens)
        else (some (item.deviceId, item.kind),
          tokens.set (tokenHash token) { item with consumedAt := some now })

/-! ### Issued configs -/

structure IssuedConfig where
  deviceId : String
  expiresAt : Option Int
  downloadTokenHash : String
  consumedAt : Option Int
  configEncrypted : Option String
  deriving DecidableEq, Repr

/-- The issued configs by id, and the `apply_status` of every device. -/
structure DeliveryDb where
  configs : Dict String IssuedConfig
  applyStatus : Dict String (Option String)

structure Deployment where
  settings : FleetSettings
  tokenHash : String → String
  decryptConfig : String → Option String

inductive DeliveryError where
  | rateLimited
  | multipleResultsFound
  | notFound (resource : String) (identifier : Option String)
  | tokenAlreadyUsed
  | tokenExpired
  | peerNotApplied
  | decryptFailed
  deriving DecidableEq, Repr

def DeliveryError.statusCode : DeliveryError → Nat
  | .rateLimited => 429
  | .multipleResultsFound => 500
  | .notFound _ _ => 404
  | .tokenAlreadyUsed => 410
  | .tokenExpired => 410
  | .peerNotApplied => 503
  | .decryptFailed => 500

structure TokenRequest where
  token : String
  limited : Bool
  now : Int
  markedAt : Int
  deriving DecidableEq, Repr

def appliedOrVerified : List String := ["APPLIED", "VERIFIED"]

def blockedInAgent : List String := ["ERROR", "FAILED_APPLY"]

/-- `_peer_applied_ok`, of the status of the device if there is one. -/
def peerAppliedOk (settings : FleetSettings) : Option (Option String) → Bool
  | none => false
  | some applyStatus =>
      let status := strip (orDefault applyStatus "")
      if status ∈ appliedOrVerified then true
      else if settings.nodeMode = .agent ∨ settings.nodeDiscovery = .agent then
        status ∉ blockedInAgent
      else false

def IssuedConfig.expired (issued : IssuedConfig) (now : Int) : Bool :=
  issued.expiresAt.any (fun expiresAt => expiresAt < now)

/-- The rows with a hash; the column is not unique. -/
def rowsWithHash (hash : String) (configs : Dict String IssuedConfig) :
    List (String × IssuedConfig) :=
  configs.entries.filter (fun entry => entry.2.downloadTokenHash = hash)

theorem mem_rowsWithHash {hash id : String} {issued : IssuedConfig}
    {configs : Dict String IssuedConfig} :
    (id, issued) ∈ rowsWithHash hash configs ↔
      configs.get? id = some issued ∧ issued.downloadTokenHash = hash := by
  rw [rowsWithHash, List.mem_filter, Dict.mem_entries_iff, decide_eq_true_eq]

section Endpoints

variable (deployment : Deployment)

def tokenRows (token : String) (db : DeliveryDb) : List (String × IssuedConfig) :=
  rowsWithHash (deployment.tokenHash token) db.configs

/-- `_resolve_config`. -/
def resolveConfig (token : String) (db : DeliveryDb) :
    Except DeliveryError (Option (String × IssuedConfig)) :=
  match tokenRows deployment token db with
  | [] => .ok none
  | [entry] => .ok (some entry)
  | _ => .error .multipleResultsFound

/-- What both endpoints do first. -/
def presentedConfig (request : TokenRequest) :
    Raising DeliveryDb DeliveryError (String × IssuedConfig) := do
  .check (!request.limited) .rateLimited
  let found ← .query (resolveConfig deployment request.token)
  match found with
  | none => .raise (.notFound "Token" (some request.token))
  | some entry => pure entry

/-- What both endpoints do last: `_require_peer_applied`, then the decryption. -/
def revealedConfig (issued : IssuedConfig) : Raising DeliveryDb DeliveryError String := do
  let applyStatus ← .read (fun db => db.applyStatus.get? issued.deviceId)
  .check (peerAppliedOk deployment.settings applyStatus) .peerNotApplied
  match orNone (orDefault issued.configEncrypted "") with
  | none => .raise (.notFound "Config" none)
  | some encrypted =>
      match deployment.decryptConfig encrypted with
      | none => .raise .decryptFailed
      | some text => pure text

def downloadConfig (request : TokenRequest) : Raising DeliveryDb DeliveryError String := do
  let (id, issued) ← presentedConfig deployment request
  .check issued.consumedAt.isNone .tokenAlreadyUsed
  .check (!issued.expired request.now) .tokenExpired
  let text ← revealedConfig deployment issued
  .write (fun db => { db with
    configs := db.configs.set id { issued with consumedAt := some request.markedAt } })
  pure text

def getConfigQr (request : TokenRequest) : Raising DeliveryDb DeliveryError String := do
  let (_, issued) ← presentedConfig deployment request
  .check (!issued.expired request.now) .tokenExpired
  revealedConfig deployment issued

end Endpoints

/-! ### What the endpoints answer -/

section Answers

variable {deployment : Deployment} {request : TokenRequest} {db after : DeliveryDb}

/-- The text of a config whose peer is applied and whose stored form can be decrypted. -/
def readableText (deployment : Deployment) (issued : IssuedConfig) (db : DeliveryDb) :
    Option String :=
  if peerAppliedOk deployment.settings (db.applyStatus.get? issued.deviceId) then
    (orNone (orDefault issued.configEncrypted "")).bind deployment.decryptConfig
  else none

theorem resolveConfig_eq_some {token : String} {entry : String × IssuedConfig} :
    resolveConfig deployment token db = .ok (some entry) ↔
      tokenRows deployment token db = [entry] := by
  unfold resolveConfig
  cases tokenRows deployment token db with
  | nil => simp
  | cons first rest =>
      cases rest with
      | nil => simp
      | cons second others => simp

theorem presentedConfig_eq_ok {entry : String × IssuedConfig} :
    presentedConfig deployment request db = (.ok entry, after) ↔
      request.limited = false ∧ tokenRows deployment request.token db = [entry] ∧ db = after := by
  unfold presentedConfig
  simp only [Raising.bind_eq_ok, Raising.check_eq_ok, Raising.query_run, Bool.not_eq_true']
  constructor
  · rintro ⟨_, _, ⟨allowed, rfl⟩, found, _, asked, ended⟩
    obtain ⟨resolved, rfl⟩ := Prod.mk.inj asked
    cases found with
    | none => cases ended
    | some row =>
        cases ended
        exact ⟨allowed, resolveConfig_eq_some.mp resolved, rfl⟩
  · rintro ⟨allowed, rows, rfl⟩
    exact ⟨(), db, ⟨allowed, rfl⟩, some entry, db,
      Prod.ext (resolveConfig_eq_some.mpr rows) rfl, rfl⟩

theorem presentedConfig_readOnly : (presentedConfig deployment request).ReadOnly := by
  refine (Raising.readOnly_check _ _).bind (fun _ => ?_)
  refine (Raising.readOnly_query _).bind (fun found state => ?_)
  cases found <;> rfl

theorem revealedConfig_readOnly (issued : IssuedConfig) :
    (revealedConfig deployment issued).ReadOnly := by
  refine (Raising.readOnly_query _).bind (fun applyStatus => ?_)
  refine (Raising.readOnly_check _ _).bind (fun _ state => ?_)
  cases orNone (orDefault issued.configEncrypted "") with
  | none => rfl
  | some encrypted => cases decrypted : deployment.decryptConfig encrypted <;> simp [decrypted]

theorem revealedConfig_eq_ok {issued : IssuedConfig} {text : String} :
    revealedConfig deployment issued db = (.ok text, after) ↔
      readableText deployment issued db = some text ∧ db = after := by
  unfold revealedConfig readableText
  cases applied : peerAppliedOk deployment.settings (db.applyStatus.get? issued.deviceId) with
  | false => simp [Raising.bind_eq_ok, Raising.check_eq_ok, applied]
  | true =>
      cases orNone (orDefault issued.configEncrypted "") with
      | none => simp [Raising.bind_eq_ok]
      | some encrypted =>
          cases decrypted : deployment.decryptConfig encrypted with
          | none => simp [Raising.bind_eq_ok, decrypted]
          | some text =>
              simp [Raising.bind_eq_ok, Raising.check_eq_ok, applied, decrypted, and_comm]

theorem getConfigQr_eq_ok {text : String} :
    getConfigQr deployment request db = (.ok text, after) ↔
      request.limited = false ∧ ∃ entry, tokenRows deployment request.token db = [entry] ∧
        entry.2.expired request.now = false ∧ readableText deployment entry.2 db = some text ∧
          db = after := by
  unfold getConfigQr
  simp only [Raising.bind_eq_ok, Raising.check_eq_ok, presentedConfig_eq_ok, revealedConfig_eq_ok,
    Bool.not_eq_true']
  constructor
  · rintro ⟨entry, _, ⟨allowed, rows, rfl⟩, _, _, ⟨unexpired, rfl⟩, readable, rfl⟩
    exact ⟨allowed, entry, rows, unexpired, readable, rfl⟩
  · rintro ⟨allowed, entry, rows, unexpired, readable, rfl⟩
    exact ⟨entry, db, ⟨allowed, rows, rfl⟩, (), db, ⟨unexpired, rfl⟩, readable, rfl⟩

theorem getConfigQr_readOnly : (getConfigQr deployment request).ReadOnly :=
  presentedConfig_readOnly.bind (fun entry =>
    (Raising.readOnly_check _ _).bind (fun _ => revealedConfig_readOnly entry.2))

theorem downloadConfig_accepted {id text : String} {issued : IssuedConfig}
    (allowed : request.limited = false) (rows : tokenRows deployment request.token db = [(id, issued)])
    (unused : issued.consumedAt = none) (unexpired : issued.expired request.now = false)
    (readable : readableText deployment issued db = some text) :
    downloadConfig deployment request db =
      (.ok text, { db with
        configs := db.configs.set id { issued with consumedAt := some request.markedAt } }) := by
  unfold downloadConfig
  refine Raising.bind_eq_ok.mpr ⟨(id, issued), db,
    presentedConfig_eq_ok.mpr ⟨allowed, rows, rfl⟩, ?_⟩
  refine Raising.bind_eq_ok.mpr ⟨(), db, Raising.check_eq_ok.mpr ⟨?_, rfl⟩, ?_⟩
  · rw [unused, Option.isNone_none]
  refine Raising.bind_eq_ok.mpr ⟨(), db, Raising.check_eq_ok.mpr ⟨?_, rfl⟩, ?_⟩
  · rw [unexpired, Bool.not_false]
  refine Raising.bind_eq_ok.mpr ⟨text, db, revealedConfig_eq_ok.mpr ⟨readable, rfl⟩, ?_⟩
  rfl

/-- What a download leaves behind: the tables as they were, or the one row it found, which
was not consumed, now marked. -/
theorem downloadConfig_cases (deployment : Deployment) (request : TokenRequest)
    (db : DeliveryDb) :
    (∃ error, downloadConfig deployment request db = (.error error, db)) ∨
      ∃ id issued text, tokenRows deployment request.token db = [(id, issued)] ∧
        issued.consumedAt = none ∧ issued.expired request.now = false ∧
        readableText deployment issued db = some text ∧
        downloadConfig deployment request db =
          (.ok text, { db with
            configs := db.configs.set id { issued with consumedAt := some request.markedAt } }) := by
  unfold downloadConfig
  have presenting : (presentedConfig deployment request).ReadOnly := presentedConfig_readOnly
  obtain ⟨⟨id, issued⟩, presented, goesOn⟩ | refused := presenting.bind_cases _ db
  case inr => exact Or.inl refused
  rw [goesOn]
  dsimp only
  obtain ⟨_, unused, goesOn⟩ | refused := (Raising.readOnly_check _ _).bind_cases _ db
  case inr => exact Or.inl refused
  rw [goesOn]
  obtain ⟨_, unexpired, goesOn⟩ | refused := (Raising.readOnly_check _ _).bind_cases _ db
  case inr => exact Or.inl refused
  rw [goesOn]
  obtain ⟨text, revealed, goesOn⟩ | refused := (revealedConfig_readOnly issued).bind_cases _ db
  case inr => exact Or.inl refused
  rw [goesOn]
  refine Or.inr ⟨id, issued, text, (presentedConfig_eq_ok.mp presented).2.1, ?_, ?_,
    (revealedConfig_eq_ok.mp revealed).1, rfl⟩
  · exact Option.isNone_iff_eq_none.mp (Raising.check_eq_ok.mp unused).1
  · exact (Bool.not_eq_true' _).mp (Raising.check_eq_ok.mp unexpired).1

end Answers

/-! ### Sequences of requests -/

inductive DeliveryEvent where
  | download (request : TokenRequest)
  | qr (request : TokenRequest)
  | issue (id : String) (config : IssuedConfig)
  | applyStatus (deviceId : String) (status : Option String)
  deriving DecidableEq, Repr

section Events

variable (deployment : Deployment)

/-- Requests, and what else happens to the tables: a config is issued under a new id, and
the status of a device changes. -/
def deliveryStep (db : DeliveryDb) : DeliveryEvent → DeliveryDb
  | .download request => (downloadConfig deployment request db).2
  | .qr request => (getConfigQr deployment request db).2
  | .issue id config =>
      if id ∈ db.configs.keys then db
      else { db with configs := db.configs.set id { config with consumedAt := none } }
  | .applyStatus deviceId status =>
      { db with applyStatus := db.applyStatus.set deviceId status }

def DeliveryEvent.token : DeliveryEvent → Option String
  | .download request => some request.token
  | .qr request => some request.token
  | _ => none

/-- The config text an event hands out. -/
def handedOut (db : DeliveryDb) : DeliveryEvent → Option String
  | .download request => (downloadConfig deployment request db).1.toOption
  | .qr request => (getConfigQr deployment request db).1.toOption
  | _ => none

/-- Once a config is consumed, no later request with its token is given a text. -/
def ConsumedRevealsNothing (start : DeliveryDb) (events : List DeliveryEvent) : Prop :=
  ∀ earlier between event later, events = earlier ++ between ++ event :: later →
    ∀ id issued token, (earlier.foldl (deliveryStep deployment) start).configs.get? id = some issued →
      issued.consumedAt ≠ none → event.token = some token →
      issued.downloadTokenHash = deployment.tokenHash token →
      handedOut deployment ((earlier ++ between).foldl (deliveryStep deployment) start) event = none

/-- The condition: no QR request is let through to a consumed config that has not expired,
whose peer is applied and whose text can be read. -/
def qrUnconsumed (db : DeliveryDb) : DeliveryEvent → Bool
  | .qr request =>
      match tokenRows deployment request.token db with
      | [(_, issued)] =>
          request.limited || issued.consumedAt.isNone || issued.expired request.now ||
            (readableText deployment issued db).isNone
      | _ => true
  | _ => true

end Events

section Consumed

variable {deployment : Deployment} {db : DeliveryDb} {id token : String} {issued : IssuedConfig}

/-- The row of a consumed config is never written again. -/
theorem consumed_stays (stored : db.configs.get? id = some issued)
    (consumed : issued.consumedAt ≠ none) (event : DeliveryEvent) :
    (deliveryStep deployment db event).configs.get? id = some issued := by
  cases event with
  | download request =>
      obtain ⟨error, kept⟩ | ⟨other, fresh, text, rows, unused, -, -, marked⟩ :=
        downloadConfig_cases deployment request db
      · rw [deliveryStep, kept]
        exact stored
      · have found : db.configs.get? other = some fresh :=
          (mem_rowsWithHash.mp (rows ▸ List.mem_singleton_self _)).1
        have different : id ≠ other := by
          rintro rfl
          obtain rfl := Option.some.inj (stored.symm.trans found)
          exact consumed unused
        rw [deliveryStep, marked]
        exact (Dict.get?_set ..).trans ((if_neg different).trans stored)
  | qr request =>
      rw [deliveryStep, getConfigQr_readOnly]
      exact stored
  | issue other config =>
      by_cases taken : other ∈ db.configs.keys
      · rw [deliveryStep, if_pos taken]
        exact stored
      · have different : id ≠ other := by
          rintro rfl
          exact taken (Dict.mem_keys_of_get? stored)
        rw [deliveryStep, if_neg taken]
        exact (Dict.get?_set ..).trans ((if_neg different).trans stored)
  | applyStatus deviceId status => exact stored

theorem consumed_stays_run (events : List DeliveryEvent)
    (stored : db.configs.get? id = some issued) (consumed : issued.consumedAt ≠ none) :
    (events.foldl (deliveryStep deployment) db).configs.get? id = some issued := by
  induction events generalizing db with
  | nil => exact stored
  | cons event rest ih => exact ih (consumed_stays stored consumed event)

/-- A token that stands for a consumed row resolves to it or not at all. -/
theorem tokenRows_of_consumed (stored : db.configs.get? id = some issued)
    (hashed : issued.downloadTokenHash = deployment.tokenHash token)
    {entry : String × IssuedConfig} (rows : tokenRows deployment token db = [entry]) :
    entry = (id, issued) := by
  have listed : (id, issued) ∈ tokenRows deployment token db := mem_rowsWithHash.mpr ⟨stored, hashed⟩
  rw [rows, List.mem_singleton] at listed
  exact listed.symm

theorem download_of_consumed {request : TokenRequest} (stored : db.configs.get? id = some issued)
    (consumed : issued.consumedAt ≠ none)
    (hashed : issued.downloadTokenHash = deployment.tokenHash request.token) :
    handedOut deployment db (.download request) = none := by
  obtain ⟨error, refused⟩ | ⟨other, fresh, text, rows, unused, -⟩ :=
    downloadConfig_cases deployment request db
  · rw [handedOut, refused]
    rfl
  · obtain ⟨rfl, rfl⟩ := Prod.mk.inj (tokenRows_of_consumed stored hashed rows)
    exact absurd unused consumed

theorem qr_hands_out {request : TokenRequest} {text : String} :
    handedOut deployment db (.qr request) = some text ↔
      request.limited = false ∧ ∃ entry, tokenRows deployment request.token db = [entry] ∧
        entry.2.expired request.now = false ∧ readableText deployment entry.2 db = some text := by
  have answered : handedOut deployment db (.qr request) = some text ↔
      getConfigQr deployment request db = (.ok text, db) := by
    rw [handedOut, Prod.ext_iff, and_iff_left (getConfigQr_readOnly db)]
    cases (getConfigQr deployment request db).1 <;> simp [Except.toOption]
  rw [answered, getConfigQr_eq_ok]
  simp only [and_true]

theorem qrUnconsumed_eq_false {request : TokenRequest} :
    qrUnconsumed deployment db (.qr request) = false ↔
      ∃ id issued text, tokenRows deployment request.token db = [(id, issued)] ∧
        issued.consumedAt ≠ none ∧ handedOut deployment db (.qr request) = some text := by
  constructor
  · intro reopened
    simp only [qrUnconsumed] at reopened
    split at reopened
    · rename_i id issued rows
      simp only [Bool.or_eq_false_iff, Option.isNone_eq_false_iff, Option.isSome_iff_exists]
        at reopened
      obtain ⟨⟨⟨allowed, when_, consumed⟩, unexpired⟩, text, readable⟩ := reopened
      refine ⟨id, issued, text, rows, ?_, qr_hands_out.mpr ⟨allowed, _, rows, unexpired, readable⟩⟩
      rw [consumed]
      exact Option.some_ne_none when_
    · cases reopened
  · rintro ⟨id, issued, text, rows, consumed, given⟩
    obtain ⟨allowed, entry, resolved, unexpired, readable⟩ := qr_hands_out.mp given
    obtain rfl : (id, issued) = entry := List.singleton_inj.mp (rows.symm.trans resolved)
    have used := Option.isSome_iff_ne_none.mpr consumed
    simp [qrUnconsumed, rows, allowed, used, unexpired, readable]

end Consumed

/-- Along any run a consumed config stays secret exactly when no QR request is let through to
one. -/
theorem consumed_reveals_nothing_iff (deployment : Deployment) (start : DeliveryDb)
    (events : List DeliveryEvent) :
    ConsumedRevealsNothing deployment start events ↔
      EveryStep (deliveryStep deployment) start events (fun db event =>
        qrUnconsumed deployment db event = true) := by
  constructor
  · intro secret earlier event later split
    cases event with
    | qr request =>
        by_contra reopened
        rw [Bool.not_eq_true, qrUnconsumed_eq_false] at reopened
        obtain ⟨id, issued, text, rows, consumed, given⟩ := reopened
        obtain ⟨stored, hashed⟩ := mem_rowsWithHash.mp (rows ▸ List.mem_singleton_self (id, issued))
        have kept := secret earlier [] (.qr request) later (by rw [split, List.append_nil]) id issued
          request.token stored consumed rfl hashed
        rw [List.append_nil, given] at kept
        cases kept
    | download request => rfl
    | issue id config => rfl
    | applyStatus deviceId status => rfl
  · intro every earlier between event later split id issued token stored consumed presented hashed
    have here := every (earlier ++ between) event later split
    have remains : ((earlier ++ between).foldl (deliveryStep deployment) start).configs.get? id =
        some issued := by
      rw [List.foldl_append]
      exact consumed_stays_run between stored consumed
    cases event with
    | download request =>
        obtain rfl := Option.some.inj presented
        exact download_of_consumed remains consumed hashed
    | qr request =>
        obtain rfl := Option.some.inj presented
        rw [Option.eq_none_iff_forall_ne_some]
        intro text given
        have resolved := (qr_hands_out.mp given).2
        obtain ⟨entry, rows, -, -⟩ := resolved
        obtain rfl := tokenRows_of_consumed remains hashed rows
        have reopened := qrUnconsumed_eq_false.mpr ⟨id, issued, text, rows, consumed, given⟩
        rw [reopened] at here
        cases here
    | issue id config => cases presented
    | applyStatus deviceId status => cases presented

/-- The identity for a hash, and a cipher that adds a mark. -/
def sampleDeployment : Deployment :=
  ⟨⟨.real, .docker, false⟩, id, fun encrypted =>
    if encrypted = "sealed" then some "[Interface]" else none⟩

/-- A config just issued to an applied device. -/
def freshConfigs : DeliveryDb :=
  ⟨Dict.ofList [("c1", ⟨"d1", some 100, "token-1", none, some "sealed"⟩)],
    Dict.ofList [("d1", some "APPLIED")]⟩

/-- A downloaded config is handed out again as a QR code. -/
theorem qr_reveals_downloaded_config :
    ¬ ConsumedRevealsNothing sampleDeployment freshConfigs
        [.download ⟨"token-1", false, 10, 10⟩, .qr ⟨"token-1", false, 20, 20⟩] := by
  intro secret
  have again := secret [.download ⟨"token-1", false, 10, 10⟩] [] (.qr ⟨"token-1", false, 20, 20⟩) []
    rfl "c1" ⟨"d1", some 100, "token-1", some 10, some "sealed"⟩ "token-1" (by decide +kernel)
    (by decide) rfl rfl
  exact absurd again (by decide +kernel)

end VpnSuite.Delivery
