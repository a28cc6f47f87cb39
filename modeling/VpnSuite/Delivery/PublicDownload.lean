/-
The public download of a configuration by link (`api/public_download.py`).

The link's token is verified and marked by `verify_and_consume_one_time_token`, which commits;
the device, the config and its decryption come after that.  Only the rate limiter answers
before.
-/

import VpnSuite.Config.Sanitize
import VpnSuite.Delivery.ConfigTokens

set_option autoImplicit false

namespace VpnSuite.Delivery

open Foundations
open Foundations.PythonText
open VpnSuite.Config (sanitizeAwgConf)

/-- A row of `issued_configs`, as the public endpoint selects it. -/
structure StoredConfig where
  deviceId : String
  profileType : String
  createdAt : Int
  configEncrypted : Option String
  deriving DecidableEq, Repr

/-- The link tokens by hash, `revoked_at` of the devices, and the issued configs. -/
structure PublicDb where
  tokens : Dict String OneTimeDownloadToken
  devices : Dict String (Option Int)
  configs : List StoredConfig

inductive PublicError where
  | rateLimited
  | tokenInvalidOrExpired
  | deviceNotFound
  | configNotFound
  | unreadableConfig
  deriving DecidableEq, Repr

def PublicError.statusCode : PublicError → Nat
  | .rateLimited => 429
  | .tokenInvalidOrExpired => 410
  | .deviceNotFound => 404
  | .configNotFound => 404
  | .unreadableConfig => 500

def PublicError.message : PublicError → String
  | .rateLimited => "Too many download requests. Try again later."
  | .tokenInvalidOrExpired => "Download link invalid or expired."
  | .deviceNotFound => "Device not found"
  | .configNotFound => "Config not found. It may have been rotated or revoked."
  | .unreadableConfig => "Failed to decrypt or sanitize config."

/-- The answer of the rate limiter, and the clock as the token's check reads it. -/
structure PublicRequest where
  token : String
  limited : Bool
  now : Int
  deriving DecidableEq, Repr

structure Attachment where
  content : String
  filename : String
  deriving DecidableEq, Repr

/-- The newest of the rows; of equally new ones the first as the database returns them. -/
def newestConfig (rows : List StoredConfig) : Option StoredConfig :=
  rows.foldl (fun best row =>
    match best with
    | none => some row
    | some current => if row.createdAt > current.createdAt then some row else some current) none

def newestAwgConfig (deviceId : String) (db : PublicDb) : Option StoredConfig :=
  newestConfig (db.configs.filter (fun row => row.deviceId = deviceId ∧ row.profileType = "awg"))

def attachmentName (deviceId : String) : String :=
  "amneziawg_" ++ slice 8 deviceId ++ ".conf"

section Endpoint

variable (deployment : Deployment)

def consumeToken (request : PublicRequest) :
    Raising PublicDb PublicError (Option (String × String)) := fun db =>
  let verified := verifyAndConsumeOneTimeToken deployment.tokenHash request.token request.now
    db.tokens
  (.ok verified.1, { db with tokens := verified.2 })

/-- What the endpoint does with a payload. -/
def deliverConfig (deviceId kind : String) : Raising PublicDb PublicError Attachment := do
  .check (kind = "awg_conf") .tokenInvalidOrExpired
  let device ← .read (fun db => db.devices.get? deviceId)
  .check (device.any Option.isNone) .deviceNotFound
  let issued ← .read (newestAwgConfig deviceId)
  match issued.bind (fun row => orNone (orDefault row.configEncrypted "")) with
  | none => .raise .configNotFound
  | some encrypted =>
      match deployment.decryptConfig encrypted with
      | none => .raise .unreadableConfig
      | some text => pure ⟨sanitizeAwgConf text, attachmentName deviceId⟩

def downloadAwgConfigViaToken (request : PublicRequest) :
    Raising PublicDb PublicError Attachment := do
  .check (!request.limited) .rateLimited
  let payload ← consumeToken deployment request
  match payload with
  | none => .raise .tokenInvalidOrExpired
  | some (deviceId, kind) => deliverConfig deployment deviceId kind

end Endpoint

/-! ### The parts of a download -/

section Parts

variable {deployment : Deployment} {request : PublicRequest} {db after : PublicDb}
  {item : OneTimeDownloadToken}

/-- A link as its holder expects it to work: the token is stored, unused and unexpired. -/
structure LiveLink (deployment : Deployment) (request : PublicRequest) (db : PublicDb)
    (item : OneTimeDownloadToken) : Prop where
  named : request.token ≠ ""
  stored : db.tokens.get? (deployment.tokenHash request.token) = some item
  unused : item.consumedAt = none
  unexpired : request.now ≤ item.expiresAt

theorem LiveLink.accepted (live : LiveLink deployment request db item) :
    item.refused request.now = false := by
  have unexpired := live.unexpired
  simp [OneTimeDownloadToken.refused, live.unused]
  omega

/-- The tables with the token of the request marked. -/
def markedDb (deployment : Deployment) (request : PublicRequest) (item : OneTimeDownloadToken)
    (db : PublicDb) : PublicDb :=
  { db with
    tokens := db.tokens.set (deployment.tokenHash request.token)
      { item with consumedAt := some request.now } }

theorem consumeToken_run (live : LiveLink deployment request db item) :
    consumeToken deployment request db =
      (.ok (some (item.deviceId, item.kind)), markedDb deployment request item db) := by
  unfold consumeToken verifyAndConsumeOneTimeToken
  simp only [if_neg live.named, live.stored, live.accepted, Bool.false_eq_true, if_false]
  rfl

/-- What can be delivered to a device: it is there and not revoked, and its newest AWG config
can be decrypted. -/
def deliverable (deployment : Deployment) (deviceId kind : String) (db : PublicDb) :
    Option Attachment :=
  if kind = "awg_conf" ∧ (db.devices.get? deviceId).any Option.isNone then
    ((newestAwgConfig deviceId db).bind
      (fun row => orNone (orDefault row.configEncrypted ""))).bind (fun encrypted =>
        (deployment.decryptConfig encrypted).map
          (fun text => ⟨sanitizeAwgConf text, attachmentName deviceId⟩))
  else none

theorem deliverable_markedDb (deviceId kind : String) :
    deliverable deployment deviceId kind (markedDb deployment request item db) =
      deliverable deployment deviceId kind db := rfl

theorem deliverConfig_readOnly (deviceId kind : String) :
    (deliverConfig deployment deviceId kind).ReadOnly := by
  refine (Raising.readOnly_check _ _).bind (fun _ => ?_)
  refine (Raising.readOnly_query _).bind (fun device => ?_)
  refine (Raising.readOnly_check _ _).bind (fun _ => ?_)
  refine (Raising.readOnly_query _).bind (fun issued state => ?_)
  cases issued.bind (fun row => orNone (orDefault row.configEncrypted "")) with
  | none => rfl
  | some encrypted => cases decrypted : deployment.decryptConfig encrypted <;> simp [decrypted]

theorem deliverConfig_ok_iff {deviceId kind : String} {attachment : Attachment} :
    (deliverConfig deployment deviceId kind db).1 = .ok attachment ↔
      deliverable deployment deviceId kind db = some attachment := by
  unfold deliverConfig deliverable
  by_cases awg : kind = "awg_conf"
  case neg => simp [awg]
  cases live : (db.devices.get? deviceId).any Option.isNone with
  | false => simp [awg, live, bind, Raising.query, Raising.read]
  | true =>
      cases found : (newestAwgConfig deviceId db).bind
          (fun row => orNone (orDefault row.configEncrypted "")) with
      | none => simp [awg, live, found, bind, Raising.query, Raising.read]
      | some encrypted =>
          cases decrypted : deployment.decryptConfig encrypted <;>
            simp [awg, live, found, decrypted, bind, Raising.query, Raising.read, pure]

/-- Past the rate limiter the link is marked, whatever the endpoint then answers. -/
theorem download_run (live : LiveLink deployment request db item)
    (allowed : request.limited = false) :
    downloadAwgConfigViaToken deployment request db =
      ((deliverConfig deployment item.deviceId item.kind (markedDb deployment request item db)).1,
        markedDb deployment request item db) := by
  unfold downloadAwgConfigViaToken
  rw [allowed, Bool.not_false, Raising.check_true, Raising.pure_bind_eq,
    Raising.bind_run_ok (consumeToken_run live)]
  exact Prod.ext rfl (deliverConfig_readOnly item.deviceId item.kind _)

theorem download_limited (limited : request.limited = true) :
    downloadAwgConfigViaToken deployment request db = (.error .rateLimited, db) := by
  unfold downloadAwgConfigViaToken
  rw [limited, Bool.not_true, Raising.check_false, Raising.raise_bind, Raising.raise_run]

theorem download_served {attachment : Attachment} (live : LiveLink deployment request db item)
    (allowed : request.limited = false)
    (there : deliverable deployment item.deviceId item.kind db = some attachment) :
    downloadAwgConfigViaToken deployment request db =
      (.ok attachment, markedDb deployment request item db) := by
  have reached : deliverable deployment item.deviceId item.kind
      (markedDb deployment request item db) = some attachment := there
  rw [download_run live allowed, deliverConfig_ok_iff.mpr reached]

theorem download_failed (live : LiveLink deployment request db item)
    (allowed : request.limited = false)
    (missing : deliverable deployment item.deviceId item.kind db = none) :
    ∃ error, downloadAwgConfigViaToken deployment request db =
      (.error error, markedDb deployment request item db) := by
  rw [download_run live allowed]
  cases answer : (deliverConfig deployment item.deviceId item.kind
      (markedDb deployment request item db)).1 with
  | ok attachment =>
      have there := deliverConfig_ok_iff.mp answer
      rw [deliverable_markedDb, missing] at there
      cases there
  | error error => exact ⟨error, rfl⟩

end Parts

/-! ### What a failed download leaves of the link -/

/-- The row of the token is as it was, and once something can be delivered a request that
comes in time is served. -/
structure LinkKept (deployment : Deployment) (request : PublicRequest)
    (item : OneTimeDownloadToken) (after : PublicDb) : Prop where
  unmarked : (after.tokens.get? (deployment.tokenHash request.token)).map
    OneTimeDownloadToken.consumedAt = some item.consumedAt
  works : ∀ (repaired : PublicDb) (later : PublicRequest) (attachment : Attachment),
    repaired.tokens.get? (deployment.tokenHash request.token) =
        after.tokens.get? (deployment.tokenHash request.token) →
    later.token = request.token → later.limited = false → later.now ≤ item.expiresAt →
    deliverable deployment item.deviceId item.kind repaired = some attachment →
      (downloadAwgConfigViaToken deployment later repaired).1 = .ok attachment

theorem LiveLink.kept {deployment : Deployment} {request : PublicRequest} {db : PublicDb}
    {item : OneTimeDownloadToken} (live : LiveLink deployment request db item) :
    LinkKept deployment request item db := by
  refine ⟨by rw [live.stored, Option.map_some], ?_⟩
  intro repaired later attachment same again allowed inTime there
  have stillLive : LiveLink deployment later repaired item :=
    ⟨again ▸ live.named, by rw [again, same, live.stored], live.unused, inTime⟩
  rw [download_served stillLive allowed there]

/-- A failed download keeps the link exactly when the rate limiter answers it, or nothing is
missing that the download would need. -/
theorem failed_download_keeps_link_iff (deployment : Deployment) (request : PublicRequest)
    (db : PublicDb) (item : OneTimeDownloadToken) (live : LiveLink deployment request db item) :
    Raising.KeptOnError (LinkKept deployment request item)
        (downloadAwgConfigViaToken deployment request db) ↔
      request.limited = true ∨
        (deliverable deployment item.deviceId item.kind db).isSome = true := by
  constructor
  · intro keeps
    by_contra wanting
    rw [not_or, Bool.not_eq_true, Option.not_isSome_iff_eq_none] at wanting
    obtain ⟨error, failed⟩ := download_failed live wanting.1 wanting.2
    rw [failed, Raising.keptOnError_error_iff] at keeps
    have unmarked := keeps.unmarked
    rw [markedDb, Dict.get?_set, if_pos rfl, Option.map_some, live.unused] at unmarked
    cases Option.some.inj unmarked
  · rintro (limited | there)
    · rw [download_limited limited, Raising.keptOnError_error_iff]
      exact live.kept
    · cases allowed : request.limited with
      | true =>
          rw [download_limited allowed, Raising.keptOnError_error_iff]
          exact live.kept
      | false =>
          obtain ⟨attachment, found⟩ := Option.isSome_iff_exists.mp there
          rw [download_served live allowed found]
          exact Raising.keptOnError_ok _ _ _

/-- A link to a device whose config cannot be decrypted, and the request for it. -/
def linkToUnreadable : PublicDb :=
  ⟨Dict.ofList [("token-1", ⟨"d1", "awg_conf", 100, none⟩)], Dict.ofList [("d1", none)],
    [⟨"d1", "awg", 5, some "damaged"⟩]⟩

def linkRequest : PublicRequest := ⟨"token-1", false, 10⟩

theorem linkToUnreadable_live :
    LiveLink sampleDeployment linkRequest linkToUnreadable ⟨"d1", "awg_conf", 100, none⟩ where
  named := by decide
  stored := rfl
  unused := rfl
  unexpired := by decide

theorem failed_download_keeps_link_iff_unreadable :
    LiveLink sampleDeployment linkRequest linkToUnreadable ⟨"d1", "awg_conf", 100, none⟩ ∧
      (Raising.KeptOnError
          (LinkKept sampleDeployment linkRequest ⟨"d1", "awg_conf", 100, none⟩)
          (downloadAwgConfigViaToken sampleDeployment linkRequest linkToUnreadable) ↔
        linkRequest.limited = true ∨
          (deliverable sampleDeployment "d1" "awg_conf" linkToUnreadable).isSome = true) :=
  ⟨linkToUnreadable_live,
    failed_download_keeps_link_iff sampleDeployment linkRequest linkToUnreadable
      ⟨"d1", "awg_conf", 100, none⟩ linkToUnreadable_live⟩

/-- The answer is 500, and the link is gone. -/
theorem unreadable_config_burns_link :
    (downloadAwgConfigViaToken sampleDeployment linkRequest linkToUnreadable).1 =
        .error .unreadableConfig ∧
      ¬ Raising.KeptOnError
        (LinkKept sampleDeployment linkRequest ⟨"d1", "awg_conf", 100, none⟩)
        (downloadAwgConfigViaToken sampleDeployment linkRequest linkToUnreadable) := by
  have failed : downloadAwgConfigViaToken sampleDeployment linkRequest linkToUnreadable =
      (.error .unreadableConfig,
        markedDb sampleDeployment linkRequest ⟨"d1", "awg_conf", 100, none⟩ linkToUnreadable) :=
    rfl
  rw [failed, Raising.keptOnError_error_iff]
  refine ⟨rfl, ?_⟩
  intro kept
  exact absurd kept.unmarked (by decide +kernel)

end VpnSuite.Delivery
