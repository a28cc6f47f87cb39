/-
The Idempotency-Key of a reissue (`core/idempotency.py`; `reissue_device_config` in
`api/v1/devices.py`).

A reissue asks Redis for the response of an earlier one, rotates the key of the device when
there is none, and stores its response.  The three parts are separate, and the key of the
cache is made from a stripped and truncated header.  So the calls are `MemoizedCalls`, with
the cache key for a slot.

Redis answers and forgets nothing.  The digest is a parameter, and so is what a rotation
with its commit gives.  A rotation that fails, in `admin_rotate_peer` or in the commit after
it, has been executed all the same.  The status code of the payload is never read and left out.
-/

import VpnSuite.Foundations.MemoizedCalls
import VpnSuite.Foundations.PythonText
import Mathlib.Logic.Equiv.Basic

set_option autoImplicit false

namespace VpnSuite.Fleet

open Foundations
open Foundations.PythonText
open Foundations.MemoizedCalls

structure ConfigEntryOut where
  downloadUrl : String
  qrPayload : String
  amneziaVpnKey : Option String
  deriving DecidableEq, Repr

structure AdminRotatePeerResponse where
  configAwg : ConfigEntryOut
  configWgObf : ConfigEntryOut
  configWg : ConfigEntryOut
  requestId : String
  deriving DecidableEq, Repr

/-! ### The cache key -/

def normalizeKey (raw : Option String) : Option String :=
  raw.bind (fun text => orNone (slice 256 (strip text)))

def idempotencyText (scope resourceId key : String) : String :=
  scope ++ ":" ++ resourceId ++ ":" ++ key

section Cache

variable (sha256Hex : String → String)

def idempotencyCacheKey (scope resourceId key : String) : String :=
  "idempotency:action:" ++ sha256Hex (idempotencyText scope resourceId key)

def getCachedIdempotencyResponse (scope resourceId : String) (idempotencyKey : Option String)
    (cache : Dict String AdminRotatePeerResponse) : Option AdminRotatePeerResponse :=
  (normalizeKey idempotencyKey).bind (fun key =>
    cache.get? (idempotencyCacheKey sha256Hex scope resourceId key))

def storeIdempotencyResponse (scope resourceId : String) (idempotencyKey : Option String)
    (body : AdminRotatePeerResponse) (cache : Dict String AdminRotatePeerResponse) :
    Dict String AdminRotatePeerResponse :=
  match normalizeKey idempotencyKey with
  | none => cache
  | some key => cache.set (idempotencyCacheKey sha256Hex scope resourceId key) body

/-! ### The endpoint -/

/-- What a request asks for: the device of its path and its header. -/
structure ReissueRequest where
  deviceId : String
  idempotencyKey : Option String
  deriving DecidableEq, Repr

/-- The response, whether the rotation was executed for it, and the cache afterwards.  `rotation`
is what the rotation gives if it is run, `none` if it raises. -/
def reissueDeviceConfig (request : ReissueRequest) (rotation : Option AdminRotatePeerResponse)
    (cache : Dict String AdminRotatePeerResponse) :
    Option AdminRotatePeerResponse × Bool × Dict String AdminRotatePeerResponse :=
  match getCachedIdempotencyResponse sha256Hex "devices.reissue" request.deviceId
      request.idempotencyKey cache with
  | some body => (some body, false, cache)
  | none =>
      match rotation with
      | none => (none, true, cache)
      | some response =>
          (some response, true, storeIdempotencyResponse sha256Hex "devices.reissue"
            request.deviceId request.idempotencyKey response cache)

/-- The slot of a request: the cache key its lookup and its store use. -/
def reissueSlot (request : ReissueRequest) : Option String :=
  (normalizeKey request.idempotencyKey).map
    (idempotencyCacheKey sha256Hex "devices.reissue" request.deviceId)

end Cache

/-! ### Requests in any order -/

section Runs

variable (sha256Hex : String → String) (asked : Nat → ReissueRequest)

abbrev ReissueSystem := System String AdminRotatePeerResponse

abbrev ReissueEvent := Event AdminRotatePeerResponse

def reissueStep : ReissueSystem → ReissueEvent → ReissueSystem :=
  step (fun request => reissueSlot sha256Hex (asked request))

/-- Undisturbed, the parts of a request are `reissue_device_config`. -/
theorem reissue_alone {system : ReissueSystem} {request : Nat}
    (idle : system.calls request = .idle) (rotation : Option AdminRotatePeerResponse) :
    let after := [Event.lookup request, .finish request rotation, .store request].foldl
      (reissueStep sha256Hex asked) system
    reissueDeviceConfig sha256Hex (asked request) rotation
        (system.cache.mapValues Entry.value) =
      ((after.calls request).answer, (after.calls request).ran,
        after.cache.mapValues Entry.value) := by
  cases key : normalizeKey (asked request).idempotencyKey with
  | none =>
      cases rotation with
      | none =>
          simp [reissueDeviceConfig, getCachedIdempotencyResponse, key, reissueStep, reissueSlot,
            step, idle, System.setCall, Phase.answer, Phase.ran]
      | some response =>
          simp [reissueDeviceConfig, getCachedIdempotencyResponse, storeIdempotencyResponse, key,
            reissueStep, reissueSlot, step, idle, System.setCall, Phase.answer, Phase.ran]
  | some text =>
      cases found : system.cache.get?
          (idempotencyCacheKey sha256Hex "devices.reissue" (asked request).deviceId text) with
      | some entry =>
          simp [reissueDeviceConfig, getCachedIdempotencyResponse, key, Dict.get?_mapValues, found,
            reissueStep, reissueSlot, step, idle, System.setCall, Phase.answer, Phase.ran]
      | none =>
          cases rotation with
          | none =>
              simp [reissueDeviceConfig, getCachedIdempotencyResponse, key, Dict.get?_mapValues,
                found, reissueStep, reissueSlot, step, idle, System.setCall, Phase.answer,
                Phase.ran]
          | some response =>
              simp [reissueDeviceConfig, getCachedIdempotencyResponse, storeIdempotencyResponse,
                key, Dict.get?_mapValues, found, reissueStep, reissueSlot, step, idle,
                System.setCall, Phase.answer, Phase.ran, Dict.mapValues_set]

/-- What the Idempotency-Key promises of a set of requests. -/
structure ReissuedOnce (system : ReissueSystem) : Prop where
  once : ∀ left right, asked left = asked right → (asked left).idempotencyKey.isSome = true →
    (system.calls left).ran = true → (system.calls right).ran = true → left = right
  sameBody : ∀ left right first second, asked left = asked right →
    (asked left).idempotencyKey.isSome = true → (system.calls left).answer = some first →
    (system.calls right).answer = some second → first = second
  ownBody : ∀ request body origin, system.calls request = .replayed body origin →
    asked origin = asked request

/-- The condition on the requests: a header is not blank, and different pairs of device and
header have different cache keys. -/
structure KeysApart : Prop where
  usable : ∀ request, (asked request).idempotencyKey.isSome = true →
    (reissueSlot sha256Hex (asked request)).isSome = true
  distinct : ∀ left right key, reissueSlot sha256Hex (asked left) = some key →
    reissueSlot sha256Hex (asked right) = some key → asked left = asked right

/-- The condition on the steps: a rotation finds, when it ends, no response under its cache key,
and no other request of that cache key that is about to store one or whose rotation failed. -/
def RotatesAlone : ReissueSystem → ReissueEvent → Prop :=
  FinishesAlone (fun request => reissueSlot sha256Hex (asked request))

variable {sha256Hex asked}

theorem idempotencyKey_of_slot {request : ReissueRequest} {key : String}
    (own : reissueSlot sha256Hex request = some key) :
    request.idempotencyKey.isSome = true := by
  obtain ⟨text, normalized, -⟩ := Option.map_eq_some_iff.mp own
  obtain ⟨raw, given, -⟩ := Option.bind_eq_some_iff.mp normalized
  rw [given]
  rfl

/-- With keys apart, requests of one pair are the calls of one slot. -/
theorem reissuedOnce_iff (apart : KeysApart sha256Hex asked) {system : ReissueSystem}
    (origins : Origins (fun request => reissueSlot sha256Hex (asked request)) system) :
    ReissuedOnce asked system ↔
      ComputedOnce (fun request => reissueSlot sha256Hex (asked request)) system := by
  have slotted : ∀ left right, asked left = asked right →
      (asked left).idempotencyKey.isSome = true → ∃ key,
      reissueSlot sha256Hex (asked left) = some key ∧
        reissueSlot sha256Hex (asked right) = some key := by
    intro left right same given
    obtain ⟨key, own⟩ := Option.isSome_iff_exists.mp (apart.usable left given)
    exact ⟨key, own, same ▸ own⟩
  constructor
  · intro promise left right key atLeft atRight first second
    exact promise.once left right (apart.distinct left right key atLeft atRight)
      (idempotencyKey_of_slot atLeft) first second
  · intro once
    refine ⟨?_, ?_, ?_⟩
    · intro left right same given first second
      obtain ⟨key, atLeft, atRight⟩ := slotted left right same given
      exact once atLeft atRight first second
    · intro left right first second same given answeredLeft answeredRight
      obtain ⟨key, atLeft, atRight⟩ := slotted left right same given
      exact once.answers_agree origins atLeft atRight answeredLeft answeredRight
    · intro request body origin replayed
      obtain ⟨key, own, theirs, -⟩ := origins.replayed request body origin replayed
      exact apart.distinct origin request key theirs own

/-- Plain headers and device ids keep the cache keys apart: nothing to strip or to cut off, no
colon in an id, and a digest without collisions. -/
theorem keysApart_of_plain (collisionFree : Function.Injective sha256Hex)
    (plain : ∀ request raw, (asked request).idempotencyKey = some raw →
      raw ≠ "" ∧ strip raw = raw ∧ raw.toList.length ≤ 256)
    (ids : ∀ request, ':' ∉ (asked request).deviceId.toList) : KeysApart sha256Hex asked := by
  have normalized : ∀ request raw, (asked request).idempotencyKey = some raw →
      normalizeKey (some raw) = some raw := by
    intro request raw given
    obtain ⟨nonempty, stripped, short⟩ := plain request raw given
    have whole : slice 256 (strip raw) = raw := by
      rw [stripped, slice, List.take_of_length_le short, String.ofList_toList]
    rw [normalizeKey, Option.bind_some, whole, orNone, if_neg nonempty]
  have slots : ∀ request raw, (asked request).idempotencyKey = some raw →
      reissueSlot sha256Hex (asked request) =
        some (idempotencyCacheKey sha256Hex "devices.reissue" (asked request).deviceId raw) := by
    intro request raw given
    rw [reissueSlot, given, normalized request raw given, Option.map_some]
  constructor
  · intro request given
    obtain ⟨raw, header⟩ := Option.isSome_iff_exists.mp given
    rw [slots request raw header]
    rfl
  · intro left right key atLeft atRight
    obtain ⟨first, atFirst⟩ := Option.isSome_iff_exists.mp (idempotencyKey_of_slot atLeft)
    obtain ⟨second, atSecond⟩ := Option.isSome_iff_exists.mp (idempotencyKey_of_slot atRight)
    have same := atLeft.trans atRight.symm
    rw [slots left first atFirst, slots right second atSecond, Option.some.injEq] at same
    have hashed := collisionFree (String.append_right_inj _ |>.mp same)
    have chars := congrArg String.toList hashed
    simp only [idempotencyText, String.toList_append, List.append_assoc] at chars
    have parts : (asked left).deviceId.toList ++ ':' :: first.toList =
        (asked right).deviceId.toList ++ ':' :: second.toList :=
      List.append_cancel_left (List.append_cancel_left chars)
    obtain ⟨sameId, sameKey⟩ := separator_inj (ids left) (ids right) parts
    calc asked left = ⟨(asked left).deviceId, (asked left).idempotencyKey⟩ := rfl
      _ = ⟨(asked right).deviceId, (asked right).idempotencyKey⟩ := by
        rw [String.toList_injective sameId, atFirst, atSecond, String.toList_injective sameKey]
      _ = asked right := rfl

end Runs

/-- For requests with keys apart, a run reissues once throughout exactly when each rotation finds
no response under its cache key, no other request about to store one, and none that failed. -/
theorem reissued_once_iff_rotates_alone (sha256Hex : String → String)
    (asked : Nat → ReissueRequest) (apart : KeysApart sha256Hex asked)
    (events : List ReissueEvent) :
    EveryState (reissueStep sha256Hex asked) System.start events (ReissuedOnce asked) ↔
      EveryStep (reissueStep sha256Hex asked) System.start events
        (RotatesAlone sha256Hex asked) := by
  have origins := origins_run (fun request => reissueSlot sha256Hex (asked request)) events
  refine Iff.trans ?_ (computedOnce_run_iff _ events)
  constructor
  · intro every earlier later split
    exact (reissuedOnce_iff apart (origins earlier later split)).mp (every earlier later split)
  · intro every earlier later split
    exact (reissuedOnce_iff apart (origins earlier later split)).mpr (every earlier later split)

/-! ### Two requests of one pair, and two of different pairs -/

def sampleEntry (name : String) : ConfigEntryOut := ⟨"https://vpn/" ++ name, name, none⟩

def sampleResponse (requestId : String) : AdminRotatePeerResponse :=
  ⟨sampleEntry "awg", sampleEntry "wg-obf", sampleEntry "wg", requestId⟩

/-- A digest without collisions that is SHA-256 on the text of the first example. -/
def sampleDigest : String → String :=
  Equiv.swap "devices.reissue:d1:k"
    "b322169dd96fffb005f6a7fb3298a379c845f1541e8358e06ff57a7559e0364f"

/-- Requests that repeat one header for one device. -/
def retried (_ : Nat) : ReissueRequest := ⟨"d1", some "k"⟩

def longKey (length : Nat) : String := String.ofList (List.replicate length 'k')

/-- Requests with headers of 256 characters and more. -/
def longKeys (request : Nat) : ReissueRequest := ⟨"d1", some (longKey (256 + request))⟩

theorem length_longKey (length : Nat) : (longKey length).toList.length = length := by
  rw [longKey, String.toList_ofList, List.length_replicate]

theorem longKeys_normalized (request : Nat) :
    normalizeKey (longKeys request).idempotencyKey = some (longKey 256) := by
  have solid : ∀ char ∈ List.replicate (256 + request) 'k', isSpace char = false := by
    intro char member
    rw [List.eq_of_mem_replicate member]
    rfl
  have stripped := (stripChars_of_ends (fun char head => solid char (List.mem_of_head? head))
    (fun char last => solid char (List.mem_of_getLast? last))).2.2
  have truncated : slice 256 (strip (longKey (256 + request))) = longKey 256 := by
    rw [slice, strip, longKey, String.toList_ofList, String.toList_ofList, stripped,
      List.take_replicate, Nat.min_eq_left (Nat.le_add_right 256 request), longKey]
  have nonempty : longKey 256 ≠ "" := by
    intro empty
    have length := length_longKey 256
    rw [empty] at length
    cases length
  rw [longKeys, normalizeKey, Option.bind_some, truncated, orNone, if_neg nonempty]

theorem longKeys_differ : longKeys 0 ≠ longKeys 1 := by
  intro same
  have keys := Option.some.inj (congrArg ReissueRequest.idempotencyKey same)
  have lengths := congrArg (fun raw => raw.toList.length) keys
  rw [length_longKey, length_longKey] at lengths
  cases lengths

/-- Both requests look before either stores. -/
def overlapping : ReissueSystem :=
  [Event.lookup 0, .lookup 1, .finish 0 (some (sampleResponse "r0")),
    .finish 1 (some (sampleResponse "r1")), .store 0, .store 1].foldl
      (reissueStep sampleDigest retried) System.start

/-- A retry after a rotation whose commit failed. -/
def retriedAfterFailure : ReissueSystem :=
  [Event.lookup 0, .finish 0 none, .lookup 1, .finish 1 (some (sampleResponse "r1"))].foldl
    (reissueStep sampleDigest retried) System.start

/-- One request after the other. -/
def longKeysInTurn : ReissueSystem :=
  [Event.lookup 0, .finish 0 (some (sampleResponse "r0")), .store 0, .lookup 1].foldl
    (reissueStep sampleDigest longKeys) System.start

/-- Overlapping requests of one pair both rotate and answer differently, and so does a retry
after a failure; the second of two requests with different long keys is given the response of
the first. -/
theorem reissued_twice_and_body_shared :
    ((overlapping.calls 0).answer = some (sampleResponse "r0") ∧
        (overlapping.calls 1).answer = some (sampleResponse "r1") ∧
        ¬ ReissuedOnce retried overlapping) ∧ ¬ ReissuedOnce retried retriedAfterFailure ∧
      longKeysInTurn.calls 1 = .replayed (sampleResponse "r0") 0 ∧ longKeys 0 ≠ longKeys 1 ∧
        ¬ ReissuedOnce longKeys longKeysInTurn := by
  have replayed : longKeysInTurn.calls 1 = .replayed (sampleResponse "r0") 0 := by
    have slots : ∀ request, reissueSlot sampleDigest (longKeys request) = some (idempotencyCacheKey
        sampleDigest "devices.reissue" "d1" (longKey 256)) := by
      intro request
      rw [reissueSlot, longKeys_normalized]
      rfl
    simp [longKeysInTurn, reissueStep, step, slots, System.start, System.setCall]
  refine ⟨⟨by decide +kernel, by decide +kernel, ?_⟩, ?_, replayed, longKeys_differ, ?_⟩
  · intro promise
    exact absurd (promise.once 0 1 rfl rfl (by decide +kernel) (by decide +kernel)) (by decide)
  · intro promise
    exact absurd (promise.once 0 1 rfl rfl (by decide +kernel) (by decide +kernel)) (by decide)
  · intro promise
    exact longKeys_differ (promise.ownBody 1 (sampleResponse "r0") 0 replayed)

theorem retried_apart : KeysApart sampleDigest retried :=
  keysApart_of_plain (Equiv.swap ..).injective
    (by
      rintro request raw ⟨⟩
      decide)
    (fun _ => (by decide : ':' ∉ "d1".toList))

/-- A retry after the first request has answered. -/
theorem retry_is_replayed :
    EveryState (reissueStep sampleDigest retried) System.start
      [.lookup 0, .finish 0 (some (sampleResponse "r0")), .store 0, .lookup 1]
      (ReissuedOnce retried) := by
  apply (reissued_once_iff_rotates_alone sampleDigest retried retried_apart _).mpr
  refine everyStep_cons.mpr ⟨trivial, everyStep_cons.mpr ⟨?_, everyStep_cons.mpr ⟨trivial,
    everyStep_cons.mpr ⟨trivial, everyStep_nil⟩⟩⟩⟩
  intro _ key _
  refine ⟨rfl, ?_⟩
  intro other _
  -- no other request has been looked up
  change Function.update (fun _ => Phase.idle) 0 Phase.computing other ≠ .failed ∧
    ∀ value, Function.update (fun _ => Phase.idle) 0 Phase.computing other ≠ .computed value
  by_cases first : other = 0
  · rw [first, Function.update_self]
    exact ⟨by simp, fun _ => by simp⟩
  · rw [Function.update_of_ne first]
    exact ⟨by simp, fun _ => by simp⟩

end VpnSuite.Fleet
