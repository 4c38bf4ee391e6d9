import Mathlib
import MindscapeLocalCore.Library.Json
import MindscapeLocalCore.Library.ItemDict

/-!
The contracts of device binding: what a source device declares, the pairing code that it
connects with, and its session.
-/

namespace MindscapeLocalCore.DeviceBinding.DeviceBindingContracts

open Library.Json

inductive DeviceSourceType where
  | phoneCamera
  | desktopCamera
  | usbCamera
  | virtualCamera
  | externalProviderCamera
  | microphone
deriving DecidableEq

inductive DeviceBindingSessionState where
  | pairing
  | paired
  | active
  | revoked
  | expired
  | closed
  | rejected
deriving DecidableEq

structure DeviceCapabilityDeclaration where
  deviceId : Option String
  displayName : Option String
  sourceTypes : List DeviceSourceType
  metadata : Dict

structure DevicePairingCode (Time : Type) where
  workspaceId : String
  pairingCode : String
  expiresAtEpoch : Time
  expiresInSeconds : ℤ
  deviceLinkPath : String

structure DeviceMediaAnalysisHandoff where
  liveMotionSessionId : String
  meetingSessionId : String
  practiceSessionId : String
  coachPack : String
  practiceMode : String

/-- `DeviceSessionEntry`; a websocket is an object of which the registry asks the identity only. -/
structure DeviceSessionEntry (Time : Type) where
  sessionId : String
  workspaceId : String
  pairingCode : String
  deviceId : String
  displayName : Option String
  sourceTypes : List DeviceSourceType
  metadata : Dict
  state : DeviceBindingSessionState
  createdAtEpoch : Time
  updatedAtEpoch : Time
  expiresAtEpoch : Time
  mediaSessionId : Option String
  mediaSessionState : Option String
  mediaReceiverMetrics : Dict
  mediaAnalysisHandoff : Option DeviceMediaAnalysisHandoff
  mediaSessionExpiresAtEpoch : Option Time
  terminalReason : Option String
  websocket : ℕ

structure PairingRecord (Time : Type) where
  pairing : DevicePairingCode Time
  observerWebsockets : List ℕ
  consumedSessionId : Option String

/-- What one call of `connect_source_device` draws from `secrets`. -/
structure Draw where
  session : String
  device : String
deriving DecidableEq

def Draw.sessionId (draw : Draw) : String := "device_session_" ++ draw.session

end MindscapeLocalCore.DeviceBinding.DeviceBindingContracts

/-!
The registry of pairing codes and device sessions. A method is given the readings of the
clock that it makes, the first of them as `now 0`.
-/

namespace MindscapeLocalCore.DeviceBinding.DeviceBindingRegistry

open Library.Json (Dict)
open Library.OrderedDict DeviceBindingContracts

variable {Time : Type}

def devicePairingCodeTtlSeconds : ℤ := 120

def maxDevicePairingCodeTtlSeconds : ℤ := 600

def deviceSessionTtlSeconds : ℤ := 180

def maxActiveSourceDevicesPerWorkspace : ℕ := 3

def normalizePairingTtlSeconds : Option ℤ → ℤ
  | none => devicePairingCodeTtlSeconds
  | some ttlSeconds => max 1 (min ttlSeconds maxDevicePairingCodeTtlSeconds)

/-- `DeviceBindingRegistryError` -/
structure RegistryError where
  reason : String
  message : String
  statusCode : ℕ
  closeCode : ℕ
deriving DecidableEq

def duplicatePairingCode : RegistryError :=
  ⟨"duplicate_pairing_code", "This pairing code is already bound to a source device.", 409, 4409⟩

def activeSourceLimitReached : RegistryError :=
  ⟨"active_source_limit_reached",
    "This workspace already has the maximum active source devices.", 409, 4409⟩

def unknownSession : RegistryError :=
  ⟨"unknown_session", "No active device session exists for this session_id.", 404, 4404⟩

def unknownWorkspaceSession : RegistryError :=
  ⟨"unknown_session", "No active device session exists for this workspace.", 404, 4404⟩

def sessionExpired : RegistryError :=
  ⟨"session_expired", "The device session expired.", 410, 4408⟩

def deviceMediaSessionConflict : RegistryError :=
  ⟨"device_media_session_conflict",
    "This device already owns another active media session.", 409, 4409⟩

def deviceMediaSessionMismatch : RegistryError :=
  ⟨"device_media_session_mismatch",
    "The media session does not belong to this device session.", 409, 4409⟩

def unknownPairingCode : RegistryError :=
  ⟨"unknown_pairing_code", "No active pairing code exists for this workspace.", 404, 4404⟩

def workspaceMismatch : RegistryError :=
  ⟨"workspace_mismatch", "The pairing code does not belong to this workspace.", 403, 4403⟩

def pairingCodeExpired : RegistryError :=
  ⟨"pairing_code_expired", "The pairing code expired.", 410, 4408⟩

abbrev Entry (Time : Type) := DeviceSessionEntry Time

structure Registry (Time : Type) where
  pairings : PyDict String (PairingRecord Time)
  sessions : PyDict String (Entry Time)

def Registry.empty : Registry Time := ⟨.empty, .empty⟩

/-- `record.consumed_session_id` as a condition. -/
def PairingRecord.consumed (record : PairingRecord Time) : Bool :=
  match record.consumedSessionId with
  | some id => decide (id ≠ "")
  | none => false

def releasePairingSession (pairingCode sessionId : String) (r : Registry Time) : Registry Time :=
  match r.pairings.get pairingCode with
  | some record =>
      if record.consumedSessionId = some sessionId then
        { r with pairings := r.pairings.set pairingCode { record with consumedSessionId := none } }
      else r
  | none => r

/-- What `_expire_session`, `revoke_session` and `close_session` leave. -/
def removeSession (entry : Entry Time) (r : Registry Time) : Registry Time :=
  releasePairingSession entry.pairingCode entry.sessionId
    { r with sessions := r.sessions.pop entry.sessionId }

variable [LinearOrder Time]

/-- `_PairingRecord.expired` -/
def PairingRecord.expired (now : Time) (record : PairingRecord Time) : Bool :=
  decide (record.pairing.expiresAtEpoch ≤ now)

/-- A record that `cleanup_expired` removes: expired, and not held by a stored session. -/
def purgeable (now : Time) (r : Registry Time) (record : PairingRecord Time) : Bool :=
  PairingRecord.expired now record &&
    (!PairingRecord.consumed record || match record.consumedSessionId with
      | some id => (r.sessions.get id).isNone
      | none => true)

def purgePairings (now : Time) (r : Registry Time) : Registry Time :=
  { r with pairings := r.pairings.retain fun _ record => !purgeable now r record }

def expiredSessions (now : Time) (r : Registry Time) : List (Entry Time) :=
  r.sessions.values.filter fun entry => decide (entry.expiresAtEpoch ≤ now)

def removeSessions (entries : List (Entry Time)) (r : Registry Time) : Registry Time :=
  entries.foldl (fun r entry => removeSession entry r) r

def cleanupExpired (now : Time) (r : Registry Time) : ℕ × Registry Time :=
  let purged := purgePairings now r
  let expired := expiredSessions now purged
  (r.pairings.items.length - purged.pairings.items.length + expired.length,
    removeSessions expired purged)

/-- What a call of `cleanup_expired` leaves. -/
abbrev cleaned (now : Time) (r : Registry Time) : Registry Time := (cleanupExpired now r).2

/-- `_generate_pairing_code`: the first of the drawn codes that is not in use, if there is one. -/
def generatePairingCode (codes : List String) (r : Registry Time) : Option String :=
  codes.find? fun code => (r.pairings.get code).isNone

/-- `create_pairing_code`; no answer while every drawn code is in use. -/
def createPairingCode [Add Time] [IntCast Time] (now : ℕ → Time) (workspaceId : String)
    (ttlSeconds : Option ℤ) (codes : List String) (r : Registry Time) :
    Option (DevicePairingCode Time) × Registry Time :=
  let r := cleaned (now 0) r
  match generatePairingCode codes r with
  | none => (none, r)
  | some pairingCode =>
      let effectiveTtl := normalizePairingTtlSeconds ttlSeconds
      let pairing : DevicePairingCode Time :=
        { workspaceId := workspaceId
          pairingCode := pairingCode
          expiresAtEpoch := now 0 + (effectiveTtl : Time)
          expiresInSeconds := effectiveTtl
          deviceLinkPath := "/device-link/" ++ pairingCode }
      (some pairing, { r with pairings := r.pairings.set pairingCode ⟨pairing, [], none⟩ })

def requirePairing (now : Time) (workspaceId pairingCode : String) (r : Registry Time) :
    Except RegistryError (PairingRecord Time) × Registry Time :=
  match r.pairings.get pairingCode with
  | none => (.error unknownPairingCode, r)
  | some record =>
      if record.pairing.workspaceId ≠ workspaceId then (.error workspaceMismatch, r)
      else if PairingRecord.expired now record then
        (.error pairingCodeExpired, { r with pairings := r.pairings.pop pairingCode })
      else (.ok record, r)

def attachWorkspaceObserver (now : Time) (workspaceId pairingCode : String) (websocket : ℕ)
    (r : Registry Time) : Except RegistryError (DevicePairingCode Time) × Registry Time :=
  match requirePairing now workspaceId pairingCode r with
  | (.error e, r) => (.error e, r)
  | (.ok record, r) =>
      if websocket ∈ record.observerWebsockets then (.ok record.pairing, r)
      else
        let observed :=
          { record with observerWebsockets := record.observerWebsockets ++ [websocket] }
        (.ok record.pairing, { r with pairings := r.pairings.set pairingCode observed })

def detachWorkspaceObserver (pairingCode : String) (websocket : ℕ) (r : Registry Time) :
    Registry Time :=
  match r.pairings.get pairingCode with
  | none => r
  | some record =>
      let left :=
        { record with
          observerWebsockets := record.observerWebsockets.filter fun o => decide (o ≠ websocket) }
      { r with pairings := r.pairings.set pairingCode left }

def terminalStates : List DeviceBindingSessionState := [.revoked, .expired, .closed, .rejected]

def listActiveSessions (now : Time) (workspaceId : String) (r : Registry Time) :
    List (Entry Time) × Registry Time :=
  let r := cleaned now r
  (r.sessions.values.filter fun entry =>
    decide (entry.workspaceId = workspaceId) && decide (entry.state ∉ terminalStates), r)

def getActiveSession (now : Time) (workspaceId sessionId : String) (r : Registry Time) :
    Option (Entry Time) × Registry Time :=
  let r := cleaned now r
  ((r.sessions.get sessionId).filter fun entry =>
    decide (entry.workspaceId = workspaceId) && decide (entry.state ∉ terminalStates), r)

/-- The record that `connect_source_device` holds is marked, whether it is still stored or not. -/
def consumePairing (pairingCode sessionId : String) (r : Registry Time) : Registry Time :=
  match r.pairings.get pairingCode with
  | some record =>
      { r with
        pairings :=
          r.pairings.set pairingCode { record with consumedSessionId := some sessionId } }
  | none => r

/-- The entry that `connect_source_device` stores. -/
def newEntry [Add Time] [IntCast Time] (now : Time) (workspaceId pairingCode : String)
    (declaration : DeviceCapabilityDeclaration) (websocket : ℕ) (draw : Draw) : Entry Time where
  sessionId := draw.sessionId
  workspaceId := workspaceId
  pairingCode := pairingCode
  deviceId := match declaration.deviceId with
    | some deviceId => if deviceId = "" then "device_" ++ draw.device else deviceId
    | none => "device_" ++ draw.device
  displayName := declaration.displayName
  sourceTypes := declaration.sourceTypes
  metadata := declaration.metadata
  state := .paired
  createdAtEpoch := now
  updatedAtEpoch := now
  expiresAtEpoch := now + (deviceSessionTtlSeconds : Time)
  mediaSessionId := none
  mediaSessionState := none
  mediaReceiverMetrics := []
  mediaAnalysisHandoff := none
  mediaSessionExpiresAtEpoch := none
  terminalReason := none
  websocket := websocket

def connectSourceDevice [Add Time] [IntCast Time] (now : ℕ → Time)
    (workspaceId pairingCode : String) (declaration : DeviceCapabilityDeclaration)
    (websocket : ℕ) (draw : Draw) (r : Registry Time) :
    Except RegistryError (Entry Time) × Registry Time :=
  match requirePairing (now 0) workspaceId pairingCode (cleaned (now 0) r) with
  | (.error e, r) => (.error e, r)
  | (.ok record, r) =>
      if PairingRecord.consumed record then (.error duplicatePairingCode, r)
      else
        let active := (listActiveSessions (now 1) workspaceId r).1
        let r := (listActiveSessions (now 1) workspaceId r).2
        if maxActiveSourceDevicesPerWorkspace ≤ active.length then
          (.error activeSourceLimitReached, r)
        else
          let entry := newEntry (now 0) workspaceId pairingCode declaration websocket draw
          (.ok entry, consumePairing pairingCode draw.sessionId
            { r with sessions := r.sessions.set draw.sessionId entry })

def refreshSession [Add Time] [IntCast Time] (now : Time) (sessionId : String)
    (r : Registry Time) : Except RegistryError (Entry Time) × Registry Time :=
  match r.sessions.get sessionId with
  | none => (.error unknownSession, r)
  | some entry =>
      if entry.expiresAtEpoch ≤ now then (.error sessionExpired, removeSession entry r)
      else
        let refreshed :=
          { entry with
            state := .active
            updatedAtEpoch := now
            expiresAtEpoch := now + (deviceSessionTtlSeconds : Time) }
        (.ok refreshed, { r with sessions := r.sessions.set sessionId refreshed })

omit [LinearOrder Time] in
def revokeSession (now : Time) (workspaceId sessionId reason : String) (r : Registry Time) :
    Except RegistryError (Entry Time) × Registry Time :=
  match r.sessions.get sessionId with
  | none => (.error unknownWorkspaceSession, r)
  | some entry =>
      if entry.workspaceId ≠ workspaceId then (.error unknownWorkspaceSession, r)
      else
        let revoked :=
          { entry with
            state := .revoked
            terminalReason := some reason
            updatedAtEpoch := now }
        (.ok revoked, releasePairingSession entry.pairingCode entry.sessionId
          { r with sessions := r.sessions.pop sessionId })

omit [LinearOrder Time] in
def closeSession (now : Time) (sessionId reason : String) (r : Registry Time) :
    Option (Entry Time) × Registry Time :=
  match r.sessions.get sessionId with
  | none => (none, r)
  | some entry =>
      let closed :=
        { entry with
          state := .closed
          terminalReason := some reason
          updatedAtEpoch := now }
      (some closed, releasePairingSession entry.pairingCode entry.sessionId
        { r with sessions := r.sessions.pop sessionId })

/-- Amend the session that `get_active_session` finds, unless its media session is not as
required. -/
def amendMedia (now : Time) (workspaceId sessionId : String) (refused : Entry Time → Bool)
    (error : RegistryError) (f : Entry Time → Entry Time) (r : Registry Time) :
    Except RegistryError (Entry Time) × Registry Time :=
  match getActiveSession now workspaceId sessionId r with
  | (none, r) => (.error unknownWorkspaceSession, r)
  | (some entry, r) =>
      if refused entry then (.error error, r)
      else (.ok (f entry), { r with sessions := r.sessions.set sessionId (f entry) })

def ownsOther (mediaSessionId : String) (entry : Entry Time) : Bool :=
  match entry.mediaSessionId with
  | some owned => decide (owned ≠ "") && decide (owned ≠ mediaSessionId)
  | none => false

def attachLiveMediaSession (now : ℕ → Time)
    (workspaceId sessionId mediaSessionId mediaSessionState : String)
    (mediaSessionExpiresAtEpoch : Time) (r : Registry Time) :
    Except RegistryError (Entry Time) × Registry Time :=
  amendMedia (now 0) workspaceId sessionId (ownsOther mediaSessionId) deviceMediaSessionConflict
    (fun entry =>
      { entry with
        mediaSessionId := some mediaSessionId
        mediaSessionState := some mediaSessionState
        mediaSessionExpiresAtEpoch := some mediaSessionExpiresAtEpoch
        updatedAtEpoch := now 1 }) r

def detachLiveMediaSession (now : ℕ → Time) (workspaceId sessionId mediaSessionId : String)
    (r : Registry Time) : Except RegistryError (Entry Time) × Registry Time :=
  amendMedia (now 0) workspaceId sessionId
    (fun entry => decide (entry.mediaSessionId ≠ some mediaSessionId)) deviceMediaSessionMismatch
    (fun entry =>
      { entry with
        mediaSessionId := none
        mediaSessionState := some "stopped"
        mediaAnalysisHandoff := none
        mediaSessionExpiresAtEpoch := none
        updatedAtEpoch := now 1 }) r

def updateLiveMediaReceiverState (now : ℕ → Time)
    (workspaceId sessionId mediaSessionId receiverState : String) (metrics : Option Dict)
    (analysisHandoff : Option DeviceMediaAnalysisHandoff) (r : Registry Time) :
    Except RegistryError (Entry Time) × Registry Time :=
  amendMedia (now 0) workspaceId sessionId
    (fun entry => decide (entry.mediaSessionId ≠ some mediaSessionId)) deviceMediaSessionMismatch
    (fun entry =>
      { entry with
        mediaSessionState := some receiverState
        mediaReceiverMetrics := metrics.getD []
        mediaAnalysisHandoff := analysisHandoff.or entry.mediaAnalysisHandoff
        updatedAtEpoch := now 1 }) r

/-! ### What the methods do -/

variable (now : Time) (workspaceId pairingCode sessionId : String) (r : Registry Time)

theorem requirePairing_cases :
    (∃ e, requirePairing now workspaceId pairingCode r = (.error e, r)) ∨
      (∃ e, requirePairing now workspaceId pairingCode r =
        (.error e, { r with pairings := r.pairings.pop pairingCode })) ∨
      ∃ record, r.pairings.get pairingCode = some record ∧
        record.pairing.workspaceId = workspaceId ∧ now < record.pairing.expiresAtEpoch ∧
        requirePairing now workspaceId pairingCode r = (.ok record, r) := by
  rw [requirePairing]
  split
  · exact .inl ⟨_, rfl⟩
  · rename_i record hget
    split
    · exact .inl ⟨_, rfl⟩
    · rename_i hworkspace
      split
      · exact .inr (.inl ⟨_, rfl⟩)
      · rename_i hunexpired
        have hlt : now < record.pairing.expiresAtEpoch :=
          lt_of_not_ge fun hle => hunexpired (decide_eq_true hle)
        exact .inr (.inr ⟨record, hget, not_not.mp hworkspace, hlt, rfl⟩)

theorem getActiveSession_cases :
    getActiveSession now workspaceId sessionId r = (none, cleaned now r) ∨
      ∃ entry, (cleaned now r).sessions.get sessionId = some entry ∧
        entry.workspaceId = workspaceId ∧ entry.state ∉ terminalStates ∧
        getActiveSession now workspaceId sessionId r = (some entry, cleaned now r) := by
  rw [getActiveSession]
  cases hget : (cleaned now r).sessions.get sessionId with
  | none => exact .inl rfl
  | some entry =>
      rw [Option.filter_some]
      split
      · rename_i htest
        obtain ⟨hworkspace, hlisted⟩ := Bool.and_eq_true_iff.mp htest
        exact .inr ⟨entry, rfl, of_decide_eq_true hworkspace, of_decide_eq_true hlisted, rfl⟩
      · exact .inl rfl

variable {now workspaceId sessionId r} in
theorem getActiveSession_of_get {entry : Entry Time}
    (hget : (cleaned now r).sessions.get sessionId = some entry)
    (hworkspace : entry.workspaceId = workspaceId) (hlisted : entry.state ∉ terminalStates) :
    getActiveSession now workspaceId sessionId r = (some entry, cleaned now r) := by
  rw [getActiveSession]
  show ((PyDict.get sessionId (cleaned now r).sessions).filter _, _) = _
  rw [hget, Option.filter_some, if_pos]
  exact Bool.and_eq_true_iff.mpr ⟨decide_eq_true hworkspace, decide_eq_true hlisted⟩

variable {now workspaceId sessionId r} in
theorem amendMedia_of_get {refused : Entry Time → Bool} {error : RegistryError}
    {f : Entry Time → Entry Time} {entry : Entry Time}
    (hget : (cleaned now r).sessions.get sessionId = some entry)
    (hworkspace : entry.workspaceId = workspaceId) (hlisted : entry.state ∉ terminalStates) :
    amendMedia now workspaceId sessionId refused error f r =
      if refused entry then (.error error, cleaned now r)
      else (.ok (f entry),
        { cleaned now r with
          sessions := (cleaned now r).sessions.set sessionId (f entry) }) := by
  rw [amendMedia, getActiveSession_of_get hget hworkspace hlisted]

theorem amendMedia_cases {refused : Entry Time → Bool} {error : RegistryError}
    {f : Entry Time → Entry Time} :
    (∃ e, amendMedia now workspaceId sessionId refused error f r = (.error e, cleaned now r)) ∨
      ∃ entry, (cleaned now r).sessions.get sessionId = some entry ∧
        entry.workspaceId = workspaceId ∧ entry.state ∉ terminalStates ∧ refused entry = false ∧
        amendMedia now workspaceId sessionId refused error f r =
          (.ok (f entry),
            { cleaned now r with
              sessions := (cleaned now r).sessions.set sessionId (f entry) }) := by
  rcases getActiveSession_cases now workspaceId sessionId r with
    hnone | ⟨entry, hget, hworkspace, hlisted, -⟩
  · rw [amendMedia, hnone]
    exact .inl ⟨_, rfl⟩
  · rw [amendMedia_of_get hget hworkspace hlisted]
    split
    · exact .inl ⟨_, rfl⟩
    · rename_i hrefused
      exact .inr ⟨entry, hget, hworkspace, hlisted, (Bool.not_eq_true _).mp hrefused, rfl⟩

end MindscapeLocalCore.DeviceBinding.DeviceBindingRegistry
