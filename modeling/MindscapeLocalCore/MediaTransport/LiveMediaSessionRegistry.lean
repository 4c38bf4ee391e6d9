import Mathlib.Data.Finset.Basic
import MindscapeLocalCore.Library.ItemDict

/-!
The contracts of live media sessions. Epochs are of any linear order with an addition, of
which nothing is asked: the epochs of the program are floats.
-/

namespace MindscapeLocalCore.MediaTransport.LiveMediaContracts

inductive MediaSourceKind where
  | phoneCamera
  | desktopCamera
  | usbCamera
  | virtualCamera
  | externalProviderCamera
deriving DecidableEq

inductive LiveMediaRelayProfile where
  | publicRelay
deriving DecidableEq

inductive LiveMediaCapability where
  | video
  | audio
deriving DecidableEq

inductive LiveMediaSessionState where
  | waitingForPublisher
  | publishing
  | ready
  | degraded
  | stopped
  | expired
deriving DecidableEq

def LiveMediaSessionState.text : LiveMediaSessionState → String
  | waitingForPublisher => "waiting_for_publisher"
  | publishing => "publishing"
  | ready => "ready"
  | degraded => "degraded"
  | stopped => "stopped"
  | expired => "expired"

inductive LiveMediaReceiverStateName where
  | starting
  | waitingSource
  | receiving
  | analyzing
  | degraded
  | stopping
  | completed
  | failed
  | expired
deriving DecidableEq

def LiveMediaReceiverStateName.text : LiveMediaReceiverStateName → String
  | starting => "starting"
  | waitingSource => "waiting_source"
  | receiving => "receiving"
  | analyzing => "analyzing"
  | degraded => "degraded"
  | stopping => "stopping"
  | completed => "completed"
  | failed => "failed"
  | expired => "expired"

structure CreateLiveMediaSessionRequest where
  sourceKind : MediaSourceKind
  relayProfile : LiveMediaRelayProfile
  capabilities : List LiveMediaCapability
  analysisReserved : Bool
deriving DecidableEq

structure LiveMediaSessionEndpoints where
  whipPublishUrl : String
  whepPreviewUrl : String
  rtmpsPublishUrl : String
  rtspsReceiverUrl : String
deriving DecidableEq

structure LiveMediaSessionDescriptor (Time : Type) where
  workspaceId : String
  deviceSessionId : String
  mediaSessionId : String
  streamPath : String
  sourceKind : MediaSourceKind
  relayProfile : LiveMediaRelayProfile
  capabilities : List LiveMediaCapability
  analysisReserved : Bool
  state : LiveMediaSessionState
  endpoints : LiveMediaSessionEndpoints
  receiverDescriptorRef : String
  createdAtEpoch : Time
  updatedAtEpoch : Time
  expiresAtEpoch : Time
  terminalReason : Option String
deriving DecidableEq

structure LiveMediaReceiverBinding where
  receiverIdentity : String
  appendOwnerId : String
deriving DecidableEq

/-- What the registry reads of `LiveMediaConfig`. -/
structure LiveMediaConfig (Time : Type) where
  publicWebrtcOrigin : String
  publicRtmpsOrigin : String
  receiverRtspsOrigin : String
  sessionTtlSeconds : Time

/-- What one call of `create` draws from `secrets`: `token_hex(8)`, then `token_urlsafe` of
24, 18 and 24 bytes. -/
structure Draw where
  mediaSession : String
  stream : String
  receiver : String
  append : String
deriving DecidableEq

def Draw.mediaSessionId (draw : Draw) : String := "lms_" ++ draw.mediaSession

end MindscapeLocalCore.MediaTransport.LiveMediaContracts

/-!
The registry of live media sessions: four maps that its methods update by hand. A method is
given the readings of the clock that it makes, the first of them as `now 0`.
-/

namespace MindscapeLocalCore.MediaTransport.LiveMediaSessionRegistry

open Library.OrderedDict LiveMediaContracts

variable {Time : Type} [LinearOrder Time]

def maxActiveMediaSessionsPerWorkspace : ℕ := 3

def receiverMediaState : LiveMediaReceiverStateName → LiveMediaSessionState
  | .starting => .waitingForPublisher
  | .waitingSource => .waitingForPublisher
  | .receiving => .publishing
  | .analyzing => .ready
  | .degraded => .degraded
  | .stopping => .ready
  | .completed => .ready
  | .failed => .degraded
  | .expired => .expired

/-- `LiveMediaSessionRegistryError` -/
structure RegistryError where
  reason : String
  statusCode : ℕ
deriving DecidableEq

abbrev Descriptor (Time : Type) := LiveMediaSessionDescriptor Time

structure Registry (Time : Type) where
  sessions : PyDict String (Descriptor Time)
  deviceSessions : PyDict (String × String) String
  receiverBindings : PyDict String LiveMediaReceiverBinding
  startedReceivers : Finset String

def Registry.empty : Registry Time := ⟨.empty, .empty, .empty, ∅⟩

def deviceKey (descriptor : Descriptor Time) : String × String :=
  (descriptor.workspaceId, descriptor.deviceSessionId)

/-- What `stop` and `cleanup_expired` take out of the four maps. -/
def release (mediaSessionId : String) (key : String × String) (r : Registry Time) :
    Registry Time where
  sessions := r.sessions.pop mediaSessionId
  receiverBindings := r.receiverBindings.pop mediaSessionId
  startedReceivers := r.startedReceivers.erase mediaSessionId
  deviceSessions := r.deviceSessions.pop key

/-- `expired_ids`, with their sessions. -/
def expiredItems (now : Time) (r : Registry Time) : List (String × Descriptor Time) :=
  r.sessions.items.filter fun item => decide (item.2.expiresAtEpoch ≤ now)

def releaseAll (items : List (String × Descriptor Time)) (r : Registry Time) : Registry Time :=
  items.foldl (fun r item => release item.1 (deviceKey item.2) r) r

def cleanupExpired (now : Time) (r : Registry Time) : ℕ × Registry Time :=
  let expired := expiredItems now r
  (expired.length, releaseAll expired r)

/-- What a call of `cleanup_expired` leaves. -/
abbrev cleaned (now : Time) (r : Registry Time) : Registry Time := (cleanupExpired now r).2

def workspaceSessions (workspaceId : String) (r : Registry Time) : List (Descriptor Time) :=
  r.sessions.values.filter fun descriptor => decide (descriptor.workspaceId = workspaceId)

def listActive (now : Time) (workspaceId : String) (r : Registry Time) :
    List (Descriptor Time) × Registry Time :=
  (workspaceSessions workspaceId (cleaned now r), cleaned now r)

def sessionNotFound : RegistryError := ⟨"live_media_session_not_found", 404⟩

def bindingNotFound : RegistryError := ⟨"live_media_receiver_binding_not_found", 404⟩

def endpoints (config : LiveMediaConfig Time) (streamPath : String) :
    LiveMediaSessionEndpoints where
  whipPublishUrl := config.publicWebrtcOrigin ++ "/" ++ streamPath ++ "/whip"
  whepPreviewUrl := config.publicWebrtcOrigin ++ "/" ++ streamPath ++ "/whep"
  rtmpsPublishUrl := config.publicRtmpsOrigin ++ "/" ++ streamPath
  rtspsReceiverUrl := config.receiverRtspsOrigin ++ "/" ++ streamPath

/-- The descriptor that `create` stores. -/
def newDescriptor [Add Time] (config : LiveMediaConfig Time) (now : Time)
    (workspaceId deviceSessionId : String) (request : CreateLiveMediaSessionRequest)
    (draw : Draw) : Descriptor Time :=
  let streamPath := "live/" ++ draw.stream
  { workspaceId := workspaceId
    deviceSessionId := deviceSessionId
    mediaSessionId := draw.mediaSessionId
    streamPath := streamPath
    sourceKind := request.sourceKind
    relayProfile := request.relayProfile
    capabilities := request.capabilities
    analysisReserved := request.analysisReserved
    state := .waitingForPublisher
    endpoints := endpoints config streamPath
    receiverDescriptorRef := "live-media-receiver:" ++ draw.mediaSessionId
    createdAtEpoch := now
    updatedAtEpoch := now
    expiresAtEpoch := now + config.sessionTtlSeconds
    terminalReason := none }

def newBinding (draw : Draw) : LiveMediaReceiverBinding where
  receiverIdentity := "receiver_" ++ draw.receiver
  appendOwnerId := "append_" ++ draw.append

/-- The three assignments of `create`. -/
def store (descriptor : Descriptor Time) (binding : LiveMediaReceiverBinding)
    (r : Registry Time) : Registry Time :=
  { r with
    sessions := r.sessions.set descriptor.mediaSessionId descriptor
    deviceSessions := r.deviceSessions.set (deviceKey descriptor) descriptor.mediaSessionId
    receiverBindings := r.receiverBindings.set descriptor.mediaSessionId binding }

def existingSession (key : String × String) (r : Registry Time) : Option (Descriptor Time) :=
  match r.deviceSessions.get key with
  | some existingId => if existingId = "" then none else r.sessions.get existingId
  | none => none

def sameContract (existing : Descriptor Time) (request : CreateLiveMediaSessionRequest) : Bool :=
  decide (existing.sourceKind = request.sourceKind) &&
    decide (existing.relayProfile = request.relayProfile) &&
    decide (existing.analysisReserved = request.analysisReserved) &&
    decide (existing.capabilities = request.capabilities)

def create [Add Time] (config : LiveMediaConfig Time) (now : ℕ → Time)
    (workspaceId deviceSessionId : String) (request : CreateLiveMediaSessionRequest)
    (draw : Draw) (r : Registry Time) : Except RegistryError (Descriptor Time) × Registry Time :=
  let r := cleaned (now 0) r
  match existingSession (workspaceId, deviceSessionId) r with
  | some existing =>
      if sameContract existing request then (.ok existing, r)
      else (.error ⟨"live_media_session_contract_conflict", 409⟩, r)
  | none =>
      let active := (listActive (now 1) workspaceId r).1
      let r := (listActive (now 1) workspaceId r).2
      if maxActiveMediaSessionsPerWorkspace ≤ active.length then
        (.error ⟨"active_live_media_session_limit_reached", 409⟩, r)
      else if request.analysisReserved && active.any (·.analysisReserved) then
        (.error ⟨"workspace_analysis_session_already_reserved", 409⟩, r)
      else
        let descriptor := newDescriptor config (now 2) workspaceId deviceSessionId request draw
        (.ok descriptor, store descriptor (newBinding draw) r)

/-- `media_session_id or self._device_sessions.get(…)` -/
def resolvedId (key : String × String) (mediaSessionId : Option String) (r : Registry Time) :
    String :=
  match mediaSessionId with
  | some id => if id = "" then (r.deviceSessions.get key).getD "" else id
  | none => (r.deviceSessions.get key).getD ""

def getActive (now : Time) (workspaceId deviceSessionId : String)
    (mediaSessionId : Option String) (r : Registry Time) :
    Except RegistryError (Descriptor Time) × Registry Time :=
  let r := cleaned now r
  match r.sessions.get (resolvedId (workspaceId, deviceSessionId) mediaSessionId r) with
  | some descriptor =>
      if deviceKey descriptor = (workspaceId, deviceSessionId) then (.ok descriptor, r)
      else (.error sessionNotFound, r)
  | none => (.error sessionNotFound, r)

def getReceiverBinding (now : Time) (workspaceId deviceSessionId mediaSessionId : String)
    (r : Registry Time) : Except RegistryError LiveMediaReceiverBinding × Registry Time :=
  match getActive now workspaceId deviceSessionId (some mediaSessionId) r with
  | (.error e, r) => (.error e, r)
  | (.ok _, r) =>
      match r.receiverBindings.get mediaSessionId with
      | some binding => (.ok binding, r)
      | none => (.error bindingNotFound, r)

def markReceiverStarted (mediaSessionId : String) (r : Registry Time) :
    Except RegistryError Unit × Registry Time :=
  match r.receiverBindings.get mediaSessionId with
  | some _ =>
      (.ok (), { r with startedReceivers := insert mediaSessionId r.startedReceivers })
  | none => (.error bindingNotFound, r)

/-- `reason or state` -/
def reasonOr (reason : Option String) (state : LiveMediaReceiverStateName) : String :=
  match reason with
  | some text => if text = "" then state.text else text
  | none => state.text

/-- The copy that `update_receiver_state` stores. -/
def projected (now : Time) (state : LiveMediaReceiverStateName) (reason : Option String)
    (descriptor : Descriptor Time) : Descriptor Time :=
  { descriptor with
    state := receiverMediaState state
    updatedAtEpoch := now
    terminalReason :=
      if state = .failed ∨ state = .expired then some (reasonOr reason state)
      else descriptor.terminalReason }

def updateReceiverState (now : Time) (mediaSessionId : String)
    (state : LiveMediaReceiverStateName) (reason : Option String) (r : Registry Time) :
    Except RegistryError (Descriptor Time) × Registry Time :=
  match r.sessions.get mediaSessionId with
  | some descriptor =>
      let updated := projected now state reason descriptor
      (.ok updated, { r with sessions := r.sessions.set mediaSessionId updated })
  | none => (.error sessionNotFound, r)

def stop (now : ℕ → Time) (workspaceId deviceSessionId mediaSessionId reason : String)
    (r : Registry Time) : Except RegistryError (Descriptor Time) × Registry Time :=
  match getActive (now 0) workspaceId deviceSessionId (some mediaSessionId) r with
  | (.error e, r) => (.error e, r)
  | (.ok descriptor, r) =>
      let descriptor := { descriptor with
        state := .stopped
        terminalReason := some reason
        updatedAtEpoch := now 1 }
      (.ok descriptor, release mediaSessionId (workspaceId, deviceSessionId) r)

/-! ### What each method does -/

theorem getActive_eq_ok {now : Time} {workspaceId deviceSessionId : String} {id : Option String}
    {r : Registry Time} {descriptor : Descriptor Time} :
    (getActive now workspaceId deviceSessionId id r).1 = .ok descriptor ↔
      (cleaned now r).sessions.get
          (resolvedId (workspaceId, deviceSessionId) id (cleaned now r)) = some descriptor ∧
        deviceKey descriptor = (workspaceId, deviceSessionId) := by
  simp only [getActive]
  cases (cleaned now r).sessions.get
      (resolvedId (workspaceId, deviceSessionId) id (cleaned now r)) with
  | none => exact iff_of_false (fun h => by cases h) fun h => by cases h.1
  | some found =>
      show (if deviceKey found = (workspaceId, deviceSessionId) then
          ((.ok found, cleaned now r) : Except RegistryError (Descriptor Time) × Registry Time)
        else (.error sessionNotFound, cleaned now r)).1 = .ok descriptor ↔ _
      split
      · rename_i hkey
        constructor
        · intro h
          obtain rfl := Except.ok.inj h
          exact ⟨rfl, hkey⟩
        · rintro ⟨h, -⟩
          rw [Option.some.inj h]
      · rename_i hkey
        refine iff_of_false (fun h => by cases h) ?_
        rintro ⟨h, hd⟩
        exact hkey (Option.some.inj h ▸ hd)

variable (now : Time) (workspaceId deviceSessionId mediaSessionId reason : String)
  (r : Registry Time)

theorem getActive_registry (id : Option String) :
    (getActive now workspaceId deviceSessionId id r).2 = cleaned now r := by
  simp only [getActive]
  split
  · split
    · rfl
    · rfl
  · rfl

theorem getReceiverBinding_registry :
    (getReceiverBinding now workspaceId deviceSessionId mediaSessionId r).2 = cleaned now r := by
  have hactive := getActive_registry now workspaceId deviceSessionId r (some mediaSessionId)
  rw [getReceiverBinding]
  split
  · rename_i h
    rw [← hactive, h]
  · rename_i h
    split
    · rw [← hactive, h]
    · rw [← hactive, h]

/-- `stop` answers with the session that `get_active` finds, and then removes what is stored
under the id that it was given. -/
theorem stop_cases (now : ℕ → Time) :
    (∃ e, stop now workspaceId deviceSessionId mediaSessionId reason r =
        (.error e, cleaned (now 0) r) ∧
      (getActive (now 0) workspaceId deviceSessionId (some mediaSessionId) r).1 = .error e) ∨
    ∃ descriptor,
      (getActive (now 0) workspaceId deviceSessionId (some mediaSessionId) r).1 = .ok descriptor ∧
      stop now workspaceId deviceSessionId mediaSessionId reason r =
        (.ok { descriptor with
            state := .stopped
            terminalReason := some reason
            updatedAtEpoch := now 1 },
          release mediaSessionId (workspaceId, deviceSessionId) (cleaned (now 0) r)) := by
  have hactive := getActive_registry (now 0) workspaceId deviceSessionId r (some mediaSessionId)
  rw [stop]
  split
  · rename_i e r' h
    rw [h] at hactive ⊢
    obtain rfl : r' = cleaned (now 0) r := hactive
    exact .inl ⟨e, rfl, rfl⟩
  · rename_i descriptor r' h
    rw [h] at hactive ⊢
    obtain rfl : r' = cleaned (now 0) r := hactive
    exact .inr ⟨descriptor, rfl, rfl⟩

omit [LinearOrder Time] in
theorem markReceiverStarted_cases :
    markReceiverStarted mediaSessionId r = (.error bindingNotFound, r) ∨
      (r.receiverBindings.get mediaSessionId).isSome ∧
        markReceiverStarted mediaSessionId r =
          (.ok (), { r with startedReceivers := insert mediaSessionId r.startedReceivers }) := by
  rw [markReceiverStarted]
  split
  · rename_i h
    exact .inr ⟨by rw [h]; rfl, rfl⟩
  · exact .inl rfl

omit [LinearOrder Time] in
theorem updateReceiverState_cases (state : LiveMediaReceiverStateName) (text : Option String) :
    updateReceiverState now mediaSessionId state text r = (.error sessionNotFound, r) ∨
      ∃ descriptor, r.sessions.get mediaSessionId = some descriptor ∧
        updateReceiverState now mediaSessionId state text r =
          (.ok (projected now state text descriptor),
            { r with
              sessions :=
                r.sessions.set mediaSessionId (projected now state text descriptor) }) := by
  rw [updateReceiverState]
  split
  · rename_i descriptor h
    exact .inr ⟨descriptor, h, rfl⟩
  · exact .inl rfl

section Create

variable [Add Time] (config : LiveMediaConfig Time) (clock : ℕ → Time)
  (request : CreateLiveMediaSessionRequest) (draw : Draw)

/-- The registry after both purges of `create`. -/
abbrev purged (clock : ℕ → Time) (r : Registry Time) : Registry Time :=
  cleaned (clock 1) (cleaned (clock 0) r)

/-- `create` finds the session of the device session, is refused, or stores a new session in a
workspace that has room for it. -/
theorem create_cases :
    (∃ existing,
      existingSession (workspaceId, deviceSessionId) (cleaned (clock 0) r) = some existing ∧
      create config clock workspaceId deviceSessionId request draw r =
        (if sameContract existing request then .ok existing
          else .error ⟨"live_media_session_contract_conflict", 409⟩, cleaned (clock 0) r)) ∨
    existingSession (workspaceId, deviceSessionId) (cleaned (clock 0) r) = none ∧
      (3 ≤ (workspaceSessions workspaceId (purged clock r)).length ∧
          create config clock workspaceId deviceSessionId request draw r =
            (.error ⟨"active_live_media_session_limit_reached", 409⟩, purged clock r) ∨
        (workspaceSessions workspaceId (purged clock r)).length < 3 ∧
          ((request.analysisReserved && (workspaceSessions workspaceId (purged clock r)).any
                (·.analysisReserved)) = true ∧
              create config clock workspaceId deviceSessionId request draw r =
                (.error ⟨"workspace_analysis_session_already_reserved", 409⟩, purged clock r) ∨
            (request.analysisReserved && (workspaceSessions workspaceId (purged clock r)).any
                (·.analysisReserved)) = false ∧
              create config clock workspaceId deviceSessionId request draw r =
                (.ok (newDescriptor config (clock 2) workspaceId deviceSessionId request draw),
                  store (newDescriptor config (clock 2) workspaceId deviceSessionId request draw)
                    (newBinding draw) (purged clock r)))) := by
  simp only [create]
  split
  · rename_i existing h
    refine .inl ⟨existing, h, ?_⟩
    split
    · rfl
    · rfl
  · rename_i h
    refine .inr ⟨h, ?_⟩
    split
    · rename_i hlimit
      exact .inl ⟨hlimit, rfl⟩
    · rename_i hlimit
      refine .inr ⟨Nat.lt_of_not_le hlimit, ?_⟩
      split
      · rename_i hreserved
        exact .inl ⟨hreserved, rfl⟩
      · rename_i hreserved
        exact .inr ⟨Bool.eq_false_of_not_eq_true hreserved, rfl⟩

end Create

end MindscapeLocalCore.MediaTransport.LiveMediaSessionRegistry
