import MindscapeLocalCore.DeviceBinding.DeviceBindingRegistry
import MindscapeLocalCore.MediaTransport.LiveMediaSessionRegistry
/-!
The routes that lead from a bound device to its live media session, over the registry of the
devices and the registry of the media sessions. What a route does between two of its awaits is
one step; the readings of the clock that it makes there are numbered from `now 0`.
-/

namespace MindscapeLocalCore.MediaTransport.LiveMediaRoutes

open LiveMediaContracts DeviceBinding.DeviceBindingContracts

variable {Time : Type} [LinearOrder Time]

structure LiveMediaSessionTokens where
  publish : String
  preview : String
deriving DecidableEq

structure LiveMediaSessionAccess (Time : Type) where
  session : LiveMediaSessionDescriptor Time
  tokens : LiveMediaSessionTokens
deriving DecidableEq

/-- `HTTPException` -/
structure RouteError where
  statusCode : ℕ
  detail : String
deriving DecidableEq

structure State (Time : Type) where
  devices : DeviceBinding.DeviceBindingRegistry.Registry Time
  media : LiveMediaSessionRegistry.Registry Time

def State.empty : State Time := ⟨.empty, .empty⟩

def sourceType : MediaSourceKind → DeviceSourceType
  | .phoneCamera => .phoneCamera
  | .desktopCamera => .desktopCamera
  | .usbCamera => .usbCamera
  | .virtualCamera => .virtualCamera
  | .externalProviderCamera => .externalProviderCamera

/-- A call of the create route, with what `issue_session_tokens` gives and whether the snapshot
goes out to the observers without an error. -/
structure CreateCall (Time : Type) where
  now : ℕ → Time
  workspaceId : String
  deviceSessionId : String
  request : CreateLiveMediaSessionRequest
  draw : LiveMediaContracts.Draw
  tokens : Except String LiveMediaSessionTokens
  announced : Bool

/-- `LiveMediaSessionService.create` -/
def serviceCreate [Add Time] (config : LiveMediaConfig Time) (now : ℕ → Time)
    (entry : DeviceSessionEntry Time) (call : CreateCall Time)
    (media : LiveMediaSessionRegistry.Registry Time) :
    Except RouteError (LiveMediaSessionAccess Time) × LiveMediaSessionRegistry.Registry Time :=
  if sourceType call.request.sourceKind ∉ entry.sourceTypes then
    (.error ⟨409, "live_media_source_kind_not_declared"⟩, media)
  else
    match LiveMediaSessionRegistry.create config now entry.workspaceId entry.sessionId call.request
        call.draw media with
    | (.error e, media) => (.error ⟨e.statusCode, e.reason⟩, media)
    | (.ok descriptor, media) =>
        match call.tokens with
        | .error text => (.error ⟨503, text⟩, media)
        | .ok tokens => (.ok ⟨descriptor, tokens⟩, media)

def createLiveMediaSession [Add Time] (config : LiveMediaConfig Time) (call : CreateCall Time)
    (s : State Time) : Except RouteError (LiveMediaSessionAccess Time) × State Time :=
  match DeviceBinding.DeviceBindingRegistry.getActiveSession (call.now 0) call.workspaceId
      call.deviceSessionId s.devices with
  | (none, devices) => (.error ⟨404, "unknown_device_session"⟩, ⟨devices, s.media⟩)
  | (some entry, devices) =>
      match serviceCreate config (fun i => call.now (1 + i)) entry call s.media with
      | (.error e, media) => (.error e, ⟨devices, media⟩)
      | (.ok access, media) =>
          match DeviceBinding.DeviceBindingRegistry.attachLiveMediaSession
              (fun i => call.now (4 + i)) call.workspaceId call.deviceSessionId
              access.session.mediaSessionId access.session.state.text access.session.expiresAtEpoch
              devices with
          | (.error e, devices) => (.error ⟨e.statusCode, e.reason⟩, ⟨devices, media⟩)
          | (.ok _, devices) =>
              let listed := (DeviceBinding.DeviceBindingRegistry.listActiveSessions (call.now 6)
                call.workspaceId devices).2
              if call.announced then (.ok access, ⟨listed, media⟩)
              else (.error ⟨500, "Internal Server Error"⟩, ⟨listed, media⟩)

/-- `stop_live_media_session`, once no receiver runs any more. -/
def stopLiveMediaSession (now : ℕ → Time) (workspaceId deviceSessionId mediaSessionId : String)
    (s : State Time) : Except RouteError (LiveMediaSessionDescriptor Time) × State Time :=
  match LiveMediaSessionRegistry.stop now workspaceId deviceSessionId mediaSessionId
      "stopped_by_client" s.media with
  | (.error e, media) => (.error ⟨e.statusCode, e.reason⟩, ⟨s.devices, media⟩)
  | (.ok descriptor, media) =>
      match DeviceBinding.DeviceBindingRegistry.detachLiveMediaSession (fun i => now (2 + i))
          workspaceId deviceSessionId mediaSessionId s.devices with
      | (.error e, devices) => (.error ⟨e.statusCode, e.reason⟩, ⟨devices, media⟩)
      | (.ok _, devices) => (.ok descriptor, ⟨devices, media⟩)

/-- `_stop_attached_live_media_session`, once no receiver runs any more: that there is no such
media session is no error. -/
def stopAttached (now : ℕ → Time) (workspaceId deviceSessionId mediaSessionId reason : String)
    (s : State Time) : State Time :=
  ⟨s.devices, (LiveMediaSessionRegistry.stop now workspaceId deviceSessionId mediaSessionId reason
    s.media).2⟩

/-- `revoke_device_binding_session`, after the attached media session was stopped. -/
def revokeDeviceBindingSession (now : ℕ → Time)
    (workspaceId deviceSessionId mediaSessionId : String) (s : State Time) : State Time :=
  let s := stopAttached now workspaceId deviceSessionId mediaSessionId "revoked_by_workspace" s
  ⟨(DeviceBinding.DeviceBindingRegistry.revokeSession (now 2) workspaceId deviceSessionId
    "revoked_by_workspace" s.devices).2, s.media⟩

/-- The end of `control_device_binding_session`, after the attached media session was stopped. -/
def closeDeviceBindingSession (now : ℕ → Time)
    (workspaceId deviceSessionId mediaSessionId reason : String) (s : State Time) : State Time :=
  let s := stopAttached now workspaceId deviceSessionId mediaSessionId reason s
  ⟨(DeviceBinding.DeviceBindingRegistry.closeSession (now 2) deviceSessionId reason s.devices).2,
    s.media⟩

end MindscapeLocalCore.MediaTransport.LiveMediaRoutes
