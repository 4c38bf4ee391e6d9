import MindscapeLocalCore.DeviceBinding.BindingRuns
import MindscapeLocalCore.MediaTransport.CreateRoute
import MindscapeLocalCore.MediaTransport.RegistryRuns
/-!
Runs of the routes over both registries: what a device session records of its media session,
and what the media registry has of it.
-/

namespace MindscapeLocalCore.MediaTransport.RouteRuns

open Library Library.OrderedDict LiveMediaContracts LiveMediaRoutes CreateRoute

variable {Time : Type}

inductive MediaCall where
  | getActive (workspaceId deviceSessionId : String) (mediaSessionId : Option String)
  | getReceiverBinding (workspaceId deviceSessionId mediaSessionId : String)
  | markReceiverStarted (mediaSessionId : String)
  | updateReceiverState (mediaSessionId : String) (state : LiveMediaReceiverStateName)
      (reason : Option String)
  | listActive (workspaceId : String)
  | cleanupExpired

def MediaCall.event (now : ℕ → Time) : MediaCall → RegistryRuns.Event Time
  | getActive workspaceId deviceSessionId mediaSessionId =>
      .getActive (now 0) workspaceId deviceSessionId mediaSessionId
  | getReceiverBinding workspaceId deviceSessionId mediaSessionId =>
      .getReceiverBinding (now 0) workspaceId deviceSessionId mediaSessionId
  | markReceiverStarted mediaSessionId => .markReceiverStarted mediaSessionId
  | updateReceiverState mediaSessionId state reason =>
      .updateReceiverState (now 0) mediaSessionId state reason
  | listActive workspaceId => .listActive (now 0) workspaceId
  | cleanupExpired => .cleanupExpired (now 0)

/-- The calls of the device registry that change which media session a device records. -/
def attaches : DeviceBinding.BindingRuns.Call Time → Bool
  | .attachLiveMediaSession _ _ _ _ _ => true
  | .detachLiveMediaSession _ _ _ => true
  | _ => false

/-- A step of a route. An id that comes from a path is not empty, and a session is revoked or
closed under the id of a media session only where the device recorded one. -/
inductive Event (Time : Type) where
  | device (event : DeviceBinding.BindingRuns.Event Time) (h : attaches event.call = false)
  | media (now : ℕ → Time) (call : MediaCall)
  | create (call : CreateCall Time)
  | stop (now : ℕ → Time) (workspaceId deviceSessionId mediaSessionId : String)
      (h : mediaSessionId ≠ "")
  | revoke (now : ℕ → Time) (workspaceId deviceSessionId mediaSessionId : String)
      (h : mediaSessionId ≠ "")
  | close (now : ℕ → Time) (workspaceId deviceSessionId mediaSessionId reason : String)
      (h : mediaSessionId ≠ "")

def Event.now : Event Time → ℕ → Time
  | .device event _ => event.now
  | .media now _ => now
  | .create call => call.now
  | .stop now _ _ _ _ => now
  | .revoke now _ _ _ _ => now
  | .close now _ _ _ _ _ => now

def Event.newId : Event Time → Option (String ⊕ String)
  | .device event _ => event.newId.map .inl
  | .create call => some (.inr call.draw.mediaSessionId)
  | _ => none

section

variable [LinearOrder Time] [Add Time] [IntCast Time] (config : LiveMediaConfig Time)

def next (s : State Time) : Event Time → State Time
  | .device event _ => ⟨DeviceBinding.BindingRuns.next s.devices event, s.media⟩
  | .media now call => ⟨s.devices, RegistryRuns.next config s.media (call.event now)⟩
  | .create call => (createLiveMediaSession config call s).2
  | .stop now workspaceId deviceSessionId mediaSessionId _ =>
      (stopLiveMediaSession now workspaceId deviceSessionId mediaSessionId s).2
  | .revoke now workspaceId deviceSessionId mediaSessionId _ =>
      revokeDeviceBindingSession now workspaceId deviceSessionId mediaSessionId s
  | .close now workspaceId deviceSessionId mediaSessionId reason _ =>
      closeDeviceBindingSession now workspaceId deviceSessionId mediaSessionId reason s

end

def Clocked [Preorder Time] (events : List (Event Time)) : Prop :=
  (∀ event ∈ events, Monotone event.now) ∧
    events.Pairwise fun event later => ∀ i j, event.now i ≤ later.now j

def Holds (s : State Time) : String ⊕ String → Prop
  | .inl id => DeviceBinding.BindingRuns.Stored s.devices id
  | .inr id => RegistryRuns.Stored s.media id

structure Good (s : State Time) : Prop where
  devices : DeviceBinding.BindingInvariants.Kept s.devices
  media : RegistryCoherence.Kept s.media
  aligned : RegistryCoherence.Aligned s.media

section

variable [LinearOrder Time] [Add Time] [IntCast Time] (config : LiveMediaConfig Time)
  (s : State Time)

/-! ### The calls of a route -/

theorem deviceCalls_of_create (call : CreateCall Time) :
    ∃ calls, (createLiveMediaSession config call s).2.devices =
        Trace.stateAfter DeviceBinding.BindingRuns.next s.devices calls ∧
      calls.filterMap DeviceBinding.BindingRuns.Event.newId = [] := by
  rw [createLiveMediaSession]
  split
  · rename_i devices hactive
    exact ⟨[⟨call.now, .getActiveSession call.workspaceId call.deviceSessionId⟩],
      (congrArg Prod.snd hactive).symm, rfl⟩
  · rename_i entry devices hactive
    have hfound : devices = DeviceBinding.BindingRuns.next s.devices
        ⟨call.now, .getActiveSession call.workspaceId call.deviceSessionId⟩ :=
      (congrArg Prod.snd hactive).symm
    split
    · exact ⟨[⟨call.now, .getActiveSession call.workspaceId call.deviceSessionId⟩], hfound, rfl⟩
    · rename_i access media hservice
      have hattach : ∀ devices', (DeviceBinding.DeviceBindingRegistry.attachLiveMediaSession
          (fun i => call.now (4 + i)) call.workspaceId call.deviceSessionId
          access.session.mediaSessionId access.session.state.text access.session.expiresAtEpoch
          devices).2 = devices' →
          devices' = Trace.stateAfter DeviceBinding.BindingRuns.next s.devices
            [⟨call.now, .getActiveSession call.workspaceId call.deviceSessionId⟩,
              ⟨fun i => call.now (4 + i), .attachLiveMediaSession call.workspaceId
                call.deviceSessionId access.session.mediaSessionId access.session.state.text
                access.session.expiresAtEpoch⟩] := by
        rintro devices' rfl
        rw [hfound]
        rfl
      split
      · rename_i heq
        refine ⟨_, hattach _ (congrArg Prod.snd heq), rfl⟩
      · rename_i devices' heq
        refine ⟨[⟨call.now, .getActiveSession call.workspaceId call.deviceSessionId⟩,
          ⟨fun i => call.now (4 + i), .attachLiveMediaSession call.workspaceId
            call.deviceSessionId access.session.mediaSessionId access.session.state.text
            access.session.expiresAtEpoch⟩] ++
          [⟨fun i => call.now (6 + i), .listActiveSessions call.workspaceId⟩], ?_, rfl⟩
        rw [Trace.stateAfter_append_singleton, ← hattach _ (congrArg Prod.snd heq)]
        split
        · rfl
        · rfl

theorem deviceCalls_of_next (event : Event Time) :
    ∃ calls, (next config s event).devices =
        Trace.stateAfter DeviceBinding.BindingRuns.next s.devices calls ∧
      (calls.filterMap DeviceBinding.BindingRuns.Event.newId = [] ∨
        ∃ call, calls = [call] ∧ ∀ id, call.newId = some id → event.newId = some (.inl id)) := by
  cases event with
  | device event h =>
      refine ⟨[event], rfl, .inr ⟨event, rfl, fun id hid => ?_⟩⟩
      rw [Event.newId, hid]
      rfl
  | media now call => exact ⟨[], rfl, .inl rfl⟩
  | create call =>
      obtain ⟨calls, hcalls, hids⟩ := deviceCalls_of_create config s call
      exact ⟨calls, hcalls, .inl hids⟩
  | stop now workspaceId deviceSessionId mediaSessionId h =>
      simp only [next, stopLiveMediaSession]
      split
      · exact ⟨[], rfl, .inl rfl⟩
      · refine ⟨[⟨fun i => now (2 + i),
          .detachLiveMediaSession workspaceId deviceSessionId mediaSessionId⟩], ?_, .inl rfl⟩
        split
        · rename_i heq
          exact (congrArg Prod.snd heq).symm
        · rename_i heq
          exact (congrArg Prod.snd heq).symm
  | revoke now workspaceId deviceSessionId mediaSessionId h =>
      exact ⟨[⟨fun i => now (2 + i),
        .revokeSession workspaceId deviceSessionId "revoked_by_workspace"⟩], rfl, .inl rfl⟩
  | close now workspaceId deviceSessionId mediaSessionId reason h =>
      exact ⟨[⟨fun i => now (2 + i), .closeSession deviceSessionId reason⟩], rfl, .inl rfl⟩

theorem mediaCall_of_next (event : Event Time) :
    (next config s event).media = s.media ∨
      ∃ call, (next config s event).media = RegistryRuns.next config s.media call ∧
        RegistryRuns.StopsNamed s.media call ∧
        ∀ id, call.newId = some id → event.newId = some (.inr id) := by
  cases event with
  | device event h => exact .inl rfl
  | media now call =>
      refine .inr ⟨call.event now, rfl, ?_⟩
      cases call with
      | _ => exact ⟨trivial, fun id h => by cases h⟩
  | create call =>
      show (createLiveMediaSession config call s).2.media = _ ∨
        ∃ c, (createLiveMediaSession config call s).2.media = _ ∧ _
      rcases DeviceBinding.DeviceBindingRegistry.getActiveSession_cases (call.now 0)
        call.workspaceId call.deviceSessionId s.devices with hactive | ⟨entry, -, -, -, hactive⟩
      · rw [createLiveMediaSession, hactive]
        exact .inl rfl
      · rw [media_createLiveMediaSession config hactive]
        by_cases hsource : sourceType call.request.sourceKind ∈ entry.sourceTypes
        · rw [media_serviceCreate config hsource]
          exact .inr ⟨.create (fun i => call.now (1 + i)) entry.workspaceId entry.sessionId
            call.request call.draw, rfl, trivial, fun id hid => congrArg (Option.map Sum.inr) hid⟩
        · rw [serviceCreate, if_pos hsource]
          exact .inl rfl
  | stop now workspaceId deviceSessionId mediaSessionId h =>
      refine .inr ⟨.stop now workspaceId deviceSessionId mediaSessionId "stopped_by_client", ?_,
        fun hempty => absurd hempty h, fun id hid => by cases hid⟩
      simp only [next, stopLiveMediaSession, RegistryRuns.next]
      split
      · rename_i heq
        rw [heq]
      · rename_i heq
        rw [heq]
        split
        · rfl
        · rfl
  | revoke now workspaceId deviceSessionId mediaSessionId h =>
      exact .inr ⟨.stop now workspaceId deviceSessionId mediaSessionId "revoked_by_workspace", rfl,
        fun hempty => absurd hempty h, fun id hid => by cases hid⟩
  | close now workspaceId deviceSessionId mediaSessionId reason h =>
      exact .inr ⟨.stop now workspaceId deviceSessionId mediaSessionId reason, rfl,
        fun hempty => absurd hempty h, fun id hid => by cases hid⟩

/-! ### Runs -/

theorem kept_devices {event : Event Time} (h : DeviceBinding.BindingInvariants.Kept s.devices)
    (hfresh : ∀ id, event.newId = some (.inl id) → ¬ DeviceBinding.BindingRuns.Stored s.devices id) :
    DeviceBinding.BindingInvariants.Kept (next config s event).devices := by
  obtain ⟨calls, hcalls, hnone | ⟨call, rfl, hid⟩⟩ := deviceCalls_of_next config s event
  · rw [hcalls]
    refine (FreshIds.invariant_and_stored DeviceBinding.BindingRuns.drawsIds h ?_ ?_).1
    · rw [hnone]
      exact fun id hid => absurd hid List.not_mem_nil
    · rw [hnone]
      exact List.nodup_nil
  · rw [hcalls]
    exact DeviceBinding.BindingRuns.drawsIds.keeps s.devices call h fun id hdrawn =>
      hfresh id (hid id hdrawn)

theorem stored_devices {event : Event Time} {id : String}
    (h : DeviceBinding.BindingInvariants.Kept s.devices)
    (hstored : DeviceBinding.BindingRuns.Stored (next config s event).devices id) :
    DeviceBinding.BindingRuns.Stored s.devices id ∨ event.newId = some (.inl id) := by
  obtain ⟨calls, hcalls, hnone | ⟨call, rfl, hid⟩⟩ := deviceCalls_of_next config s event
  · rw [hcalls] at hstored
    have hunused : ∀ id ∈ calls.filterMap DeviceBinding.BindingRuns.Event.newId,
        ¬ DeviceBinding.BindingRuns.Stored s.devices id := by
      rw [hnone]
      exact fun id hid => absurd hid List.not_mem_nil
    have hnodup : (calls.filterMap DeviceBinding.BindingRuns.Event.newId).Nodup := by
      rw [hnone]
      exact List.nodup_nil
    have hold := (FreshIds.invariant_and_stored DeviceBinding.BindingRuns.drawsIds h hunused
      hnodup).2 id hstored
    rw [hnone] at hold
    exact .inl (hold.resolve_right List.not_mem_nil)
  · rw [hcalls] at hstored
    exact (DeviceBinding.BindingRuns.drawsIds.stores s.devices call id h hstored).imp_right (hid id)

theorem drawsIds : FreshIds.DrawsIds (next config) Holds Event.newId Good where
  keeps s event h hfresh := by
    have hdevices : DeviceBinding.BindingInvariants.Kept (next config s event).devices :=
      kept_devices config s h.devices fun id hid => hfresh (.inl id) hid
    rcases mediaCall_of_next config s event with hsame | ⟨call, hcall, hnamed, hid⟩
    · exact ⟨hdevices, hsame ▸ h.media, hsame ▸ h.aligned⟩
    · have hunused : ∀ id, call.newId = some id → ¬ RegistryRuns.Stored s.media id :=
        fun id hdrawn => hfresh (.inr id) (hid id hdrawn)
      refine ⟨hdevices, ?_, ?_⟩
      · rw [hcall]
        exact (RegistryRuns.drawsIds config).keeps s.media call h.media hunused
      · rw [hcall]
        refine (RegistryRuns.aligned_next_iff h.media h.aligned ?_).mpr hnamed
        exact RegistryRuns.drawsFresh_of_newId hunused
  stores s event id h hstored := by
    cases id with
    | inl id => exact stored_devices config s h.devices hstored
    | inr id =>
        rw [Holds] at hstored ⊢
        rcases mediaCall_of_next config s event with hsame | ⟨call, hcall, -, hid⟩
        · rw [hsame] at hstored
          exact .inl hstored
        · rw [hcall] at hstored
          exact ((RegistryRuns.drawsIds config).stores s.media call id h.media hstored).imp_right
            (hid id)

omit [LinearOrder Time] [Add Time] [IntCast Time] in
theorem good_empty : Good (.empty : State Time) :=
  ⟨DeviceBinding.BindingInvariants.kept_empty, RegistryCoherence.kept_empty,
    RegistryCoherence.aligned_empty⟩

omit [LinearOrder Time] [Add Time] [IntCast Time] in
theorem holds_empty (id : String ⊕ String) : ¬ Holds (.empty : State Time) id := by
  cases id with
  | inl id => exact DeviceBinding.BindingRuns.not_stored_empty id
  | inr id => exact RegistryRuns.not_stored_empty id

abbrev stateAfter (events : List (Event Time)) : State Time :=
  Trace.stateAfter (next config) .empty events

/-- In a run whose clock does not go back within a step and that draws no id twice, a create call
serves a device that is ready for media, and leaves no new media session where it answers with an
error, exactly where it does not come to store a media session or nothing stands in the way. -/
theorem getsMedia_iff_undisturbed (events : List (Event Time)) (hclock : Clocked events)
    (hdraws : (events.filterMap Event.newId).Nodup) (before : List (Event Time))
    (call : CreateCall Time) (rest : List (Event Time))
    (hsplit : events = before ++ .create call :: rest) :
    ((Ready (stateAfter config before) call → GetsMedia config (stateAfter config before) call) ∧
        LeavesNothing config (stateAfter config before) call) ↔
      (Stores (stateAfter config before) call → Undisturbed (stateAfter config before) call) := by
  subst hsplit
  have hgood : Good (stateAfter config before) :=
    (FreshIds.invariant_and_drawn (drawsIds config) good_empty holds_empty
      (FreshIds.nodup_before hdraws)).1
  have hfresh : ¬ Holds (stateAfter config before) (.inr call.draw.mediaSessionId) :=
    FreshIds.not_stored_of_drawn (drawsIds config) good_empty holds_empty hdraws rfl
  exact getsMedia_and_leavesNothing_iff config hgood.aligned hgood.devices
    (hclock.1 _ (List.mem_append_right _ List.mem_cons_self)) hfresh

end

section Sample

/-- Epochs in seconds; a media session lives for a minute. -/
def sampleConfig : LiveMediaConfig ℤ where
  publicWebrtcOrigin := "https://relay"
  publicRtmpsOrigin := "rtmps://relay"
  receiverRtspsOrigin := "rtsps://relay"
  sessionTtlSeconds := 60

def sampleCall (now : ℤ) (mediaSession : String) : CreateCall ℤ where
  now := fun _ => now
  workspaceId := "w"
  deviceSessionId := "device_session_1"
  request := ⟨.phoneCamera, .publicRelay, [.video], false⟩
  draw := ⟨mediaSession, "s", "r", "a"⟩
  tokens := .ok ⟨"publish", "preview"⟩
  announced := true

theorem clocked_of_times {events : List (Event ℤ)} (times : List ℤ)
    (h : events.map Event.now = times.map fun time _ => time)
    (hordered : times.Pairwise (· ≤ ·)) : Clocked events := by
  constructor
  · intro event hevent
    have hnow := List.mem_map_of_mem (f := Event.now) hevent
    rw [h] at hnow
    obtain ⟨time, -, hconst⟩ := List.mem_map.mp hnow
    rw [← hconst]
    exact monotone_const
  · have hnow : (events.map Event.now).Pairwise fun now later => ∀ i j, now i ≤ later j := by
      rw [h]
      exact List.pairwise_map.mpr (hordered.imp fun hle _ _ => hle)
    exact List.pairwise_map.mp hnow

def connected : List (Event ℤ) :=
  [.device ⟨fun _ => 0, .createPairingCode "w" none ["AAAAAAAA"]⟩ rfl,
    .device ⟨fun _ => 1, .connectSourceDevice "w" "AAAAAAAA"
      ⟨some "phone", none, [.phoneCamera], []⟩ 1 ⟨"1", "d"⟩⟩ rfl]

/-- It gets a media session, and is still alive when this expires. -/
def outlived : List (Event ℤ) :=
  connected ++ [.create (sampleCall 2 "1"),
    .device ⟨fun _ => 61, .refreshSession "device_session_1"⟩ rfl]

/-- The device that outlived its media session is refused a new one, which stays stored. -/
theorem outlived_gets_none : Clocked (outlived ++ [Event.create (sampleCall 63 "2")]) ∧
    ((outlived ++ [Event.create (sampleCall 63 "2")]).filterMap Event.newId).Nodup ∧
    Ready (stateAfter sampleConfig outlived) (sampleCall 63 "2") ∧
      ¬ GetsMedia sampleConfig (stateAfter sampleConfig outlived) (sampleCall 63 "2") ∧
      ¬ LeavesNothing sampleConfig (stateAfter sampleConfig outlived) (sampleCall 63 "2") := by
  have hanswer : (createLiveMediaSession sampleConfig (sampleCall 63 "2")
      (stateAfter sampleConfig outlived)).1 = .error ⟨409, "device_media_session_conflict"⟩ := by
    decide +kernel
  refine ⟨clocked_of_times [0, 1, 2, 61, 63] rfl (by decide), by decide, ?_, ?_,
    fun hnothing => ?_⟩
  · have hdevice : ((stateAfter sampleConfig outlived).devices.sessions.get "device_session_1").any
        (fun entry => decide (entry.workspaceId = "w" ∧
          entry.state ∉ DeviceBinding.DeviceBindingRegistry.terminalStates ∧
          63 < entry.expiresAtEpoch ∧
          DeviceBinding.DeviceBindingContracts.DeviceSourceType.phoneCamera ∈
            entry.sourceTypes)) = true := by
      decide +kernel
    obtain ⟨entry, hget, htest⟩ := (Option.any_eq_true _ _).mp hdevice
    obtain ⟨hworkspace, hlisted, hlive, hsource⟩ := of_decide_eq_true htest
    refine ⟨entry, hget, hworkspace, hlisted, fun _ => hlive, hsource, ?_, by decide +kernel, ?_⟩
    · intro id descriptor hstored hunexpired
      have hexpired : ∀ d ∈ (stateAfter sampleConfig outlived).media.sessions.values,
          d.expiresAtEpoch ≤ 63 := by decide +kernel
      have hmem := OrderedDict.mem_values_iff.mpr ⟨id, hstored⟩
      exact absurd (hexpired descriptor hmem) (not_le_of_gt hunexpired)
    · exact fun hreserved => by cases hreserved
  · rintro ⟨access, -, hok, -⟩
    rw [hanswer] at hok
    cases hok
  · have hleft : Stored (createLiveMediaSession sampleConfig (sampleCall 63 "2")
        (stateAfter sampleConfig outlived)).2 "lms_2" := by
      rw [Stored]
      decide +kernel
    have hstored : Stored (stateAfter sampleConfig outlived) "lms_2" :=
      hnothing ⟨_, hanswer⟩ "lms_2" hleft
    rw [Stored] at hstored
    exact absurd hstored (by decide +kernel)

/-- A device that has just connected gets its media session, or nothing is left behind. -/
theorem getsMedia_connected :
    (Ready (stateAfter sampleConfig connected) (sampleCall 2 "1") →
        GetsMedia sampleConfig (stateAfter sampleConfig connected) (sampleCall 2 "1")) ∧
      LeavesNothing sampleConfig (stateAfter sampleConfig connected) (sampleCall 2 "1") := by
  have hiff := getsMedia_iff_undisturbed sampleConfig (connected ++ [.create (sampleCall 2 "1")])
    (clocked_of_times [0, 1, 2] rfl (by decide)) (by decide) connected (sampleCall 2 "1") [] rfl
  refine hiff.mpr fun _ => ⟨⟨_, rfl⟩, rfl, fun entry hget => ?_⟩
  have hall : ((stateAfter sampleConfig connected).devices.sessions.get "device_session_1").all
      (fun entry => decide (2 < entry.expiresAtEpoch ∧
        DeviceBinding.DeviceBindingRegistry.ownsOther "lms_1" entry = false)) = true := by
    decide +kernel
  exact of_decide_eq_true ((Option.all_eq_true _ _).mp hall entry hget)

end Sample

end MindscapeLocalCore.MediaTransport.RouteRuns
