import MindscapeLocalCore.DeviceBinding.BindingInvariants
import MindscapeLocalCore.MediaTransport.LiveMediaRoutes
import MindscapeLocalCore.MediaTransport.RegistryCoherence
/-!
One call of the create route: when a device that is ready for media gets it, and when a call
that answers with an error leaves a media session behind.
-/

namespace MindscapeLocalCore.MediaTransport.CreateRoute

open Library.OrderedDict LiveMediaContracts LiveMediaRoutes

variable {Time : Type} [LinearOrder Time]

/-- The device session is active during the call and declares the source, the media registry
has no unexpired session for it, and its workspace has room for one. -/
def Ready (s : State Time) (call : CreateCall Time) : Prop :=
  ∃ entry, s.devices.sessions.get call.deviceSessionId = some entry ∧
    entry.workspaceId = call.workspaceId ∧
    entry.state ∉ DeviceBinding.DeviceBindingRegistry.terminalStates ∧
    (∀ i, call.now i < entry.expiresAtEpoch) ∧
    sourceType call.request.sourceKind ∈ entry.sourceTypes ∧
    (∀ id descriptor, s.media.sessions.get id = some descriptor →
      call.now 0 < descriptor.expiresAtEpoch →
        LiveMediaSessionRegistry.deviceKey descriptor ≠
          (call.workspaceId, call.deviceSessionId)) ∧
    s.media.sessions.count (RegistryCoherence.unexpired (call.now 0) call.workspaceId) < 3 ∧
    (call.request.analysisReserved = true →
      s.media.sessions.count (fun d =>
        RegistryCoherence.unexpired (call.now 0) call.workspaceId d && d.analysisReserved) = 0)

abbrev purgedMedia (s : State Time) (call : CreateCall Time) :
    LiveMediaSessionRegistry.Registry Time :=
  LiveMediaSessionRegistry.purged (fun i => call.now (1 + i)) s.media

def Stores (s : State Time) (call : CreateCall Time) : Prop :=
  ∃ entry,
    (DeviceBinding.DeviceBindingRegistry.getActiveSession (call.now 0) call.workspaceId
      call.deviceSessionId s.devices).1 = some entry ∧
    sourceType call.request.sourceKind ∈ entry.sourceTypes ∧
    LiveMediaSessionRegistry.existingSession (call.workspaceId, call.deviceSessionId)
      (LiveMediaSessionRegistry.cleaned (call.now 1) s.media) = none ∧
    (LiveMediaSessionRegistry.workspaceSessions call.workspaceId (purgedMedia s call)).length < 3 ∧
    (call.request.analysisReserved &&
      (LiveMediaSessionRegistry.workspaceSessions call.workspaceId (purgedMedia s call)).any
        (·.analysisReserved)) = false

/-- Nothing after the new media session is stored stands in the way: its tokens are issued, the
device session is still active and records no other media session, and the snapshot goes out. -/
def Undisturbed (s : State Time) (call : CreateCall Time) : Prop :=
  (∃ tokens, call.tokens = .ok tokens) ∧ call.announced = true ∧
    ∀ entry, s.devices.sessions.get call.deviceSessionId = some entry →
      call.now 4 < entry.expiresAtEpoch ∧
        DeviceBinding.DeviceBindingRegistry.ownsOther call.draw.mediaSessionId entry = false

def Stored (s : State Time) (id : String) : Prop := (s.media.sessions.get id).isSome

section

variable [Add Time] (config : LiveMediaConfig Time)

def GetsMedia (s : State Time) (call : CreateCall Time) : Prop :=
  ∃ access entry, (createLiveMediaSession config call s).1 = .ok access ∧
    access.session.mediaSessionId = call.draw.mediaSessionId ∧
    (createLiveMediaSession config call s).2.devices.sessions.get call.deviceSessionId =
      some entry ∧
    entry.mediaSessionId = some access.session.mediaSessionId ∧
    Stored (createLiveMediaSession config call s).2 access.session.mediaSessionId

/-- A call that answers with an error leaves no media session that was not there before. -/
def LeavesNothing (s : State Time) (call : CreateCall Time) : Prop :=
  (∃ e, (createLiveMediaSession config call s).1 = .error e) →
    ∀ id, Stored (createLiveMediaSession config call s).2 id → Stored s id

end

/-! ### Before the media session is stored -/

section

variable {s : State Time} {call : CreateCall Time}

theorem stores_of_ready (haligned : RegistryCoherence.Aligned s.media)
    (hdevices : DeviceBinding.BindingInvariants.Kept s.devices) (hclock : Monotone call.now)
    (h : Ready s call) : Stores s call := by
  obtain ⟨entry, hget, hworkspace, hlisted, hactive, hsource, hnone, hroom, hreserved⟩ := h
  have hfound : (DeviceBinding.DeviceBindingRegistry.cleaned (call.now 0) s.devices).sessions.get
      call.deviceSessionId = some entry :=
    (DeviceBinding.BindingInvariants.get_cleaned hdevices).mpr ⟨hget, hactive 0⟩
  have hcount : ∀ p : LiveMediaSessionRegistry.Descriptor Time → Bool,
      (purgedMedia s call).sessions.count p ≤
        s.media.sessions.count fun d => p d && decide (call.now 0 < d.expiresAtEpoch) := by
    intro p
    refine RegistryCoherence.count_cleaned_le.trans (RegistryCoherence.count_cleaned_le.trans ?_)
    refine RegistryCoherence.count_mono fun d hd => ?_
    obtain ⟨hpd, hlive⟩ := Bool.and_eq_true_iff.mp hd
    refine Bool.and_eq_true_iff.mpr ⟨(Bool.and_eq_true_iff.mp hpd).1, decide_eq_true ?_⟩
    exact (hclock (Nat.zero_le 1)).trans_lt (of_decide_eq_true hlive)
  refine ⟨entry, ?_, hsource, ?_, ?_, ?_⟩
  · rw [DeviceBinding.DeviceBindingRegistry.getActiveSession_of_get hfound hworkspace hlisted]
  · cases hexisting : LiveMediaSessionRegistry.existingSession
        (call.workspaceId, call.deviceSessionId)
        (LiveMediaSessionRegistry.cleaned (call.now 1) s.media) with
    | none => rfl
    | some descriptor =>
        have hcleaned : RegistryCoherence.Aligned
            (LiveMediaSessionRegistry.cleaned (call.now 1) s.media) :=
          RegistryCoherence.aligned_cleaned haligned
        rw [LiveMediaSessionRegistry.existingSession] at hexisting
        split at hexisting
        · rename_i id hdevice
          obtain ⟨d, hd, hkey⟩ := (hcleaned _ _).mp hdevice
          obtain ⟨hstored, hlive⟩ := RegistryCoherence.get_cleaned.mp hd
          exact absurd hkey (hnone id d hstored ((hclock (Nat.zero_le 1)).trans_lt hlive))
        · cases hexisting
  · rw [RegistryCoherence.length_workspaceSessions]
    exact (hcount _).trans_lt hroom
  · by_contra htaken
    obtain ⟨hrequest, hany⟩ := Bool.and_eq_true_iff.mp (Bool.of_not_eq_false htaken)
    have hnoneReserved : (purgedMedia s call).sessions.count
        (RegistryCoherence.reservedIn call.workspaceId) ≤ 0 := by
      refine (hcount _).trans ((RegistryCoherence.count_mono fun d hd => ?_).trans_eq
        (hreserved hrequest))
      obtain ⟨hin, hlive⟩ := Bool.and_eq_true_iff.mp hd
      obtain ⟨hinWorkspace, hdreserved⟩ := Bool.and_eq_true_iff.mp hin
      exact Bool.and_eq_true_iff.mpr ⟨Bool.and_eq_true_iff.mpr ⟨hinWorkspace, hlive⟩, hdreserved⟩
    obtain ⟨d, hd, hdreserved⟩ := List.any_eq_true.mp hany
    obtain ⟨hvalue, hin⟩ := List.mem_filter.mp hd
    refine List.countP_eq_zero.mp (Nat.le_zero.mp hnoneReserved) d hvalue ?_
    exact Bool.and_eq_true_iff.mpr ⟨hin, hdreserved⟩

/-! ### The new media session -/

variable [Add Time] (config : LiveMediaConfig Time)

theorem media_serviceCreate {now : ℕ → Time}
    {entry : DeviceBinding.DeviceBindingContracts.DeviceSessionEntry Time}
    {media : LiveMediaSessionRegistry.Registry Time}
    (h : sourceType call.request.sourceKind ∈ entry.sourceTypes) :
    (serviceCreate config now entry call media).2 =
      (LiveMediaSessionRegistry.create config now entry.workspaceId entry.sessionId call.request
        call.draw media).2 := by
  rw [serviceCreate, if_neg (not_not.mpr h)]
  split
  · rename_i hcreate
    rw [hcreate]
  · rename_i hcreate
    rw [hcreate]
    split
    · rfl
    · rfl

theorem media_createLiveMediaSession
    {entry : DeviceBinding.DeviceBindingContracts.DeviceSessionEntry Time}
    (hactive : DeviceBinding.DeviceBindingRegistry.getActiveSession (call.now 0) call.workspaceId
      call.deviceSessionId s.devices =
        (some entry, DeviceBinding.DeviceBindingRegistry.cleaned (call.now 0) s.devices)) :
    (createLiveMediaSession config call s).2.media =
      (serviceCreate config (fun i => call.now (1 + i)) entry call s.media).2 := by
  rw [createLiveMediaSession, hactive]
  dsimp only
  split
  · rename_i hservice
    rw [hservice]
  · rename_i hservice
    rw [hservice]
    split
    · rfl
    · split
      · rfl
      · rfl

theorem stored_of_not_stores (hdevices : DeviceBinding.BindingInvariants.Kept s.devices)
    (h : ¬ Stores s call) {id : String} (hstored : Stored (createLiveMediaSession config call s).2 id) :
    Stored s id := by
  rcases DeviceBinding.DeviceBindingRegistry.getActiveSession_cases (call.now 0) call.workspaceId
      call.deviceSessionId s.devices with hactive | ⟨entry, hget, hworkspace, hlisted, hactive⟩
  · rw [Stored, createLiveMediaSession, hactive] at hstored
    exact hstored
  · rw [Stored, media_createLiveMediaSession config hactive] at hstored
    by_cases hsource : sourceType call.request.sourceKind ∈ entry.sourceTypes
    · have hname := (DeviceBinding.BindingInvariants.kept_cleaned hdevices).named _ _ hget
      rw [media_serviceCreate config hsource, hworkspace, hname] at hstored
      obtain ⟨descriptor, hstored⟩ := Option.isSome_iff_exists.mp hstored
      rcases LiveMediaSessionRegistry.create_cases call.workspaceId call.deviceSessionId s.media
        config (fun i => call.now (1 + i)) call.request call.draw with
        ⟨existing, -, heq⟩ | ⟨habsent, ⟨-, heq⟩ | ⟨hlimit, ⟨-, heq⟩ | ⟨hreserved, heq⟩⟩⟩
      · rw [heq] at hstored
        rw [Stored, (RegistryCoherence.get_cleaned.mp hstored).1]
        rfl
      · rw [heq] at hstored
        rw [Stored, (RegistryCoherence.get_cleaned.mp
          (RegistryCoherence.get_cleaned.mp hstored).1).1]
        rfl
      · rw [heq] at hstored
        rw [Stored, (RegistryCoherence.get_cleaned.mp
          (RegistryCoherence.get_cleaned.mp hstored).1).1]
        rfl
      · exact absurd ⟨entry, congrArg Prod.fst hactive, hsource, habsent, hlimit, hreserved⟩ h
    · rw [serviceCreate, if_pos hsource] at hstored
      exact hstored

theorem create_of_stores (h : Stores s call) :
    LiveMediaSessionRegistry.create config (fun i => call.now (1 + i)) call.workspaceId
        call.deviceSessionId call.request call.draw s.media =
      (.ok (LiveMediaSessionRegistry.newDescriptor config (call.now 3) call.workspaceId
          call.deviceSessionId call.request call.draw),
        LiveMediaSessionRegistry.store
          (LiveMediaSessionRegistry.newDescriptor config (call.now 3) call.workspaceId
            call.deviceSessionId call.request call.draw)
          (LiveMediaSessionRegistry.newBinding call.draw) (purgedMedia s call)) := by
  obtain ⟨entry, -, -, habsent, hlimit, hreserved⟩ := h
  rcases LiveMediaSessionRegistry.create_cases call.workspaceId call.deviceSessionId s.media
    config (fun i => call.now (1 + i)) call.request call.draw with
    ⟨existing, hexisting, -⟩ | ⟨-, ⟨hfull, -⟩ | ⟨-, ⟨htaken, -⟩ | ⟨-, heq⟩⟩⟩
  · rw [habsent] at hexisting
    cases hexisting
  · exact absurd hlimit (Nat.not_lt_of_le hfull)
  · rw [hreserved] at htaken
    cases htaken
  · exact heq

abbrev newSession (config : LiveMediaConfig Time) (call : CreateCall Time) :
    LiveMediaSessionRegistry.Descriptor Time :=
  LiveMediaSessionRegistry.newDescriptor config (call.now 3) call.workspaceId
    call.deviceSessionId call.request call.draw

abbrev storedMedia (config : LiveMediaConfig Time) (s : State Time) (call : CreateCall Time) :
    LiveMediaSessionRegistry.Registry Time :=
  LiveMediaSessionRegistry.store (newSession config call)
    (LiveMediaSessionRegistry.newBinding call.draw) (purgedMedia s call)

theorem entry_of_stores (hdevices : DeviceBinding.BindingInvariants.Kept s.devices)
    (h : Stores s call) :
    ∃ entry, s.devices.sessions.get call.deviceSessionId = some entry ∧
      (DeviceBinding.DeviceBindingRegistry.cleaned (call.now 0) s.devices).sessions.get
        call.deviceSessionId = some entry ∧
      entry.workspaceId = call.workspaceId ∧
      entry.state ∉ DeviceBinding.DeviceBindingRegistry.terminalStates ∧
      DeviceBinding.DeviceBindingRegistry.getActiveSession (call.now 0) call.workspaceId
        call.deviceSessionId s.devices =
          (some entry, DeviceBinding.DeviceBindingRegistry.cleaned (call.now 0) s.devices) ∧
      serviceCreate config (fun i => call.now (1 + i)) entry call s.media =
        (match call.tokens with
          | .error text => .error ⟨503, text⟩
          | .ok tokens => .ok ⟨newSession config call, tokens⟩, storedMedia config s call) := by
  have hcreate := create_of_stores config h
  obtain ⟨found, hfound, hsource, -⟩ := h
  rcases DeviceBinding.DeviceBindingRegistry.getActiveSession_cases (call.now 0) call.workspaceId
      call.deviceSessionId s.devices with hactive | ⟨entry, hget, hworkspace, hlisted, hactive⟩
  · rw [hactive] at hfound
    cases hfound
  · rw [hactive] at hfound
    obtain rfl := Option.some.inj hfound
    have hname : entry.sessionId = call.deviceSessionId :=
      (DeviceBinding.BindingInvariants.kept_cleaned hdevices).named _ _ hget
    refine ⟨entry, ((DeviceBinding.BindingInvariants.get_cleaned hdevices).mp hget).1, hget,
      hworkspace, hlisted, hactive, ?_⟩
    rw [serviceCreate, if_neg (not_not.mpr hsource), hworkspace, hname, hcreate]
    cases call.tokens with
    | error text => rfl
    | ok tokens => rfl

def recording (config : LiveMediaConfig Time) (call : CreateCall Time)
    (entry : DeviceBinding.DeviceBindingContracts.DeviceSessionEntry Time) :
    DeviceBinding.DeviceBindingContracts.DeviceSessionEntry Time :=
  { entry with
    mediaSessionId := some call.draw.mediaSessionId
    mediaSessionState := some "waiting_for_publisher"
    mediaSessionExpiresAtEpoch := some (newSession config call).expiresAtEpoch
    updatedAtEpoch := call.now 5 }

abbrev devicesAtAttach (s : State Time) (call : CreateCall Time) :
    DeviceBinding.DeviceBindingRegistry.Registry Time :=
  DeviceBinding.DeviceBindingRegistry.cleaned (call.now 4)
    (DeviceBinding.DeviceBindingRegistry.cleaned (call.now 0) s.devices)

theorem createLiveMediaSession_of_stores
    (hdevices : DeviceBinding.BindingInvariants.Kept s.devices) (h : Stores s call) :
    (createLiveMediaSession config call s).2.media = storedMedia config s call ∧
      (¬ Undisturbed s call → ∃ e, (createLiveMediaSession config call s).1 = .error e) ∧
      (Undisturbed s call → ∃ tokens entry,
        (createLiveMediaSession config call s).1 = .ok ⟨newSession config call, tokens⟩ ∧
        (devicesAtAttach s call).sessions.get call.deviceSessionId = some entry ∧
        (createLiveMediaSession config call s).2.devices =
          DeviceBinding.DeviceBindingRegistry.cleaned (call.now 6)
            { devicesAtAttach s call with
              sessions := (devicesAtAttach s call).sessions.set call.deviceSessionId
                (recording config call entry) }) := by
  obtain ⟨entry, hstored, hget, hworkspace, hlisted, hactive, hservice⟩ :=
    entry_of_stores config hdevices h
  have hmedia := media_createLiveMediaSession config hactive
  refine ⟨by rw [hmedia, hservice], ?_⟩
  have hkept : DeviceBinding.BindingInvariants.Kept
      (DeviceBinding.DeviceBindingRegistry.cleaned (call.now 0) s.devices) :=
    DeviceBinding.BindingInvariants.kept_cleaned hdevices
  rw [createLiveMediaSession, hactive]
  dsimp only
  rw [hservice]
  cases htokens : call.tokens with
  | error text =>
      refine ⟨fun _ => ⟨_, rfl⟩, ?_⟩
      rintro ⟨⟨tokens, hok⟩, -⟩
      rw [htokens] at hok
      cases hok
  | ok tokens =>
      dsimp only
      rw [DeviceBinding.DeviceBindingRegistry.attachLiveMediaSession]
      by_cases hlive : call.now 4 < entry.expiresAtEpoch
      · have hattach : (devicesAtAttach s call).sessions.get call.deviceSessionId = some entry :=
          (DeviceBinding.BindingInvariants.get_cleaned hkept).mpr ⟨hget, hlive⟩
        rw [DeviceBinding.DeviceBindingRegistry.amendMedia_of_get hattach hworkspace hlisted]
        by_cases howns : DeviceBinding.DeviceBindingRegistry.ownsOther
            (newSession config call).mediaSessionId entry = true
        · rw [if_pos howns]
          refine ⟨fun _ => ⟨_, rfl⟩, ?_⟩
          rintro ⟨-, -, hentry⟩
          exact absurd howns (Bool.not_eq_true _ ▸ (hentry entry hstored).2)
        · rw [if_neg howns]
          dsimp only
          split
          · rename_i hannounced
            refine ⟨fun hdisturbed => absurd ?_ hdisturbed,
              fun _ => ⟨tokens, entry, rfl, hattach, rfl⟩⟩
            refine ⟨⟨tokens, htokens⟩, hannounced, fun found hfound => ?_⟩
            rw [hstored] at hfound
            obtain rfl := Option.some.inj hfound
            exact ⟨hlive, Bool.eq_false_of_not_eq_true howns⟩
          · rename_i hannounced
            refine ⟨fun _ => ⟨_, rfl⟩, ?_⟩
            rintro ⟨-, hok, -⟩
            exact absurd hok hannounced
      · refine ⟨fun _ => ?_, fun hundisturbed => absurd (hundisturbed.2.2 entry hstored).1 hlive⟩
        rcases DeviceBinding.DeviceBindingRegistry.getActiveSession_cases (call.now (4 + 0))
          call.workspaceId call.deviceSessionId
          (DeviceBinding.DeviceBindingRegistry.cleaned (call.now 0) s.devices) with
          hnone | ⟨found, hfound, -⟩
        · rw [DeviceBinding.DeviceBindingRegistry.amendMedia, hnone]
          exact ⟨_, rfl⟩
        · obtain ⟨hold, hfoundlive⟩ :=
            (DeviceBinding.BindingInvariants.get_cleaned hkept).mp hfound
          rw [hget] at hold
          obtain rfl := Option.some.inj hold
          exact absurd hfoundlive hlive

theorem stored_of_stores (hdevices : DeviceBinding.BindingInvariants.Kept s.devices)
    (h : Stores s call) :
    Stored (createLiveMediaSession config call s).2 call.draw.mediaSessionId := by
  rw [Stored, (createLiveMediaSession_of_stores config hdevices h).1]
  exact get_set_isSome.mpr (.inl rfl)

theorem getsMedia_of_undisturbed (hdevices : DeviceBinding.BindingInvariants.Kept s.devices)
    (hready : Ready s call) (h : Stores s call) (hundisturbed : Undisturbed s call) :
    GetsMedia config s call := by
  obtain ⟨ready, hget, -, -, hactive, -⟩ := hready
  obtain ⟨tokens, entry, hanswer, hattach, hafter⟩ :=
    (createLiveMediaSession_of_stores config hdevices h).2.2 hundisturbed
  have hkept : DeviceBinding.BindingInvariants.Kept (devicesAtAttach s call) :=
    DeviceBinding.BindingInvariants.kept_cleaned
      (DeviceBinding.BindingInvariants.kept_cleaned hdevices)
  have hentry : s.devices.sessions.get call.deviceSessionId = some entry :=
    ((DeviceBinding.BindingInvariants.get_cleaned hdevices).mp
      ((DeviceBinding.BindingInvariants.get_cleaned
        (DeviceBinding.BindingInvariants.kept_cleaned hdevices)).mp hattach).1).1
  rw [hget] at hentry
  obtain rfl := Option.some.inj hentry
  have hlisted : ready.state ∉ DeviceBinding.DeviceBindingRegistry.terminalStates :=
    hkept.listed _ _ hattach
  have hset : DeviceBinding.BindingInvariants.Kept { devicesAtAttach s call with
      sessions := (devicesAtAttach s call).sessions.set call.deviceSessionId
        (recording config call ready) } :=
    DeviceBinding.BindingInvariants.kept_setSession hkept hattach rfl rfl
      hlisted
  refine ⟨_, recording config call ready, hanswer, rfl, ?_, rfl, stored_of_stores config hdevices h⟩
  rw [hafter]
  exact (DeviceBinding.BindingInvariants.get_cleaned hset).mpr ⟨get_set_self, hactive 6⟩

theorem getsMedia_and_leavesNothing_iff
    (haligned : RegistryCoherence.Aligned s.media)
    (hdevices : DeviceBinding.BindingInvariants.Kept s.devices) (hclock : Monotone call.now)
    (hfresh : ¬ Stored s call.draw.mediaSessionId) :
    ((Ready s call → GetsMedia config s call) ∧ LeavesNothing config s call) ↔
      (Stores s call → Undisturbed s call) := by
  constructor
  · rintro ⟨-, hnothing⟩ hstores
    by_contra hdisturbed
    have hfails := (createLiveMediaSession_of_stores config hdevices hstores).2.1
      hdisturbed
    exact hfresh (hnothing hfails _ (stored_of_stores config hdevices hstores))
  · intro h
    constructor
    · intro hready
      have hstores := stores_of_ready haligned hdevices hclock hready
      exact getsMedia_of_undisturbed config hdevices hready hstores (h hstores)
    · rintro ⟨e, hfails⟩ id hstored
      by_cases hstores : Stores s call
      · obtain ⟨tokens, entry, hanswer, -⟩ :=
          (createLiveMediaSession_of_stores config hdevices hstores).2.2 (h hstores)
        rw [hanswer] at hfails
        cases hfails
      · exact stored_of_not_stores config hdevices hstores hstored

end

end MindscapeLocalCore.MediaTransport.CreateRoute
