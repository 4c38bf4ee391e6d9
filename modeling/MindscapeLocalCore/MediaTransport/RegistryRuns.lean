import MindscapeLocalCore.MediaTransport.RegistryCoherence
/-!
Runs of the registry: calls of its methods in any order, with any arguments and any readings
of the clock.
-/

namespace MindscapeLocalCore.MediaTransport.RegistryRuns

open Library Library.OrderedDict LiveMediaContracts LiveMediaSessionRegistry RegistryCoherence

variable {Time : Type}

/-- A call of a method, with the readings of the clock that it makes. -/
inductive Event (Time : Type) where
  | create (now : ℕ → Time) (workspaceId deviceSessionId : String)
      (request : CreateLiveMediaSessionRequest) (draw : Draw)
  | getActive (now : Time) (workspaceId deviceSessionId : String) (mediaSessionId : Option String)
  | getReceiverBinding (now : Time) (workspaceId deviceSessionId mediaSessionId : String)
  | markReceiverStarted (mediaSessionId : String)
  | updateReceiverState (now : Time) (mediaSessionId : String)
      (state : LiveMediaReceiverStateName) (reason : Option String)
  | stop (now : ℕ → Time) (workspaceId deviceSessionId mediaSessionId reason : String)
  | listActive (now : Time) (workspaceId : String)
  | cleanupExpired (now : Time)

/-- What the call draws from `secrets.token_hex`. -/
def Event.drawn : Event Time → Option String
  | .create _ _ _ _ draw => some draw.mediaSession
  | _ => none

section

variable [LinearOrder Time] [Add Time] (config : LiveMediaConfig Time)

def next (r : Registry Time) : Event Time → Registry Time
  | .create now workspaceId deviceSessionId request draw =>
      (create config now workspaceId deviceSessionId request draw r).2
  | .getActive now workspaceId deviceSessionId mediaSessionId =>
      (getActive now workspaceId deviceSessionId mediaSessionId r).2
  | .getReceiverBinding now workspaceId deviceSessionId mediaSessionId =>
      (getReceiverBinding now workspaceId deviceSessionId mediaSessionId r).2
  | .markReceiverStarted mediaSessionId => (markReceiverStarted mediaSessionId r).2
  | .updateReceiverState now mediaSessionId state reason =>
      (updateReceiverState now mediaSessionId state reason r).2
  | .stop now workspaceId deviceSessionId mediaSessionId reason =>
      (stop now workspaceId deviceSessionId mediaSessionId reason r).2
  | .listActive now workspaceId => (listActive now workspaceId r).2
  | .cleanupExpired now => (cleanupExpired now r).2

/-- `stop` answers with the session, or the session is stored before the call and not after. -/
def Ends (r : Registry Time) (event : Event Time) (id : String) : Prop :=
  (∃ now workspaceId deviceSessionId mediaSessionId reason descriptor,
    event = .stop now workspaceId deviceSessionId mediaSessionId reason ∧
      (stop now workspaceId deviceSessionId mediaSessionId reason r).1 = .ok descriptor ∧
        descriptor.mediaSessionId = id) ∨
    (r.sessions.get id).isSome ∧ (next config r event).sessions.get id = none

def StopsNamed (r : Registry Time) : Event Time → Prop
  | .stop now workspaceId deviceSessionId mediaSessionId _ =>
      mediaSessionId = "" → ∀ descriptor ∈ r.sessions.values,
        deviceKey descriptor = (workspaceId, deviceSessionId) →
          descriptor.expiresAtEpoch ≤ now 0
  | _ => True

def DrawsFresh (r : Registry Time) : Event Time → Prop
  | .create _ _ _ _ draw => r.sessions.get draw.mediaSessionId = none
  | _ => True

end

/-- What `secrets.token_hex` gives to the calls. -/
def draws (events : List (Event Time)) : List String := events.filterMap Event.drawn

def Event.newId (event : Event Time) : Option String := event.drawn.map ("lms_" ++ ·)

theorem nodup_newIds {events : List (Event Time)} (h : (draws events).Nodup) :
    (events.filterMap Event.newId).Nodup := by
  have hmap : events.filterMap Event.newId = (draws events).map ("lms_" ++ ·) :=
    List.map_filterMap.symm
  rw [hmap]
  exact h.map fun _ _ hsame => (String.append_right_inj _).mp hsame

/-! ### Drawn ids -/

theorem draw_ne_empty (draw : Draw) : draw.mediaSessionId ≠ "" := by
  intro h
  have hchars := congrArg String.toList h
  rw [Draw.mediaSessionId, String.toList_append] at hchars
  exact absurd (List.append_eq_nil_iff.mp hchars).1 (by decide)

variable [LinearOrder Time] {r r' : Registry Time}

/-- `stop` keeps the maps aligned exactly where it does not remove the entry of a device
session without its session. -/
theorem aligned_stop_iff {now : ℕ → Time}
    {workspaceId deviceSessionId mediaSessionId reason : String} (h : Kept r)
    (haligned : Aligned r) :
    Aligned (stop now workspaceId deviceSessionId mediaSessionId reason r).2 ↔
      StopsNamed r (.stop now workspaceId deviceSessionId mediaSessionId reason) := by
  have hcleaned : Aligned (cleaned (now 0) r) := aligned_cleaned haligned
  rcases stop_cases workspaceId deviceSessionId mediaSessionId reason r now with
        ⟨e, heq, hactive⟩ | ⟨descriptor, hactive, heq⟩
  · -- nothing is found, so there is no session to lose
    rw [heq]
    refine iff_of_true hcleaned ?_
    rintro rfl descriptor hmem hkey
    by_contra hunexpired
    obtain ⟨id, hget⟩ := mem_values_iff.mp hmem
    have hstored : (cleaned (now 0) r).sessions.get id = some descriptor :=
      get_cleaned.mpr ⟨hget, lt_of_not_ge hunexpired⟩
    have hdevice := (hcleaned _ _).mpr ⟨descriptor, hstored, hkey⟩
    have hok : (getActive (now 0) workspaceId deviceSessionId (some "") r).1 = .ok descriptor := by
      refine getActive_eq_ok.mpr ⟨?_, hkey⟩
      rw [resolvedId, if_pos rfl, hdevice]
      exact hstored
    rw [hok] at hactive
    cases hactive
  · rw [heq]
    obtain ⟨hget, hkey⟩ := getActive_eq_ok.mp hactive
    by_cases hid : mediaSessionId = ""
    · -- the id that the device map gave stays stored without its entry
      rw [hid, resolvedId, if_pos rfl] at hget
      subst hid
      refine iff_of_false (fun hrelease => ?_) fun hnamed => ?_
      · have hstored : ((cleaned (now 0) r).sessions.pop "").get
            (((cleaned (now 0) r).deviceSessions.get (workspaceId, deviceSessionId)).getD "") =
              some descriptor := by
          refine get_pop_eq_some.mpr ⟨fun hempty => ?_, hget⟩
          rw [hempty, (kept_cleaned h).nonempty] at hget
          cases hget
        have hlost := (hrelease _ _).mpr ⟨descriptor, hstored, hkey⟩
        exact (get_pop_eq_some.mp hlost).1 rfl
      · obtain ⟨hstored, hunexpired⟩ := get_cleaned.mp hget
        exact not_lt_of_ge (hnamed rfl descriptor (mem_values_iff.mpr ⟨_, hstored⟩) hkey) hunexpired
    · rw [resolvedId, if_neg hid] at hget
      rw [← hkey]
      exact iff_of_true (aligned_release hcleaned hget) fun hempty => absurd hempty hid

section

variable [Add Time] {config : LiveMediaConfig Time} {event : Event Time}

/-! ### What a call leaves -/

inductive Leaves (config : LiveMediaConfig Time) (r : Registry Time) :
    Event Time → Registry Time → Prop
  | same (event : Event Time) : Leaves config r event r
  | cleaned (event : Event Time) (now : Time) : Leaves config r event (cleaned now r)
  | purged (event : Event Time) (clock : ℕ → Time) : Leaves config r event (purged clock r)
  | stored (clock : ℕ → Time) (workspaceId deviceSessionId : String)
      (request : CreateLiveMediaSessionRequest) (draw : Draw)
      (habsent : existingSession (workspaceId, deviceSessionId)
        (LiveMediaSessionRegistry.cleaned (clock 0) r) = none)
      (hlimit : (workspaceSessions workspaceId
        (LiveMediaSessionRegistry.purged clock r)).length < 3)
      (hreserved : (request.analysisReserved && (workspaceSessions workspaceId
        (LiveMediaSessionRegistry.purged clock r)).any (·.analysisReserved)) = false) :
      Leaves config r (.create clock workspaceId deviceSessionId request draw)
        (store (newDescriptor config (clock 2) workspaceId deviceSessionId request draw)
          (newBinding draw) (LiveMediaSessionRegistry.purged clock r))
  | started (mediaSessionId : String)
      (hbinding : (r.receiverBindings.get mediaSessionId).isSome) :
      Leaves config r (.markReceiverStarted mediaSessionId)
        { r with startedReceivers := insert mediaSessionId r.startedReceivers }
  | updated (now : Time) (mediaSessionId : String) (state : LiveMediaReceiverStateName)
      (reason : Option String) (descriptor : Descriptor Time)
      (hget : r.sessions.get mediaSessionId = some descriptor) :
      Leaves config r (.updateReceiverState now mediaSessionId state reason)
        { r with
          sessions := r.sessions.set mediaSessionId (projected now state reason descriptor) }
  | released (now : ℕ → Time) (workspaceId deviceSessionId mediaSessionId reason : String) :
      Leaves config r (.stop now workspaceId deviceSessionId mediaSessionId reason)
        (release mediaSessionId (workspaceId, deviceSessionId)
          (LiveMediaSessionRegistry.cleaned (now 0) r))

theorem leaves_next (config : LiveMediaConfig Time) (r : Registry Time) (event : Event Time) :
    Leaves config r event (next config r event) := by
  cases event with
  | create clock workspaceId deviceSessionId request draw =>
      show Leaves config r _ (create config clock workspaceId deviceSessionId request draw r).2
      rcases create_cases workspaceId deviceSessionId r config clock request draw with
        ⟨existing, -, heq⟩ | ⟨habsent, ⟨-, heq⟩ | ⟨hlimit, ⟨-, heq⟩ | ⟨hreserved, heq⟩⟩⟩
      · rw [heq]
        exact .cleaned _ (clock 0)
      · rw [heq]
        exact .purged _ clock
      · rw [heq]
        exact .purged _ clock
      · rw [heq]
        exact .stored clock workspaceId deviceSessionId request draw habsent hlimit hreserved
  | getActive now workspaceId deviceSessionId mediaSessionId =>
      show Leaves config r _ (getActive now workspaceId deviceSessionId mediaSessionId r).2
      rw [getActive_registry]
      exact .cleaned _ now
  | getReceiverBinding now workspaceId deviceSessionId mediaSessionId =>
      show Leaves config r _ (getReceiverBinding now workspaceId deviceSessionId mediaSessionId r).2
      rw [getReceiverBinding_registry]
      exact .cleaned _ now
  | markReceiverStarted mediaSessionId =>
      show Leaves config r _ (markReceiverStarted mediaSessionId r).2
      rcases markReceiverStarted_cases mediaSessionId r with
        heq | ⟨hbinding, heq⟩
      · rw [heq]
        exact .same _
      · rw [heq]
        exact .started mediaSessionId hbinding
  | updateReceiverState now mediaSessionId state reason =>
      show Leaves config r _ (updateReceiverState now mediaSessionId state reason r).2
      rcases updateReceiverState_cases now mediaSessionId r state reason with heq | ⟨descriptor, hget, heq⟩
      · rw [heq]
        exact .same _
      · rw [heq]
        exact .updated now mediaSessionId state reason descriptor hget
  | stop now workspaceId deviceSessionId mediaSessionId reason =>
      show Leaves config r _ (stop now workspaceId deviceSessionId mediaSessionId reason r).2
      rcases stop_cases workspaceId deviceSessionId mediaSessionId reason r now with
        ⟨e, heq, -⟩ | ⟨descriptor, -, heq⟩
      · rw [heq]
        exact .cleaned _ (now 0)
      · rw [heq]
        exact .released now workspaceId deviceSessionId mediaSessionId reason
  | listActive now workspaceId => exact .cleaned _ now
  | cleanupExpired now => exact .cleaned _ now

theorem kept_leaves (h : Kept r) (hfresh : DrawsFresh r event) (hleaves : Leaves config r event r') :
    Kept r' := by
  cases hleaves with
  | same => exact h
  | cleaned now => exact kept_cleaned h
  | purged clock => exact kept_cleaned (kept_cleaned h)
  | stored clock workspaceId deviceSessionId request draw habsent hlimit hreserved =>
      rw [length_workspaceSessions] at hlimit
      refine kept_store (kept_cleaned (kept_cleaned h)) (draw_ne_empty draw)
        (get_cleaned_of_none (get_cleaned_of_none hfresh)) hlimit fun hrequest => ?_
      have hrequest : request.analysisReserved = true := hrequest
      rw [hrequest, Bool.true_and] at hreserved
      exact count_reservedIn_eq_zero hreserved
  | started mediaSessionId hbinding =>
      refine ⟨h.named, h.nonempty, h.bindings, fun id hmem => ?_, h.limit, h.reserved⟩
      rcases Finset.mem_insert.mp hmem with rfl | hmem
      · exact (h.bindings id).mp hbinding
      · exact h.started id hmem
  | updated now mediaSessionId state reason descriptor hget =>
      exact kept_setSession h hget rfl rfl rfl
  | released now workspaceId deviceSessionId mediaSessionId reason =>
      exact kept_release (kept_cleaned h)

theorem stored_of_leaves {id : String} {descriptor : Descriptor Time}
    (hleaves : Leaves config r event r') (h : r'.sessions.get id = some descriptor) :
    (r.sessions.get id).isSome ∨ ∃ drawn, event.drawn = some drawn ∧ id = "lms_" ++ drawn := by
  have hpurged : ∀ {clock d}, (purged clock r).sessions.get id = some d →
      (r.sessions.get id).isSome := by
    intro clock d hget
    rw [(get_cleaned.mp (get_cleaned.mp hget).1).1]
    rfl
  cases hleaves with
  | same => exact .inl (h ▸ rfl)
  | cleaned now => exact .inl ((get_cleaned.mp h).1 ▸ rfl)
  | purged clock => exact .inl (hpurged h)
  | stored clock workspaceId deviceSessionId request draw =>
      by_cases hid : id = draw.mediaSessionId
      · exact .inr ⟨draw.mediaSession, rfl, hid⟩
      · exact .inl (hpurged ((get_set_of_ne hid).symm.trans h))
  | started mediaSessionId => exact .inl (h ▸ rfl)
  | updated now mediaSessionId state reason old hget =>
      refine .inl ?_
      by_cases hid : id = mediaSessionId
      · rw [hid, hget]
        rfl
      · rw [← get_set_of_ne hid, h]
        rfl
  | released now workspaceId deviceSessionId mediaSessionId reason =>
      exact .inl ((get_cleaned.mp (get_pop_eq_some.mp h).2).1 ▸ rfl)

theorem aligned_next_iff (h : Kept r) (haligned : Aligned r) (hfresh : DrawsFresh r event) :
    Aligned (next config r event) ↔ StopsNamed r event := by
  by_cases hstop : ∃ now workspaceId deviceSessionId mediaSessionId reason,
      event = .stop now workspaceId deviceSessionId mediaSessionId reason
  · obtain ⟨now, workspaceId, deviceSessionId, mediaSessionId, reason, rfl⟩ := hstop
    exact aligned_stop_iff h haligned
  · refine iff_of_true ?_ ?_
    · have hleaves := leaves_next config r event
      generalize next config r event = r' at hleaves
      cases hleaves with
      | same => exact haligned
      | cleaned now => exact aligned_cleaned haligned
      | purged clock => exact aligned_cleaned (aligned_cleaned haligned)
      | stored clock workspaceId deviceSessionId request draw habsent =>
          have hkey : (cleaned (clock 0) r).deviceSessions.get (workspaceId, deviceSessionId) = none :=
            deviceSessions_eq_none (kept_cleaned h) (aligned_cleaned haligned) habsent
          exact aligned_store (aligned_cleaned (aligned_cleaned haligned))
            (deviceSessions_cleaned (aligned_cleaned haligned) hkey)
            (get_cleaned_of_none (get_cleaned_of_none hfresh))
      | started => exact haligned
      | updated now mediaSessionId state reason descriptor hget =>
          exact aligned_setSession haligned hget rfl
      | released now workspaceId deviceSessionId mediaSessionId reason =>
          exact absurd ⟨now, workspaceId, deviceSessionId, mediaSessionId, reason, rfl⟩ hstop
    · cases event with
      | stop now workspaceId deviceSessionId mediaSessionId reason =>
          exact absurd ⟨now, workspaceId, deviceSessionId, mediaSessionId, reason, rfl⟩ hstop
      | _ => trivial

/-! ### Runs -/

abbrev registryAfter (config : LiveMediaConfig Time) (events : List (Event Time)) : Registry Time :=
  Trace.stateAfter (next config) .empty events

variable {id : String}

def Stored (r : Registry Time) (id : String) : Prop := (r.sessions.get id).isSome

omit [LinearOrder Time] [Add Time] in
theorem drawsFresh_of_newId (h : ∀ id, event.newId = some id → ¬ Stored r id) :
    DrawsFresh r event := by
  cases event with
  | create clock workspaceId deviceSessionId request draw =>
      exact Option.not_isSome_iff_eq_none.mp (h draw.mediaSessionId rfl)
  | _ => trivial

theorem drawsIds (config : LiveMediaConfig Time) :
    FreshIds.DrawsIds (next config) Stored Event.newId Kept where
  keeps r event h hfresh := kept_leaves h (drawsFresh_of_newId hfresh) (leaves_next config r event)
  stores r event id _ hstored := by
    obtain ⟨descriptor, hget⟩ := Option.isSome_iff_exists.mp hstored
    rcases stored_of_leaves (leaves_next config r event) hget with hold | ⟨drawn, hevent, rfl⟩
    · exact .inl hold
    · refine .inr ?_
      rw [Event.newId, hevent]
      rfl

omit [LinearOrder Time] [Add Time] in
theorem not_stored_empty (id : String) : ¬ Stored (.empty : Registry Time) id :=
  Bool.false_ne_true

theorem removed_of_ends (h : Kept r) (hnamed : StopsNamed r event) (hends : Ends config r event id) :
    (r.sessions.get id).isSome ∧ (next config r event).sessions.get id = none := by
  rcases hends with ⟨now, workspaceId, deviceSessionId, mediaSessionId, reason, stopped, rfl, hok,
    rfl⟩ | hremoved
  · rcases stop_cases workspaceId deviceSessionId mediaSessionId reason r now with
        ⟨e, heq, -⟩ | ⟨descriptor, hactive, heq⟩
    · rw [heq] at hok
      cases hok
    · obtain ⟨hget, hkey⟩ := getActive_eq_ok.mp hactive
      have hid : mediaSessionId ≠ "" := by
        rintro rfl
        obtain ⟨hstored, hunexpired⟩ := get_cleaned.mp hget
        exact not_lt_of_ge (hnamed rfl descriptor (mem_values_iff.mpr ⟨_, hstored⟩) hkey) hunexpired
      rw [resolvedId, if_neg hid] at hget
      obtain ⟨hstored, -⟩ := get_cleaned.mp hget
      rw [heq] at hok
      have hname : descriptor.mediaSessionId = mediaSessionId := h.named _ _ hstored
      have hsame : stopped.mediaSessionId = mediaSessionId := by
        rw [← Except.ok.inj hok]
        exact hname
      show (r.sessions.get stopped.mediaSessionId).isSome ∧
        (stop now workspaceId deviceSessionId mediaSessionId reason r).2.sessions.get
          stopped.mediaSessionId = none
      rw [hsame, hstored, heq]
      exact ⟨rfl, get_pop_self⟩
  · exact hremoved

/-- In a run whose draws do not repeat, the maps are coherent after every call and no session
that was stopped or expired is stored again, exactly where no call of `stop` is given the empty
id for a device session that has an unexpired session. -/
theorem coherent_iff_stopsNamed (config : LiveMediaConfig Time) (events : List (Event Time))
    (hdraws : (draws events).Nodup) :
    ((∀ before rest, events = before ++ rest → Coherent (registryAfter config before)) ∧
      ∀ before event later rest, events = before ++ event :: (later ++ rest) →
        ∀ id, Ends config (registryAfter config before) event id →
          (registryAfter config (before ++ event :: later)).sessions.get id = none) ↔
      Trace.Along (next config) StopsNamed .empty events := by
  have hnew := nodup_newIds hdraws
  have hkept : ∀ before rest, events = before ++ rest → Kept (registryAfter config before) := by
    rintro before rest rfl
    exact (FreshIds.invariant_and_drawn (drawsIds config) kept_empty not_stored_empty
      (FreshIds.nodup_before hnew)).1
  have hok : Trace.Along (next config) (fun s event => Kept s ∧ DrawsFresh s event) .empty
      events := by
    refine Trace.along_iff.mpr fun before event rest hsplit => ⟨hkept before _ hsplit, ?_⟩
    rw [hsplit] at hnew
    exact drawsFresh_of_newId fun id hid =>
      FreshIds.not_stored_of_drawn (drawsIds config) kept_empty not_stored_empty hnew hid
  have haligned : (∀ before rest, events = before ++ rest →
      Aligned (registryAfter config before)) ↔
        Trace.Along (next config) StopsNamed .empty events :=
    Trace.holds_throughout_iff aligned_empty
      (fun _ _ haligned hok => aligned_next_iff hok.1 haligned hok.2) hok
  rw [← haligned]
  constructor
  · intro h before rest hsplit
    exact (h.1 before rest hsplit).device
  · intro h
    refine ⟨fun before rest hsplit => ?_, ?_⟩
    · exact (coherent_iff (hkept before rest hsplit)).mpr (h before rest hsplit)
    · rintro before event later rest hsplit id hends
      have hnamed : StopsNamed (registryAfter config before) event := by
        have halong := haligned.mp h
        rw [hsplit] at halong
        exact Trace.ok_of_along _ halong
      obtain ⟨hstored, hremoved⟩ := removed_of_ends (hkept before _ hsplit) hnamed hends
      have hgone : ¬ Stored (registryAfter config (before ++ [event])) id := by
        rw [registryAfter, Trace.stateAfter_append_singleton, Stored, hremoved]
        exact Bool.false_ne_true
      have hlist : events = (before ++ [event] ++ later) ++ rest := by
        rw [hsplit, List.append_assoc, List.append_assoc]
        rfl
      rw [hlist] at hnew
      have hused : id ∈ before.filterMap Event.newId :=
        (FreshIds.invariant_and_drawn (drawsIds config) kept_empty not_stored_empty
          (FreshIds.nodup_before (FreshIds.nodup_before (FreshIds.nodup_before hnew)))).2 id hstored
      have hlater := FreshIds.not_stored_later (drawsIds config) kept_empty not_stored_empty
        (FreshIds.nodup_before hnew)
        (by rw [List.filterMap_append]; exact List.mem_append_left _ hused) hgone
      rw [List.append_assoc] at hlater
      exact Option.not_isSome_iff_eq_none.mp hlater

end

section Sample

def sampleConfig : LiveMediaConfig ℕ where
  publicWebrtcOrigin := "https://relay"
  publicRtmpsOrigin := "rtmps://relay"
  receiverRtspsOrigin := "rtsps://relay"
  sessionTtlSeconds := 14400

def sampleRequest : CreateLiveMediaSessionRequest where
  sourceKind := .phoneCamera
  relayProfile := .publicRelay
  capabilities := [.video]
  analysisReserved := true

def sampleDraw : Draw where
  mediaSession := "0f"
  stream := "s"
  receiver := "r"
  append := "a"

def sampleCreate : Event ℕ := .create (fun _ => 10) "w" "d" sampleRequest sampleDraw

/-- A session is created, its receiver starts, and it is stopped under the id `media`. -/
def stopUnder (media : String) : List (Event ℕ) :=
  [sampleCreate, .markReceiverStarted "lms_0f", .stop (fun _ => 20) "w" "d" media "stopped_by_client"]

/-- Stopped under the empty id, the session stays stored and its device session has no entry. -/
theorem stop_unnamed_incoherent : ¬ Coherent (registryAfter sampleConfig (stopUnder "")) := by
  intro h
  have hstored : ((registryAfter sampleConfig (stopUnder "")).sessions.get "lms_0f").map deviceKey =
      some ("w", "d") := by decide +kernel
  obtain ⟨descriptor, hget, hkey⟩ := Option.map_eq_some_iff.mp hstored
  have hdevice := (h.device _ _).mpr ⟨descriptor, hget, hkey⟩
  have hlost : (registryAfter sampleConfig (stopUnder "")).deviceSessions.get ("w", "d") = none := by
    decide +kernel
  rw [hlost] at hdevice
  cases hdevice

instance {Time : Type} [LinearOrder Time] (r : Registry Time) :
    ∀ event : Event Time, Decidable (StopsNamed r event)
  | .stop now workspaceId deviceSessionId mediaSessionId _ =>
      inferInstanceAs (Decidable (mediaSessionId = "" → ∀ descriptor ∈ r.sessions.values,
        deviceKey descriptor = (workspaceId, deviceSessionId) →
          descriptor.expiresAtEpoch ≤ now 0))
  | .create .. => .isTrue trivial
  | .getActive .. => .isTrue trivial
  | .getReceiverBinding .. => .isTrue trivial
  | .markReceiverStarted .. => .isTrue trivial
  | .updateReceiverState .. => .isTrue trivial
  | .listActive .. => .isTrue trivial
  | .cleanupExpired .. => .isTrue trivial

theorem coherent_stop_named : Coherent (registryAfter sampleConfig (stopUnder "lms_0f")) := by
  have hiff := coherent_iff_stopsNamed sampleConfig (stopUnder "lms_0f") (by decide)
  exact (hiff.mpr (by decide +kernel)).1 _ [] (List.append_nil _).symm

end Sample

end MindscapeLocalCore.MediaTransport.RegistryRuns
