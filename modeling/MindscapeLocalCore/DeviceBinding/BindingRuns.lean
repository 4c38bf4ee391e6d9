import MindscapeLocalCore.DeviceBinding.BindingInvariants
import MindscapeLocalCore.Library.Trace
/-!
Runs of the registry: calls of its methods in any order, by any callers, at readings of the
clock that do not decrease from call to call.
-/

namespace MindscapeLocalCore.DeviceBinding.BindingRuns

open Library
open Library.Json (Dict)
open Library.OrderedDict DeviceBindingContracts DeviceBindingRegistry BindingInvariants

variable {Time : Type}

inductive Call (Time : Type) where
  | createPairingCode (workspaceId : String) (ttlSeconds : Option ℤ) (codes : List String)
  | attachWorkspaceObserver (workspaceId pairingCode : String) (websocket : ℕ)
  | detachWorkspaceObserver (pairingCode : String) (websocket : ℕ)
  | connectSourceDevice (workspaceId pairingCode : String)
      (declaration : DeviceCapabilityDeclaration) (websocket : ℕ) (draw : Draw)
  | refreshSession (sessionId : String)
  | revokeSession (workspaceId sessionId reason : String)
  | closeSession (sessionId reason : String)
  | listActiveSessions (workspaceId : String)
  | getActiveSession (workspaceId sessionId : String)
  | attachLiveMediaSession (workspaceId sessionId mediaSessionId mediaSessionState : String)
      (mediaSessionExpiresAtEpoch : Time)
  | detachLiveMediaSession (workspaceId sessionId mediaSessionId : String)
  | updateLiveMediaReceiverState (workspaceId sessionId mediaSessionId receiverState : String)
      (metrics : Option Dict) (analysisHandoff : Option DeviceMediaAnalysisHandoff)
  | cleanupExpired

/-- A call, with the readings of the clock that it makes. -/
structure Event (Time : Type) where
  now : ℕ → Time
  call : Call Time

/-- What a call returns, or the error that it raises. -/
inductive Answer (Time : Type) where
  | raised (e : RegistryError)
  | pairing (pairing : DevicePairingCode Time)
  | entry (entry : Entry Time)
  | entries (entries : List (Entry Time))
  | nothing

def Answer.ofExcept {α : Type} (f : α → Answer Time) : Except RegistryError α → Answer Time
  | .ok a => f a
  | .error e => .raised e

def Answer.ofOption {α : Type} (f : α → Answer Time) : Option α → Answer Time
  | some a => f a
  | none => .nothing

def Answer.sessionIds : Answer Time → List String
  | .entry found => [found.sessionId]
  | .entries found => found.map DeviceSessionEntry.sessionId
  | _ => []

def Call.removes : Call Time → Bool
  | .revokeSession _ _ _ => true
  | .closeSession _ _ => true
  | _ => false

/-- What the call draws from `secrets.token_urlsafe` for the id of a session. -/
def Event.drawn (event : Event Time) : Option String :=
  match event.call with
  | .connectSourceDevice _ _ _ _ draw => some draw.session
  | _ => none

section

variable [LinearOrder Time] [Add Time] [IntCast Time]

def perform (r : Registry Time) (event : Event Time) : Answer Time × Registry Time :=
  match event.call with
  | .createPairingCode workspaceId ttlSeconds codes =>
      (createPairingCode event.now workspaceId ttlSeconds codes r).map (.ofOption .pairing) id
  | .attachWorkspaceObserver workspaceId pairingCode websocket =>
      (attachWorkspaceObserver (event.now 0) workspaceId pairingCode websocket r).map
        (.ofExcept .pairing) id
  | .detachWorkspaceObserver pairingCode websocket =>
      (.nothing, detachWorkspaceObserver pairingCode websocket r)
  | .connectSourceDevice workspaceId pairingCode declaration websocket draw =>
      (connectSourceDevice event.now workspaceId pairingCode declaration websocket draw r).map
        (.ofExcept .entry) id
  | .refreshSession sessionId =>
      (refreshSession (event.now 0) sessionId r).map (.ofExcept .entry) id
  | .revokeSession workspaceId sessionId reason =>
      (revokeSession (event.now 0) workspaceId sessionId reason r).map (.ofExcept .entry) id
  | .closeSession sessionId reason =>
      (closeSession (event.now 0) sessionId reason r).map (.ofOption .entry) id
  | .listActiveSessions workspaceId =>
      (listActiveSessions (event.now 0) workspaceId r).map .entries id
  | .getActiveSession workspaceId sessionId =>
      (getActiveSession (event.now 0) workspaceId sessionId r).map (.ofOption .entry) id
  | .attachLiveMediaSession workspaceId sessionId mediaSessionId state expiresAtEpoch =>
      (attachLiveMediaSession event.now workspaceId sessionId mediaSessionId state expiresAtEpoch
        r).map (.ofExcept .entry) id
  | .detachLiveMediaSession workspaceId sessionId mediaSessionId =>
      (detachLiveMediaSession event.now workspaceId sessionId mediaSessionId r).map
        (.ofExcept .entry) id
  | .updateLiveMediaReceiverState workspaceId sessionId mediaSessionId state metrics handoff =>
      (updateLiveMediaReceiverState event.now workspaceId sessionId mediaSessionId state metrics
        handoff r).map (.ofExcept .entry) id
  | .cleanupExpired => (.nothing, cleaned (event.now 0) r)

def next (r : Registry Time) (event : Event Time) : Registry Time := (perform r event).2

/-! ### What a run is asked for -/

def unexpired (now : Time) (entry : Entry Time) : Bool := decide (now < entry.expiresAtEpoch)

def CreatesThroughCode (r : Registry Time) (event : Event Time) : Prop :=
  ∀ id entry, (next r event).sessions.get id = some entry → r.sessions.get id = none →
    ∃ declaration websocket draw record,
      event.call =
        .connectSourceDevice entry.workspaceId entry.pairingCode declaration websocket draw ∧
      id = draw.sessionId ∧ r.pairings.get entry.pairingCode = some record ∧
      record.pairing.workspaceId = entry.workspaceId ∧
      event.now 0 < record.pairing.expiresAtEpoch

def FailureKeeps (r : Registry Time) (event : Event Time) : Prop :=
  (∃ e, (perform r event).1 = .raised e) →
    (∀ id entry, (next r event).sessions.get id = some entry →
      r.sessions.get id = some entry) ∧
    ∀ id entry, r.sessions.get id = some entry →
      (next r event).sessions.get id = some entry ∨ ∃ i, entry.expiresAtEpoch ≤ event.now i

/-- The call revokes or closes the session, or the session is expired when it is made, or the
call takes it away. -/
def Ended (r : Registry Time) (event : Event Time) (id : String) : Prop :=
  (event.call.removes = true ∧ id ∈ (perform r event).1.sessionIds) ∨
    (∃ entry, r.sessions.get id = some entry ∧ entry.expiresAtEpoch ≤ event.now 0) ∨
    (r.sessions.get id).isSome ∧ (next r event).sessions.get id = none

/-- The call answers with the session other than to end it: it lists, refreshes or amends it. -/
def Serves (r : Registry Time) (event : Event Time) (id : String) : Prop :=
  event.call.removes = false ∧ id ∈ (perform r event).1.sessionIds

def GeneratesFreeCode (r : Registry Time) (event : Event Time) : Prop :=
  match event.call with
  | .createPairingCode _ _ codes =>
      ∀ code ∈ generatePairingCode codes (cleaned (event.now 0) r),
        ∀ entry ∈ r.sessions.values, event.now 0 < entry.expiresAtEpoch →
          entry.pairingCode ≠ code
  | _ => True

def DrawsFresh (r : Registry Time) (event : Event Time) : Prop :=
  match event.call with
  | .connectSourceDevice _ _ _ _ draw => r.sessions.get draw.sessionId = none
  | _ => True

end

def Clocked [LE Time] (events : List (Event Time)) : Prop :=
  events.Pairwise fun event later => ∀ i j, event.now i ≤ later.now j

def draws (events : List (Event Time)) : List String := events.filterMap Event.drawn

def Event.newId (event : Event Time) : Option String := event.drawn.map ("device_session_" ++ ·)

def Stored (r : Registry Time) (id : String) : Prop := (r.sessions.get id).isSome

section

variable [LinearOrder Time] {r s s' : Registry Time} {event : Event Time} {answer : Answer Time}

/-! ### What a call does -/

inductive Purges (event : Event Time) (r : Registry Time) : Registry Time → Prop
  | nothing : Purges event r r
  | once : Purges event r (cleaned (event.now 0) r)
  | twice : Purges event r (cleaned (event.now 1) (cleaned (event.now 0) r))

inductive Does [Add Time] [IntCast Time] (event : Event Time) (r s : Registry Time) : Answer Time → Registry Time → Prop
  | raises (e : RegistryError) : Does event r s (.raised e) s
  | returns : Does event r s .nothing s
  | lists (entries : List (Entry Time))
      (h : ∀ entry ∈ entries, s.sessions.get entry.sessionId = some entry ∧
        event.now 0 < entry.expiresAtEpoch) :
      Does event r s (.entries entries) s
  | finds (entry : Entry Time) (hget : s.sessions.get entry.sessionId = some entry)
      (hlive : event.now 0 < entry.expiresAtEpoch) : Does event r s (.entry entry) s
  | drops (e : RegistryError) (code : String) :
      Does event r s (.raised e) { s with pairings := s.pairings.pop code }
  | answersPairing (pairing : DevicePairingCode Time) : Does event r s (.pairing pairing) s
  | observes (answer : Answer Time) (code : String) (record record' : PairingRecord Time)
      (hget : s.pairings.get code = some record)
      (hsame : record'.consumedSessionId = record.consumedSessionId)
      (hanswer : answer.sessionIds = []) :
      Does event r s answer { s with pairings := s.pairings.set code record' }
  | creates (workspaceId : String) (ttlSeconds : Option ℤ) (codes : List String) (code : String)
      (pairing : DevicePairingCode Time)
      (hcall : event.call = .createPairingCode workspaceId ttlSeconds codes)
      (hs : s = cleaned (event.now 0) r) (hcode : generatePairingCode codes s = some code) :
      Does event r s (.pairing pairing)
        { s with pairings := s.pairings.set code ⟨pairing, [], none⟩ }
  | connects (workspaceId pairingCode : String) (declaration : DeviceCapabilityDeclaration)
      (websocket : ℕ) (draw : Draw) (record : PairingRecord Time)
      (hcall : event.call =
        .connectSourceDevice workspaceId pairingCode declaration websocket draw)
      (hs : s = cleaned (event.now 1) (cleaned (event.now 0) r))
      (hrecord : (cleaned (event.now 0) r).pairings.get pairingCode = some record)
      (hworkspace : record.pairing.workspaceId = workspaceId)
      (hunexpired : event.now 0 < record.pairing.expiresAtEpoch)
      (hfree : PairingRecord.consumed record = false)
      (hlimit : (s.sessions.values.filter fun entry => decide (entry.workspaceId = workspaceId) &&
        decide (entry.state ∉ terminalStates)).length < 3) :
      Does event r s
        (.entry (newEntry (event.now 0) workspaceId pairingCode declaration websocket draw))
        (consumePairing pairingCode draw.sessionId
          { s with
            sessions := s.sessions.set draw.sessionId
              (newEntry (event.now 0) workspaceId pairingCode declaration websocket draw) })
  | amends (id : String) (entry entry' : Entry Time) (hget : s.sessions.get id = some entry)
      (hlive : event.now 0 < entry.expiresAtEpoch) (hid : entry'.sessionId = entry.sessionId)
      (hworkspace : entry'.workspaceId = entry.workspaceId)
      (hcode : entry'.pairingCode = entry.pairingCode) (hlisted : entry'.state ∉ terminalStates) :
      Does event r s (.entry entry') { s with sessions := s.sessions.set id entry' }
  | expires (e : RegistryError) (id : String) (entry : Entry Time)
      (hget : s.sessions.get id = some entry) (hexpired : entry.expiresAtEpoch ≤ event.now 0) :
      Does event r s (.raised e) (removeSession entry s)
  | removes (entry entry' : Entry Time) (hget : s.sessions.get entry.sessionId = some entry)
      (hid : entry'.sessionId = entry.sessionId) (hcall : event.call.removes = true) :
      Does event r s (.entry entry') (removeSession entry s)

theorem kept_purges (h : Kept r) (hpurges : Purges event r s) : Kept s := by
  cases hpurges with
  | nothing => exact h
  | once => exact kept_cleaned h
  | twice => exact kept_cleaned (kept_cleaned h)

theorem held_purges (h : Held r) (hpurges : Purges event r s) : Held s := by
  cases hpurges with
  | nothing => exact h
  | once => exact held_cleaned h
  | twice => exact held_cleaned (held_cleaned h)

variable {id : String} {entry : Entry Time}

theorem get_of_purges (h : Kept r) (hpurges : Purges event r s)
    (hget : s.sessions.get id = some entry) : r.sessions.get id = some entry := by
  cases hpurges with
  | nothing => exact hget
  | once => exact ((get_cleaned h).mp hget).1
  | twice => exact ((get_cleaned h).mp ((get_cleaned (kept_cleaned h)).mp hget).1).1

theorem get_purges (h : Kept r) (hpurges : Purges event r s)
    (hget : r.sessions.get id = some entry) :
    s.sessions.get id = some entry ∨ ∃ i, entry.expiresAtEpoch ≤ event.now i := by
  by_cases hlive : ∀ i, event.now i < entry.expiresAtEpoch
  · refine .inl ?_
    cases hpurges with
    | nothing => exact hget
    | once => exact (get_cleaned h).mpr ⟨hget, hlive 0⟩
    | twice =>
        exact (get_cleaned (kept_cleaned h)).mpr ⟨(get_cleaned h).mpr ⟨hget, hlive 0⟩, hlive 1⟩
  · obtain ⟨i, hi⟩ := not_forall.mp hlive
    exact .inr ⟨i, le_of_not_gt hi⟩

variable [Add Time] [IntCast Time]

theorem does_perform (h : Kept r) (event : Event Time) :
    ∃ s, Purges event r s ∧ Does event r s (perform r event).1 (next r event) := by
  obtain ⟨now, call⟩ := event
  cases call with
  | createPairingCode workspaceId ttlSeconds codes =>
      refine ⟨cleaned (now 0) r, .once, ?_⟩
      simp only [next, perform, createPairingCode]
      split
      · exact .returns
      · rename_i code hcode
        exact .creates workspaceId ttlSeconds codes code _ rfl rfl hcode
  | attachWorkspaceObserver workspaceId pairingCode websocket =>
      refine ⟨r, .nothing, ?_⟩
      simp only [next, perform, attachWorkspaceObserver]
      rcases requirePairing_cases (now 0) workspaceId pairingCode r with ⟨e, heq⟩ | ⟨e, heq⟩ | ⟨record, hget, -, -, heq⟩
      · rw [heq]
        exact .raises e
      · rw [heq]
        exact .drops e pairingCode
      · rw [heq]
        dsimp only
        split
        · exact .answersPairing record.pairing
        · exact .observes _ pairingCode record _ hget rfl rfl
  | detachWorkspaceObserver pairingCode websocket =>
      refine ⟨r, .nothing, ?_⟩
      simp only [next, perform, detachWorkspaceObserver]
      split
      · exact .returns
      · rename_i record hget
        exact .observes _ pairingCode record _ hget rfl rfl
  | connectSourceDevice workspaceId pairingCode declaration websocket draw =>
      simp only [next, perform, connectSourceDevice]
      rcases requirePairing_cases (now 0) workspaceId pairingCode (cleaned (now 0) r) with
        ⟨e, heq⟩ | ⟨e, heq⟩ | ⟨record, hget, hworkspace, hunexpired, heq⟩
      · rw [heq]
        exact ⟨cleaned (now 0) r, .once, .raises e⟩
      · rw [heq]
        exact ⟨cleaned (now 0) r, .once, .drops e pairingCode⟩
      · rw [heq]
        dsimp only
        split
        · exact ⟨cleaned (now 0) r, .once, .raises _⟩
        · rename_i hfree
          split
          · exact ⟨cleaned (now 1) (cleaned (now 0) r), .twice, .raises _⟩
          · rename_i hlimit
            exact ⟨cleaned (now 1) (cleaned (now 0) r), .twice,
              .connects workspaceId pairingCode declaration websocket draw record rfl rfl hget
                hworkspace hunexpired ((Bool.not_eq_true _).mp hfree) (Nat.lt_of_not_le hlimit)⟩
  | refreshSession sessionId =>
      refine ⟨r, .nothing, ?_⟩
      simp only [next, perform, refreshSession]
      split
      · exact .raises _
      · rename_i entry hget
        split
        · rename_i hexpired
          exact .expires _ sessionId entry hget hexpired
        · rename_i hlive
          exact .amends sessionId entry _ hget (lt_of_not_ge hlive) rfl rfl rfl
            (show DeviceBindingSessionState.active ∉ terminalStates by decide)
  | revokeSession workspaceId sessionId reason =>
      refine ⟨r, .nothing, ?_⟩
      simp only [next, perform, revokeSession]
      split
      · exact .raises _
      · rename_i entry hget
        split
        · exact .raises _
        · obtain rfl := h.named sessionId entry hget
          exact .removes entry _ hget rfl rfl
  | closeSession sessionId reason =>
      refine ⟨r, .nothing, ?_⟩
      simp only [next, perform, closeSession]
      split
      · exact .returns
      · rename_i entry hget
        obtain rfl := h.named sessionId entry hget
        exact .removes entry _ hget rfl rfl
  | listActiveSessions workspaceId =>
      refine ⟨cleaned (now 0) r, .once, .lists _ ?_⟩
      intro entry hmem
      obtain ⟨id, hget⟩ := mem_values_iff.mp (List.mem_of_mem_filter hmem)
      obtain rfl := (kept_cleaned h).named id entry hget
      exact ⟨hget, ((get_cleaned h).mp hget).2⟩
  | getActiveSession workspaceId sessionId =>
      refine ⟨cleaned (now 0) r, .once, ?_⟩
      simp only [next, perform]
      rcases getActiveSession_cases (now 0) workspaceId sessionId r with heq | ⟨entry, hget, -, -, heq⟩
      · rw [heq]
        exact .returns
      · rw [heq]
        obtain rfl := (kept_cleaned h).named sessionId entry hget
        exact .finds entry hget ((get_cleaned h).mp hget).2
  | attachLiveMediaSession workspaceId sessionId mediaSessionId state expiresAtEpoch =>
      refine ⟨cleaned (now 0) r, .once, ?_⟩
      simp only [next, perform, attachLiveMediaSession]
      rcases amendMedia_cases (now 0) workspaceId sessionId r with ⟨e, heq⟩ | ⟨entry, hget, -, hlisted, -, heq⟩
      · rw [heq]
        exact .raises e
      · rw [heq]
        exact .amends sessionId entry _ hget ((get_cleaned h).mp hget).2 rfl rfl rfl hlisted
  | detachLiveMediaSession workspaceId sessionId mediaSessionId =>
      refine ⟨cleaned (now 0) r, .once, ?_⟩
      simp only [next, perform, detachLiveMediaSession]
      rcases amendMedia_cases (now 0) workspaceId sessionId r with ⟨e, heq⟩ | ⟨entry, hget, -, hlisted, -, heq⟩
      · rw [heq]
        exact .raises e
      · rw [heq]
        exact .amends sessionId entry _ hget ((get_cleaned h).mp hget).2 rfl rfl rfl hlisted
  | updateLiveMediaReceiverState workspaceId sessionId mediaSessionId state metrics handoff =>
      refine ⟨cleaned (now 0) r, .once, ?_⟩
      simp only [next, perform, updateLiveMediaReceiverState]
      rcases amendMedia_cases (now 0) workspaceId sessionId r with ⟨e, heq⟩ | ⟨entry, hget, -, hlisted, -, heq⟩
      · rw [heq]
        exact .raises e
      · rw [heq]
        exact .amends sessionId entry _ hget ((get_cleaned h).mp hget).2 rfl rfl rfl hlisted
  | cleanupExpired => exact ⟨cleaned (now 0) r, .once, .returns⟩

/-! ### What a call keeps -/

theorem draw_ne_empty (draw : Draw) : draw.sessionId ≠ "" := by
  intro h
  have hchars := congrArg String.toList h
  rw [Draw.sessionId, String.toList_append] at hchars
  exact absurd (List.append_eq_nil_iff.mp hchars).1 (by decide)

omit [LinearOrder Time] [Add Time] [IntCast Time] in
theorem length_listed (h : Kept s) (workspaceId : String) :
    (s.sessions.values.filter fun entry => decide (entry.workspaceId = workspaceId) &&
        decide (entry.state ∉ terminalStates)).length =
      s.sessions.count (inWorkspace workspaceId) := by
  rw [← List.countP_eq_length_filter]
  refine List.countP_congr fun entry hmem => ?_
  obtain ⟨id, hget⟩ := mem_values_iff.mp hmem
  rw [decide_eq_true (h.listed id entry hget), Bool.and_true]
  rfl

theorem kept_does (h : Kept s) (hfresh : DrawsFresh s event) (hdoes : Does event r s answer s') :
    Kept s' := by
  cases hdoes with
  | raises => exact h
  | returns => exact h
  | lists => exact h
  | finds => exact h
  | drops => exact kept_of_sessions h rfl
  | answersPairing => exact h
  | observes => exact kept_of_sessions h rfl
  | creates => exact kept_of_sessions h rfl
  | connects workspaceId pairingCode declaration websocket draw record hcall hs hrecord hworkspace
      hunexpired hfree hlimit =>
      rw [length_listed h] at hlimit
      rw [DrawsFresh, hcall] at hfresh
      have hadded : Kept { s with
          sessions := s.sessions.set draw.sessionId
            (newEntry (event.now 0) workspaceId pairingCode declaration websocket draw) } :=
        kept_addSession h rfl (draw_ne_empty draw) hfresh
          (show DeviceBindingSessionState.paired ∉ terminalStates by decide) hlimit
      exact kept_of_sessions hadded sessions_consumePairing
  | amends id entry entry' hget hlive hid hworkspace hcode hlisted =>
      exact kept_setSession h hget hid hworkspace hlisted
  | expires => exact kept_removeSession h
  | removes => exact kept_removeSession h

theorem held_does (hkept : Kept r) (h : Held r) (hpurges : Purges event r s)
    (hfree : GeneratesFreeCode r event) (hdoes : Does event r s answer s') : Held s' := by
  have hs : Held s := held_purges h hpurges
  cases hdoes with
  | raises => exact hs
  | returns => exact hs
  | lists => exact hs
  | finds => exact hs
  | drops => exact held_popPairing hs
  | answersPairing => exact hs
  | observes answer code record record' hget hsame => exact held_setPairing hs hget hsame
  | creates workspaceId ttlSeconds codes code pairing hcall hcleaned hcode =>
      refine held_addPairing hs fun id entry hget => ?_
      rw [GeneratesFreeCode, hcall] at hfree
      subst hcleaned
      obtain ⟨hstored, hlive⟩ := (get_cleaned hkept).mp hget
      exact hfree code hcode entry (mem_values_iff.mpr ⟨id, hstored⟩) hlive
  | connects workspaceId pairingCode declaration websocket draw record hcall hcleaned hrecord
      hworkspace hunexpired hunconsumed =>
      show Held (consumePairing (newEntry (event.now 0) workspaceId pairingCode declaration
        websocket draw).pairingCode draw.sessionId _)
      refine held_addSession hs fun id found hget hcode => ?_
      subst hcleaned
      -- the record would be held by the other session
      have hfound : (cleaned (event.now 0) r).sessions.get id = some found :=
        ((get_cleaned (kept_cleaned hkept)).mp hget).1
      have hcode : found.pairingCode = pairingCode := hcode
      have hheld := (held_cleaned h).record id found record hfound (hcode ▸ hrecord)
      rw [PairingRecord.consumed, hheld] at hunconsumed
      exact of_decide_eq_false hunconsumed (ne_empty_of_get (kept_cleaned hkept) hfound)
  | amends id entry entry' hget hlive hid hworkspace hcode => exact held_setSession hs hget hcode
  | expires => exact held_removeSession hs
  | removes => exact held_removeSession hs

omit [Add Time] [IntCast Time] in
theorem drawsFresh_purges (h : Kept r) (hpurges : Purges event r s) (hfresh : DrawsFresh r event) :
    DrawsFresh s event := by
  rw [DrawsFresh] at hfresh ⊢
  split
  · rename_i draw hcall
    rw [hcall] at hfresh
    dsimp only at hfresh
    cases hget : s.sessions.get draw.sessionId with
    | none => rfl
    | some entry =>
        rw [get_of_purges h hpurges hget] at hfresh
        cases hfresh
  · trivial

theorem kept_next (h : Kept r) (hfresh : DrawsFresh r event) : Kept (next r event) := by
  obtain ⟨s, hpurges, hdoes⟩ := does_perform h event
  exact kept_does (kept_purges h hpurges) (drawsFresh_purges h hpurges hfresh) hdoes

theorem held_next (hkept : Kept r) (h : Held r) (hfree : GeneratesFreeCode r event) :
    Held (next r event) := by
  obtain ⟨s, hpurges, hdoes⟩ := does_perform hkept event
  exact held_does hkept h hpurges hfree hdoes

/-! ### What a call stores -/

/-- A session that is stored after a call was stored before it, and is the same unless it was
not expired; or the call connected it. -/
theorem get_of_next (h : Kept r) (hget : (next r event).sessions.get id = some entry) :
    (∃ old, r.sessions.get id = some old ∧
      (entry = old ∨ event.now 0 < old.expiresAtEpoch)) ∨
    ∃ declaration websocket draw record,
      event.call =
        .connectSourceDevice entry.workspaceId entry.pairingCode declaration websocket draw ∧
      id = draw.sessionId ∧ r.pairings.get entry.pairingCode = some record ∧
      record.pairing.workspaceId = entry.workspaceId ∧
      event.now 0 < record.pairing.expiresAtEpoch := by
  obtain ⟨s, hpurges, hdoes⟩ := does_perform h event
  have hkeeps : ∀ {found}, s.sessions.get id = some found → r.sessions.get id = some found :=
    fun hfound => get_of_purges h hpurges hfound
  generalize next r event = s' at hget hdoes
  generalize (perform r event).1 = answer at hdoes
  cases hdoes with
  | raises => exact .inl ⟨entry, hkeeps hget, .inl rfl⟩
  | returns => exact .inl ⟨entry, hkeeps hget, .inl rfl⟩
  | lists => exact .inl ⟨entry, hkeeps hget, .inl rfl⟩
  | finds => exact .inl ⟨entry, hkeeps hget, .inl rfl⟩
  | drops => exact .inl ⟨entry, hkeeps hget, .inl rfl⟩
  | answersPairing => exact .inl ⟨entry, hkeeps hget, .inl rfl⟩
  | observes => exact .inl ⟨entry, hkeeps hget, .inl rfl⟩
  | creates => exact .inl ⟨entry, hkeeps hget, .inl rfl⟩
  | connects workspaceId pairingCode declaration websocket draw record hcall hcleaned hrecord
      hworkspace hunexpired =>
      rw [sessions_consumePairing] at hget
      by_cases hid : id = draw.sessionId
      · rw [hid] at hget
        obtain rfl := Option.some.inj (get_set_self.symm.trans hget)
        obtain ⟨source, hsource, hsame⟩ := get_pairings_cleaned hrecord
        exact .inr ⟨declaration, websocket, draw, source, hcall, hid, hsource,
          hsame ▸ hworkspace, hsame ▸ hunexpired⟩
      · exact .inl ⟨entry, hkeeps ((get_set_of_ne hid).symm.trans hget), .inl rfl⟩
  | amends id' old entry' hold hlive =>
      by_cases hid : id = id'
      · subst hid
        exact .inl ⟨old, hkeeps hold, .inr hlive⟩
      · exact .inl ⟨entry, hkeeps ((get_set_of_ne hid).symm.trans hget), .inl rfl⟩
  | expires e id' old =>
      rw [removeSession, sessions_releasePairingSession] at hget
      exact .inl ⟨entry, hkeeps (get_pop_eq_some.mp hget).2, .inl rfl⟩
  | removes old =>
      rw [removeSession, sessions_releasePairingSession] at hget
      exact .inl ⟨entry, hkeeps (get_pop_eq_some.mp hget).2, .inl rfl⟩

theorem createsThroughCode (h : Kept r) : CreatesThroughCode r event := by
  intro id entry hget hnew
  rcases get_of_next h hget with ⟨old, hold, -⟩ | hcreated
  · rw [hnew] at hold
    cases hold
  · exact hcreated

theorem failureKeeps (h : Kept r) : FailureKeeps r event := by
  rintro ⟨e, hfailed⟩
  obtain ⟨s, hpurges, hdoes⟩ := does_perform h event
  rw [hfailed] at hdoes
  have hback : ∀ {id entry}, s.sessions.get id = some entry → r.sessions.get id = some entry :=
    fun hget => get_of_purges h hpurges hget
  have hforth : ∀ {id entry}, r.sessions.get id = some entry →
      s.sessions.get id = some entry ∨ ∃ i, entry.expiresAtEpoch ≤ event.now i :=
    fun hget => get_purges h hpurges hget
  generalize next r event = s' at hdoes ⊢
  cases hdoes with
  | raises => exact ⟨fun _ _ => hback, fun _ _ => hforth⟩
  | drops => exact ⟨fun _ _ => hback, fun _ _ => hforth⟩
  | observes => exact ⟨fun _ _ => hback, fun _ _ => hforth⟩
  | expires e id' old hold hexpired =>
      constructor
      · intro id entry hget
        rw [removeSession, sessions_releasePairingSession] at hget
        exact hback (get_pop_eq_some.mp hget).2
      · intro id entry hget
        rcases hforth hget with hstored | hover
        · by_cases hid : id = old.sessionId
          · have hsame : old.sessionId = id' := (kept_purges h hpurges).named id' old hold
            rw [hid, hsame, hold] at hstored
            exact .inr ⟨0, Option.some.inj hstored ▸ hexpired⟩
          · refine .inl ?_
            rw [removeSession, sessions_releasePairingSession]
            exact get_pop_eq_some.mpr ⟨hid, hstored⟩
        · exact .inr hover

/-! ### Sessions that are over -/

/-- No session under the id is alive at `t`. -/
def Over (r : Registry Time) (id : String) (t : Time) : Prop :=
  ∀ entry, r.sessions.get id = some entry → entry.expiresAtEpoch ≤ t

variable {t : Time}

theorem over_next (h : Kept r) (hover : Over r id t) (ht : t ≤ event.now 0)
    (hdrawn : event.newId ≠ some id) :
    Over (next r event) id t := by
  intro entry hget
  rcases get_of_next h hget with ⟨old, hold, rfl | hlive⟩ |
    ⟨declaration, websocket, draw, record, hcall, hid, -⟩
  · exact hover entry hold
  · exact absurd hlive (not_lt_of_ge ((hover old hold).trans ht))
  · refine absurd ?_ hdrawn
    rw [Event.newId, Event.drawn, hcall, hid]
    rfl

theorem not_serves_of_over (h : Kept r) (hover : Over r id t) (ht : t ≤ event.now 0)
    (hdrawn : event.newId ≠ some id) :
    ¬ Serves r event id := by
  rintro ⟨hcall, hmem⟩
  obtain ⟨s, hpurges, hdoes⟩ := does_perform h event
  have hdead : ∀ {entry}, s.sessions.get id = some entry →
      ¬ event.now 0 < entry.expiresAtEpoch := fun hget =>
    not_lt_of_ge ((hover _ (get_of_purges h hpurges hget)).trans ht)
  generalize (perform r event).1 = answer at hdoes hmem
  generalize next r event = s' at hdoes
  cases hdoes with
  | raises => cases hmem
  | returns => cases hmem
  | lists entries hentries =>
      obtain ⟨entry, hentry, rfl⟩ := List.mem_map.mp hmem
      obtain ⟨hget, hlive⟩ := hentries entry hentry
      exact hdead hget hlive
  | finds entry hget hlive =>
      obtain rfl := List.mem_singleton.mp hmem
      exact hdead hget hlive
  | drops => cases hmem
  | answersPairing => cases hmem
  | observes answer code record record' hget hsame hanswer =>
      rw [hanswer] at hmem
      cases hmem
  | creates => cases hmem
  | connects workspaceId pairingCode declaration websocket draw record hconnect =>
      refine absurd ?_ hdrawn
      rw [Event.newId, Event.drawn, hconnect, List.mem_singleton.mp hmem]
      rfl
  | amends id' entry entry' hget hlive hid =>
      obtain rfl := List.mem_singleton.mp hmem
      rw [hid, (kept_purges h hpurges).named id' entry hget] at hdead
      exact hdead hget hlive
  | expires => cases hmem
  | removes entry entry' hget hid hremoves =>
      rw [hcall] at hremoves
      cases hremoves

theorem removed_of_removes (h : Kept r) (hcall : event.call.removes = true)
    (hmem : id ∈ (perform r event).1.sessionIds) :
    (r.sessions.get id).isSome ∧ (next r event).sessions.get id = none := by
  have hremoved : ∀ {sessionId} {found : Entry Time}, r.sessions.get sessionId = some found →
      id = found.sessionId → (r.sessions.get id).isSome ∧
        (releasePairingSession found.pairingCode found.sessionId
          { r with sessions := r.sessions.pop sessionId }).sessions.get id = none := by
    intro sessionId found hget hid
    rw [hid, h.named sessionId found hget, sessions_releasePairingSession, hget]
    exact ⟨rfl, get_pop_self⟩
  obtain ⟨now, call⟩ := event
  cases call with
  | revokeSession workspaceId sessionId reason =>
      simp only [next, perform, revokeSession] at hmem ⊢
      split at hmem
      · cases hmem
      · rename_i found hget
        split at hmem
        · cases hmem
        · rename_i hworkspace
          rw [if_neg hworkspace]
          exact hremoved hget (List.mem_singleton.mp hmem)
  | closeSession sessionId reason =>
      simp only [next, perform, closeSession] at hmem ⊢
      split at hmem
      · cases hmem
      · rename_i found hget
        exact hremoved hget (List.mem_singleton.mp hmem)
  | _ => cases hcall

theorem over_of_ended (h : Kept r) (hfresh : DrawsFresh r event) (hended : Ended r event id) :
    (r.sessions.get id).isSome ∧ Over (next r event) id (event.now 0) := by
  have hnone : (next r event).sessions.get id = none → Over (next r event) id (event.now 0) := by
    intro hnone entry hget
    rw [hnone] at hget
    cases hget
  rcases hended with ⟨hcall, hmem⟩ | ⟨entry, hget, hexpired⟩ | ⟨hsome, hremoved⟩
  · obtain ⟨hsome, hremoved⟩ := removed_of_removes h hcall hmem
    exact ⟨hsome, hnone hremoved⟩
  · refine ⟨Option.isSome_iff_exists.mpr ⟨entry, hget⟩, fun found hfound => ?_⟩
    rcases get_of_next h hfound with ⟨old, hold, hsame⟩ |
      ⟨declaration, websocket, draw, record, hcall, hid, -⟩
    · rw [hget] at hold
      obtain rfl := Option.some.inj hold
      rcases hsame with rfl | hlive
      · exact hexpired
      · exact absurd hlive (not_lt_of_ge hexpired)
    · rw [DrawsFresh, hcall] at hfresh
      dsimp only at hfresh
      rw [← hid, hget] at hfresh
      cases hfresh
  · exact ⟨hsome, hnone hremoved⟩

/-! ### Runs -/

abbrev registryAfter (events : List (Event Time)) : Registry Time :=
  Trace.stateAfter next .empty events

omit [LinearOrder Time] [Add Time] [IntCast Time] in
theorem nodup_newIds {events : List (Event Time)} (h : (draws events).Nodup) :
    (events.filterMap Event.newId).Nodup := by
  have hmap : events.filterMap Event.newId = (draws events).map ("device_session_" ++ ·) :=
    List.map_filterMap.symm
  rw [hmap]
  exact h.map fun _ _ hsame => (String.append_right_inj _).mp hsame

theorem drawsIds : FreshIds.DrawsIds (next : Registry Time → Event Time → Registry Time) Stored Event.newId Kept where
  keeps r event h hfresh := by
    refine kept_next h ?_
    rw [DrawsFresh]
    split
    · rename_i draw hcall
      refine Option.not_isSome_iff_eq_none.mp (hfresh draw.sessionId ?_)
      rw [Event.newId, Event.drawn, hcall]
      rfl
    · trivial
  stores r event id h hstored := by
    obtain ⟨entry, hget⟩ := Option.isSome_iff_exists.mp hstored
    rcases get_of_next h hget with ⟨old, hold, -⟩ |
      ⟨declaration, websocket, draw, record, hcall, rfl, -⟩
    · exact .inl (Option.isSome_iff_exists.mpr ⟨old, hold⟩)
    · refine .inr ?_
      rw [Event.newId, Event.drawn, hcall]
      rfl

omit [LinearOrder Time] [Add Time] [IntCast Time] in
theorem not_stored_empty (id : String) : ¬ Stored (.empty : Registry Time) id :=
  Bool.false_ne_true

theorem kept_registryAfter {events : List (Event Time)} (h : (draws events).Nodup) :
    Kept (registryAfter events) :=
  (FreshIds.invariant_and_drawn drawsIds kept_empty not_stored_empty (nodup_newIds h)).1

theorem drawsFresh_registryAfter {before rest : List (Event Time)}
    (h : (draws (before ++ event :: rest)).Nodup) : DrawsFresh (registryAfter before) event := by
  rw [DrawsFresh]
  split
  · rename_i draw hcall
    refine Option.not_isSome_iff_eq_none.mp (FreshIds.not_stored_of_drawn drawsIds kept_empty
      not_stored_empty (nodup_newIds h) ?_)
    rw [Event.newId, Event.drawn, hcall]
    rfl
  · trivial

theorem held_registryAfter {events : List (Event Time)} (h : (draws events).Nodup)
    (hfree : Trace.Along next GeneratesFreeCode .empty events) : Held (registryAfter events) := by
  induction events using List.reverseRecOn with
  | nil => exact held_empty
  | append_singleton events event ih =>
      obtain ⟨hbefore, hevent⟩ := (Trace.along_append_singleton next).mp hfree
      have hdraws : (draws events).Nodup := FreshIds.nodup_before h
      rw [registryAfter, Trace.stateAfter_append_singleton]
      exact held_next (kept_registryAfter hdraws) (ih hdraws hbefore) hevent

theorem over_registryAfter {before later rest : List (Event Time)}
    (hclock : Clocked (before ++ event :: (later ++ rest)))
    (hdraws : (draws (before ++ event :: (later ++ rest))).Nodup)
    (hended : Ended (registryAfter before) event id) :
    id ∈ (before ++ [event]).filterMap Event.newId ∧
      Over (registryAfter (before ++ event :: later)) id (event.now 0) := by
  have hlist : before ++ event :: (later ++ rest) = (before ++ [event] ++ later) ++ rest := by
    rw [List.append_assoc, List.append_assoc]
    rfl
  have hnew : ((before ++ [event] ++ later).filterMap Event.newId).Nodup := by
    rw [hlist] at hdraws
    exact nodup_newIds (FreshIds.nodup_before hdraws)
  have hkept : Kept (registryAfter before) := kept_registryAfter (FreshIds.nodup_before hdraws)
  obtain ⟨hstored, hover⟩ := over_of_ended hkept (drawsFresh_registryAfter hdraws) hended
  have hused : id ∈ (before ++ [event]).filterMap Event.newId := by
    rw [List.filterMap_append]
    refine List.mem_append_left _ ?_
    exact (FreshIds.invariant_and_drawn drawsIds kept_empty not_stored_empty
      (FreshIds.nodup_before (FreshIds.nodup_before hnew))).2 id hstored
  refine ⟨hused, ?_⟩
  have hlater : ∀ other ∈ later, event.now 0 ≤ other.now 0 := fun other hother =>
    (List.pairwise_cons.mp (List.pairwise_append.mp hclock).2.1).1 other
      (List.mem_append_left _ hother) 0 0
  have hrun := FreshIds.kept_later (P := fun s => Over s id (event.now 0)) drawsIds kept_empty
    not_stored_empty hnew hused
    (fun s other hother hs hdrawn hold => over_next hs hold (hlater other hother) hdrawn)
    (by rw [Trace.stateAfter_append_singleton]; exact hover)
  rw [List.append_assoc] at hrun
  exact hrun

/-- In a run whose clock does not go back and whose draws for session ids do not repeat, a
workspace never has more than three unexpired sessions, a session is created only through an
unexpired code of its workspace, a call that fails takes expired sessions away only, and a
session that was revoked, closed or expired is not served again. Where no pairing code of an
unexpired session is generated anew, no two unexpired sessions have one code. -/
theorem bindings_exclusive (events : List (Event Time)) (hclock : Clocked events)
    (hdraws : (draws events).Nodup) :
    (∀ before rest, events = before ++ rest → ∀ now workspaceId,
      (registryAfter before).sessions.count
        (fun entry => unexpired now entry && inWorkspace workspaceId entry) ≤ 3) ∧
    (∀ before event rest, events = before ++ event :: rest →
      CreatesThroughCode (registryAfter before) event ∧
        FailureKeeps (registryAfter before) event) ∧
    (∀ before event later other rest, events = before ++ event :: (later ++ other :: rest) →
      ∀ id, Ended (registryAfter before) event id →
        ¬ Serves (registryAfter (before ++ event :: later)) other id) ∧
    (Trace.Along next GeneratesFreeCode .empty events →
      ∀ before rest, events = before ++ rest → ∀ now code,
        (registryAfter before).sessions.count
          (fun entry => unexpired now entry && decide (entry.pairingCode = code)) ≤ 1) := by
  refine ⟨?_, ?_, ?_, ?_⟩
  · rintro before rest rfl now workspaceId
    refine Nat.le_trans (List.countP_mono_left fun entry _ hentry => ?_)
      ((kept_registryAfter (FreshIds.nodup_before hdraws)).limit workspaceId)
    exact (Bool.and_eq_true_iff.mp hentry).2
  · rintro before event rest rfl
    have hkept : Kept (registryAfter before) := kept_registryAfter (FreshIds.nodup_before hdraws)
    exact ⟨createsThroughCode hkept, failureKeeps hkept⟩
  · rintro before event later other rest rfl id hended
    obtain ⟨hused, hover⟩ := over_registryAfter hclock hdraws hended
    have hsplit : before ++ event :: (later ++ other :: rest) =
        (before ++ event :: later) ++ other :: rest := by
      rw [List.append_assoc]
      rfl
    have hordered : event.now 0 ≤ other.now 0 :=
      (List.pairwise_cons.mp (List.pairwise_append.mp hclock).2.1).1 other
        (List.mem_append_right _ List.mem_cons_self) 0 0
    rw [hsplit] at hdraws
    refine not_serves_of_over (kept_registryAfter (FreshIds.nodup_before hdraws)) hover hordered ?_
    refine FreshIds.not_drawn_later (nodup_newIds hdraws) ?_ other List.mem_cons_self
    have hregrouped : before ++ event :: later = (before ++ [event]) ++ later := by
      rw [List.append_assoc]
      rfl
    rw [hregrouped, List.filterMap_append]
    exact List.mem_append_left _ hused
  · rintro hfree before rest rfl now code
    have hheld : Held (registryAfter before) :=
      held_registryAfter (FreshIds.nodup_before hdraws) (Trace.along_append.mp hfree).1
    refine count_le_one fun id id' entry entry' hget hget' hentry hentry' => ?_
    refine hheld.once id id' entry entry' hget hget' ?_
    rw [of_decide_eq_true (Bool.and_eq_true_iff.mp hentry).2,
      of_decide_eq_true (Bool.and_eq_true_iff.mp hentry').2]

end

section Sample

def timed (calls : List (ℤ × Call ℤ)) : List (Event ℤ) :=
  calls.map fun call => ⟨fun _ => call.1, call.2⟩

theorem clocked_timed {calls : List (ℤ × Call ℤ)}
    (h : (calls.map Prod.fst).Pairwise fun t later => t ≤ later) : Clocked (timed calls) := by
  refine List.pairwise_map.mpr ((List.pairwise_map.mp h).imp fun hle i j => ?_)
  exact hle

instance (r : Registry ℤ) (event : Event ℤ) : Decidable (GeneratesFreeCode r event) :=
  match event with
  | ⟨now, .createPairingCode _ _ codes⟩ =>
      inferInstanceAs (Decidable (∀ code ∈ generatePairingCode codes (cleaned (now 0) r),
        ∀ entry ∈ r.sessions.values, now 0 < entry.expiresAtEpoch → entry.pairingCode ≠ code))
  | ⟨_, .attachWorkspaceObserver ..⟩ => .isTrue trivial
  | ⟨_, .detachWorkspaceObserver ..⟩ => .isTrue trivial
  | ⟨_, .connectSourceDevice ..⟩ => .isTrue trivial
  | ⟨_, .refreshSession ..⟩ => .isTrue trivial
  | ⟨_, .revokeSession ..⟩ => .isTrue trivial
  | ⟨_, .closeSession ..⟩ => .isTrue trivial
  | ⟨_, .listActiveSessions ..⟩ => .isTrue trivial
  | ⟨_, .getActiveSession ..⟩ => .isTrue trivial
  | ⟨_, .attachLiveMediaSession ..⟩ => .isTrue trivial
  | ⟨_, .detachLiveMediaSession ..⟩ => .isTrue trivial
  | ⟨_, .updateLiveMediaReceiverState ..⟩ => .isTrue trivial
  | ⟨_, .cleanupExpired⟩ => .isTrue trivial

def sampleDeclaration : DeviceCapabilityDeclaration where
  deviceId := some "phone"
  displayName := none
  sourceTypes := [.phoneCamera]
  metadata := []

def connected : List (ℤ × Call ℤ) :=
  [(0, .createPairingCode "w" none ["AAAAAAAA"]),
    (10, .connectSourceDevice "w" "AAAAAAAA" sampleDeclaration 1 ⟨"1", "d"⟩),
    (100, .refreshSession "device_session_1")]

/-- An observer asks for the expired code, the code is generated anew, and a second device
connects with it. -/
def reused : List (ℤ × Call ℤ) :=
  connected ++
    [(130, .attachWorkspaceObserver "w" "AAAAAAAA" 2),
      (131, .createPairingCode "w" none ["AAAAAAAA"]),
      (132, .connectSourceDevice "w" "AAAAAAAA" sampleDeclaration 3 ⟨"2", "d"⟩)]

/-- The code of the session that is still alive then has two sessions. -/
theorem reused_code_two_sessions : Clocked (timed reused) ∧ (draws (timed reused)).Nodup ∧
    ¬ (registryAfter (timed reused)).sessions.count
      (fun entry => unexpired 132 entry && decide (entry.pairingCode = "AAAAAAAA")) ≤ 1 :=
  ⟨clocked_timed (by decide), by decide, by decide +kernel⟩

theorem bindings_exclusive_connected : (registryAfter (timed connected)).sessions.count
    (fun entry => unexpired 100 entry && decide (entry.pairingCode = "AAAAAAAA")) ≤ 1 := by
  have hexclusive := bindings_exclusive (timed connected) (clocked_timed (by decide)) (by decide)
  have hfree : Trace.Along next GeneratesFreeCode .empty (timed connected) := by decide +kernel
  exact hexclusive.2.2.2 hfree _ [] (List.append_nil _).symm 100 "AAAAAAAA"

end Sample

end MindscapeLocalCore.DeviceBinding.BindingRuns
