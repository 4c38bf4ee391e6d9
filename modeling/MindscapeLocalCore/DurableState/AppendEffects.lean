import MindscapeLocalCore.DurableState.FacadeAppend

/-!
What a successful append does to the ledger: to the view of its own workflow, and
nothing to the view of any other.
-/

namespace MindscapeLocalCore.DurableState.AppendEffects

open Library.Guarded Library.Json Library.Table CanonicalJson Errors Events FacadeAppend Records
open Records.Ledger Reducers Repository Transitions

/-! ## The three writes -/

theorem requireCapacity_eq_ok {locked : InstanceRow} {eventType : EventType}
    {canonicalBytes : Nat} :
    requireCapacity locked eventType canonicalBytes = .ok () ↔
      (eventType ≠ .segmentRollover →
        locked.eventCount < maxSegmentEvents - 1 ∧
          locked.canonicalEventBytes + canonicalBytes ≤ maxSegmentBytes - 16384) ∧
      (eventType = .segmentRollover →
        locked.canonicalEventBytes + canonicalBytes ≤ maxSegmentBytes) := by
  simp only [requireCapacity, bind_eq_ok, exists_unit, require_eq_ok]
  grind

theorem insertEvent_eq_ok {L L' : Ledger} {e : EventRow}
    (h : insertEvent L e = .ok L') :
    findIdempotentEvent L e.workflowId e.idempotencyKey = none ∧
      L'.instances = L.instances ∧ L'.events = L.events ++ [e] ∧
      L'.projections = L.projections := by
  simp only [insertEvent, bind_eq_ok, exists_unit, constrain_eq_ok, Except.ok.injEq] at h
  obtain ⟨-, -, hkey, -, -, -, -, -, -, -, rfl⟩ := h
  exact ⟨hkey, rfl, rfl, rfl⟩

theorem advanceInstance_eq_ok {L L' : Ledger} {w : String} {locked : InstanceRow}
    (hrow : L.row? w = some locked) {eventHash : String} {eventBytes : Nat}
    {currentState : State} {terminal : Bool} {deadline : Option Timestamp}
    {cancellationState : Option String}
    (h : advanceInstance L w locked.currentSequence eventHash eventBytes
      currentState terminal deadline cancellationState = .ok L') :
    L'.instances = amend InstanceRow.workflowId w
        (fun row => advancedRow row eventHash eventBytes currentState terminal
          deadline cancellationState) L.instances ∧
      L'.events = L.events ∧ L'.projections = L.projections := by
  simp only [advanceInstance, hrow, if_true, bind_eq_ok, exists_unit, constrain_eq_ok,
    Except.ok.injEq] at h
  obtain ⟨-, -, rfl⟩ := h
  exact ⟨rfl, rfl, rfl⟩

theorem row?_of_amended {L L' : Ledger} {w : String} {f : InstanceRow → InstanceRow}
    (h : L'.instances = amend InstanceRow.workflowId w f L.instances)
    (hf : ∀ row, (f row).workflowId = row.workflowId) (w' : String) :
    L'.row? w' = if w' = w then (L.row? w).map f else L.row? w' := by
  unfold row?
  rw [h]
  exact lookup_amend f fun row hrow => (hf row).trans hrow

theorem eventsOf_of_appended {L L' : Ledger} {e : EventRow}
    (h : L'.events = L.events ++ [e]) (w : String) :
    L'.eventsOf w = L.eventsOf w ++ (if e.workflowId = w then [e] else []) := by
  unfold eventsOf
  rw [h]
  exact select_append_singleton

theorem upsertProjection_eq_ok {L L' : Ledger} {p : ProjectionRow}
    (h : upsertProjection L p = .ok L')
    (hnext : ∀ stored, L.projection? p.workflowId = some stored →
      stored.lastSequence + 1 = p.lastSequence) :
    L'.instances = L.instances ∧ L'.events = L.events ∧
      ∀ w, L'.projection? w =
        if w = p.workflowId then some p else L.projection? w := by
  simp only [upsertProjection, readProjection, bind_eq_ok, exists_unit, constrain_eq_ok] at h
  obtain ⟨-, h⟩ := h
  split at h
  · rename_i hnone
    cases h
    refine ⟨rfl, rfl, fun w => ?_⟩
    change lookup _ w (L.projections ++ [p]) = _
    rw [lookup_append_singleton]
    by_cases hw : w = p.workflowId
    · subst hw
      change (L.projection? _).or _ = _
      simp [hnone]
    · have hne : ¬ p.workflowId = w := fun h => hw h.symm
      simp [hw, hne, projection?]
  · rename_i stored hstored
    rw [if_pos (hnext stored hstored)] at h
    cases h
    refine ⟨rfl, rfl, fun w => ?_⟩
    change lookup _ w (amend _ _ _ _) = _
    rw [lookup_amend _ fun _ _ => rfl]
    split
    · change (L.projection? p.workflowId).map _ = _
      rw [hstored]
      rfl
    · rfl

/-! ## The append as a whole -/

def appendedRow (locked : InstanceRow) (append : Append) (event : EventRow)
    (deadline : Option Timestamp) : InstanceRow :=
  advancedRow locked event.eventHash event.canonicalBytes
    (append.currentState.getD locked.currentState)
    (append.terminal.getD locked.terminal) deadline
    (append.cancellationState.or locked.cancellationState)

/-- One event was appended to a workflow, as `append` describes it. -/
structure AppendedTo (world : World) (idempotencyKey : String) (actor : Dict)
    (locked : InstanceRow) (append : Append) (event : EventRow) (V V' : View) :
    Prop where
  row : V.row = some locked
  nonterminal : locked.terminal = false
  fresh : lookup EventRow.idempotencyKey idempotencyKey V.events = none
  isSealed : Sealed world locked event
  eventType : event.eventType = append.eventType
  payload : event.payload = append.payload
  actor : event.actor = actor
  idempotencyKey : event.idempotencyKey = idempotencyKey
  capacity : requireCapacity locked append.eventType event.canonicalBytes = .ok ()
  events : V'.events = V.events ++ [event]
  advanced : ∃ deadline, bindTimestamp world append.nextDurableDeadline =
      .ok deadline ∧ V'.row = some (appendedRow locked append event deadline)
  projected : ∃ prior state stateHash, priorState V.projection locked = .ok prior ∧
    reduceV1 world prior event = .ok state ∧
    sha256Hex world (.obj state) = .ok stateHash ∧
    V'.projection = some ⟨locked.workflowId, event.sequence,
      locked.reducerVersion, stateHash, state⟩

/-- One event was appended to the workflow of `locked`, and no other workflow
changed. -/
structure Appended (world : World) (idempotencyKey : String) (actor : Dict)
    (locked : InstanceRow) (append : Append) (event : EventRow) (L L' : Ledger) :
    Prop where
  own : AppendedTo world idempotencyKey actor locked append event
    (L.view locked.workflowId) (L'.view locked.workflowId)
  frame : ∀ w, w ≠ locked.workflowId → L'.view w = L.view w

theorem lastSequence_of_priorState {stored : Option ProjectionRow}
    {locked : InstanceRow} {prior : Dict}
    (h : priorState stored locked = .ok prior) :
    ∀ p, stored = some p → p.lastSequence = locked.currentSequence := by
  rintro p rfl
  simp only [priorState, bind_eq_ok, exists_unit, require_eq_ok] at h
  exact h.1

theorem workflowId_of_row? {L : Ledger} {w : String} {row : InstanceRow}
    (h : L.row? w = some row) : row.workflowId = w := key_of_lookup h

theorem storeEvent_eq_ok {world : World} {locked : InstanceRow} {append : Append}
    {stored : EventRow} {L L' : Ledger}
    (hrow : L.row? locked.workflowId = some locked)
    (hsealed : Sealed world locked stored)
    (h : storeEvent world locked append stored L = .ok L') :
    findIdempotentEvent L locked.workflowId stored.idempotencyKey = none ∧
      ∃ deadline prior state stateHash,
        bindTimestamp world append.nextDurableDeadline = .ok deadline ∧
        priorState (L.projection? locked.workflowId) locked = .ok prior ∧
        reduceV1 world prior stored = .ok state ∧
        sha256Hex world (.obj state) = .ok stateHash ∧
        L'.view locked.workflowId =
          ⟨some (appendedRow locked append stored deadline),
            L.eventsOf locked.workflowId ++ [stored],
            some ⟨locked.workflowId, stored.sequence, locked.reducerVersion,
              stateHash, state⟩⟩ ∧
        ∀ w, w ≠ locked.workflowId → L'.view w = L.view w := by
  simp only [storeEvent, bind_eq_ok, check_eq_ok] at h
  obtain ⟨L₁, hinsert, deadline, hdeadline, L₂, hadvance, prior, hprior,
    projected, hproject, hupsert⟩ := h
  simp only [project, bind_eq_ok, pure_eq_ok, Except.ok.injEq] at hproject
  obtain ⟨state, hreduce, stateHash, hhash, rfl⟩ := hproject
  obtain ⟨hfresh, hinstances₁, hevents₁, hprojections₁⟩ := insertEvent_eq_ok hinsert
  rw [hsealed.workflowId] at hfresh
  have hrow₁ : L₁.row? locked.workflowId = some locked := by
    unfold row? at hrow ⊢
    rwa [hinstances₁]
  obtain ⟨hinstances₂, hevents₂, hprojections₂⟩ :=
    advanceInstance_eq_ok hrow₁ hadvance
  have hprojection₂ : ∀ w, L₂.projection? w = L.projection? w := by
    intro w
    unfold projection?
    rw [hprojections₂, hprojections₁]
  have hprior' : priorState (L.projection? locked.workflowId) locked = .ok prior := by
    rw [← hprojection₂]
    exact hprior
  obtain ⟨hinstances₃, hevents₃, hprojection₃⟩ := upsertProjection_eq_ok hupsert
    fun p hp => by
      rw [lastSequence_of_priorState hprior p hp, hsealed.sequence]
  have hrow' : ∀ w, L'.row? w = if w = locked.workflowId then
      some (appendedRow locked append stored deadline) else L.row? w := by
    intro w
    have hamended := row?_of_amended (hinstances₃.trans hinstances₂)
      (fun _ => rfl) w
    rw [hamended, hrow₁]
    unfold row?
    rw [hinstances₁]
    rfl
  have hevents' : ∀ w, L'.eventsOf w = L.eventsOf w ++
      (if locked.workflowId = w then [stored] else []) := by
    intro w
    rw [← hsealed.workflowId]
    exact eventsOf_of_appended ((hevents₃.trans hevents₂).trans hevents₁) w
  have hprojection' : ∀ w, L'.projection? w = if w = locked.workflowId then
      some ⟨locked.workflowId, stored.sequence, locked.reducerVersion, stateHash,
        state⟩ else L.projection? w := by
    intro w
    rw [hprojection₃, hprojection₂]
  refine ⟨hfresh, deadline, prior, state, stateHash, hdeadline, hprior', hreduce,
    hhash, ?_, fun w hw => ?_⟩
  · simp only [view, hrow', hevents', hprojection', if_true]
  · have hne : ¬ locked.workflowId = w := fun heq => hw heq.symm
    simp only [view, hrow', hevents', hprojection', hw, hne, if_false,
      List.append_nil]

theorem appended_of_appendFresh {world : World} {facade : Facade} {draw : Draw}
    {locked : InstanceRow} {key : String} {actor : Dict} {append : Append}
    {L L' : Ledger} {event : EventRow}
    (hrow : L.row? locked.workflowId = some locked)
    (hterminal : locked.terminal = false)
    (h : appendFresh world facade draw locked key actor append L =
      .ok (event, L')) :
    Appended world key actor locked append event L L' := by
  simp only [appendFresh, bind_eq_ok, exists_unit, check_eq_ok, pure_eq_ok, Except.ok.injEq,
    Prod.mk.injEq] at h
  obtain ⟨signed, hsigned, hcapacity, -, timerId, -, externalMessageId, -, L₁,
    hstore, rfl, rfl⟩ := h
  obtain ⟨hsealed, htype, hactor, hpayload⟩ :=
    sealed_of_buildSignedEvent hsigned key timerId externalMessageId
  obtain ⟨hfresh, deadline, prior, state, stateHash, hdeadline, hprior, hreduce,
    hhash, hview, hframe⟩ := storeEvent_eq_ok hrow hsealed hstore
  refine ⟨?_, hframe⟩
  rw [hview]
  exact
    { row := hrow
      nonterminal := hterminal
      fresh := hfresh
      isSealed := hsealed
      eventType := htype
      payload := hpayload
      actor := hactor
      idempotencyKey := rfl
      capacity := hcapacity
      events := rfl
      advanced := ⟨deadline, hdeadline, rfl⟩
      projected := ⟨prior, state, stateHash, hprior, hreduce, hhash, rfl⟩ }

/-- The event that an earlier call stored under the key is returned as it is. -/
structure Repeated (world : World) (append : Append) (key : String)
    (locked : InstanceRow) (event : EventRow) (L L' : Ledger) : Prop where
  same : L' = L
  stored : findIdempotentEvent L locked.workflowId key = some event
  eventType : event.eventType = append.eventType
  payloadSha256 : sha256Hex world (.obj append.payload) = .ok event.payloadSha256

theorem appendLocked_eq_ok {world : World} {facade : Facade} {draw : Draw}
    {locked : InstanceRow} {key : String} {actor : Dict} {append : Append}
    {L L' : Ledger} {event : EventRow}
    (hrow : L.row? locked.workflowId = some locked)
    (h : appendLocked world facade draw locked key actor append L =
      .ok (event, L')) :
    locked.terminal = false ∧
      (Repeated world append key locked event L L' ∨
        Appended world key actor locked append event L L') := by
  simp only [appendLocked, bind_eq_ok, exists_unit, require_eq_ok, check_eq_ok] at h
  obtain ⟨hterminal, digest, hdigest, h⟩ := h
  refine ⟨hterminal, ?_⟩
  split at h
  · rename_i prior hprior
    simp only [bind_eq_ok, exists_unit, require_eq_ok, pure_eq_ok, Except.ok.injEq,
      Prod.mk.injEq] at h
    obtain ⟨⟨htype, hhash⟩, rfl, rfl⟩ := h
    exact .inl ⟨rfl, hprior, htype, by rw [hhash]; exact hdigest⟩
  · exact .inr (appended_of_appendFresh hrow hterminal h)

/-! ## Seams -/

theorem beginAppend_eq_ok {L : Ledger} {w key : String} {expected : Int}
    {isRetryOf : EventRow → Bool} {locked : InstanceRow} {retry : Option EventRow} :
    beginAppend L w expected key isRetryOf = .ok (locked, retry) ↔
      L.row? w = some locked ∧
        (((locked.currentSequence : Int) = expected ∧ retry = none) ∨
          ((locked.currentSequence : Int) ≠ expected ∧ ∃ prior,
            findIdempotentEvent L w key = some prior ∧ isRetryOf prior = true ∧
              retry = some prior)) := by
  simp only [beginAppend, bind_eq_ok, check_eq_ok, lockInstance_eq_ok]
  constructor
  · rintro ⟨row, hrow, h⟩
    by_cases hseq : (row.currentSequence : Int) = expected
    · simp only [hseq, if_true, Except.ok.injEq, Prod.mk.injEq] at h
      obtain ⟨rfl, rfl⟩ := h
      exact ⟨hrow, .inl ⟨hseq, rfl⟩⟩
    · simp only [hseq, if_false] at h
      split at h
      · rename_i prior hprior
        split at h
        · rename_i hretry
          simp only [Except.ok.injEq, Prod.mk.injEq] at h
          obtain ⟨rfl, rfl⟩ := h
          exact ⟨hrow, .inr ⟨hseq, prior, hprior, hretry, rfl⟩⟩
        · cases h
      · cases h
  · rintro ⟨hrow, ⟨hseq, rfl⟩ | ⟨hseq, prior, hprior, hretry, rfl⟩⟩
    · exact ⟨locked, hrow, by simp [hseq]⟩
    · exact ⟨locked, hrow, by simp [hseq, hprior, hretry]⟩

inductive Seam.Outcome (seam : Seam) (world : World) (facade : Facade) (draw : Draw)
    (event : EventRow) (L L' : Ledger) : Prop where
  | retried (locked : InstanceRow) (hrow : L.row? seam.workflowId = some locked)
      (hseq : (locked.currentSequence : Int) ≠ seam.expectedSequence)
      (hkind : seam.kindCheck locked = .ok ())
      (hprior : findIdempotentEvent L seam.workflowId seam.idempotencyKey =
        some event)
      (hretry : seam.isRetryOf event = true) (hsame : L' = L)
  | planned (locked : InstanceRow) (append : Append) (L₁ : Ledger)
      (hrow : L.row? seam.workflowId = some locked)
      (hseq : (locked.currentSequence : Int) = seam.expectedSequence)
      (hkind : seam.kindCheck locked = .ok ())
      (hplan : seam.plan L locked = .ok append)
      (happend : appendLocked world facade draw locked seam.idempotencyKey
        seam.actor append L = .ok (event, L₁))
      (hafter : seam.after L₁ = .ok L')

theorem Seam.run_eq_ok {seam : Seam} {world : World} {facade : Facade}
    {draw : Draw} {L L' : Ledger} {event : EventRow} :
    seam.run world facade draw L = .ok (event, L') ↔
      seam.precheck L = .ok () ∧
        Seam.Outcome seam world facade draw event L L' := by
  simp only [FacadeAppend.Seam.run, bind_eq_ok, exists_unit, check_eq_ok]
  constructor
  · rintro ⟨hprecheck, ⟨locked, retry⟩, hbegin, hkind, h⟩
    refine ⟨hprecheck, ?_⟩
    obtain ⟨hrow, ⟨hseq, rfl⟩ | ⟨hseq, prior, hprior, hretry, rfl⟩⟩ :=
      beginAppend_eq_ok.mp hbegin
    · simp only [bind_eq_ok] at h
      obtain ⟨append, hplan, ⟨event', L₁⟩, happend, L₂, hafter, h⟩ := h
      cases h
      exact .planned locked append L₁ hrow hseq hkind hplan happend hafter
    · cases h
      exact .retried locked hrow hseq hkind hprior hretry rfl
  · rintro ⟨hprecheck, h⟩
    refine ⟨hprecheck, ?_⟩
    cases h with
    | retried locked hrow hseq hkind hprior hretry hsame =>
        exact ⟨(locked, some event), beginAppend_eq_ok.mpr
          ⟨hrow, .inr ⟨hseq, event, hprior, hretry, rfl⟩⟩, hkind, by simp [hsame]⟩
    | planned locked append L₁ hrow hseq hkind hplan happend hafter =>
        refine ⟨(locked, none), beginAppend_eq_ok.mpr
          ⟨hrow, .inl ⟨hseq, rfl⟩⟩, hkind, ?_⟩
        simp [hplan, happend, hafter]

end MindscapeLocalCore.DurableState.AppendEffects
