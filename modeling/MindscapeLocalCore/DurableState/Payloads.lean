import MindscapeLocalCore.DurableState.IterationRuns
import MindscapeLocalCore.DurableState.Projections

/-!
Free payloads and the projection: which payloads of messages, timers and cancellations
leave the governed fields alone.
-/

namespace MindscapeLocalCore.DurableState.Payloads

open Library.Guarded Library.Json AppendEffects CallEffects Calls CanonicalJson Errors ExecutionRuns
open Facade FacadeAppend IterationDocuments IterationRuns Projections Records Records.Ledger
open Reducers Samples SingleWorkflow

def governed : List String :=
  ["evaluation", "evaluation_attempt_count", "release_health", "evidence_lifecycle",
    "definition", "promotion_link", "release_link"]

def SameGoverned (a b : Dict) : Prop := ∀ k ∈ governed, b.get? k = a.get? k

/-- A payload whose typed receipt the reducer ignores, or finds in the projection
already. -/
inductive Harmless (state payload : Dict) : Prop where
  | absent (h : payload.get? "typed_receipt" = none)
  | falsy (value : Json) (h : payload.get? "typed_receipt" = some value)
      (hfalsy : value.truthy = false)
  | ignored (typed : Dict) (h : payload.get? "typed_receipt" = some (.obj typed))
      (hevaluation : typed.get? "receipt_type" ≠ some (.str "evaluation_receipt"))
      (hhealth : typed.get? "receipt_type" ≠ some (.str "release_health_receipt"))
      (hlifecycle : typed.get? "receipt_type" ≠ some (.str "evidence_lifecycle_manifest"))
  | sameHealth (typed receipt health : Dict)
      (h : payload.get? "typed_receipt" = some (.obj typed))
      (htype : typed.get? "receipt_type" = some (.str "release_health_receipt"))
      (hreceipt : typed.get? "receipt" = some (.obj receipt))
      (hpicked : pick receipt releaseHealthFields = .ok health)
      (hsame : state.get? "release_health" = some (.obj health))
  | sameLifecycle (typed receipt lifecycle : Dict)
      (h : payload.get? "typed_receipt" = some (.obj typed))
      (htype : typed.get? "receipt_type" = some (.str "evidence_lifecycle_manifest"))
      (hreceipt : typed.get? "receipt" = some (.obj receipt))
      (hpicked : pick receipt evidenceLifecycleFields = .ok lifecycle)
      (hsame : state.get? "evidence_lifecycle" = some (.obj lifecycle))

/-- The free-form operations, with the type and the payload of their events. -/
inductive Recording : Operation → EventType → Dict → Prop where
  | timer (timer : Dict) : Recording (.recordTimer timer) .timerRecorded timer
  | message (message : Dict) :
      Recording (.recordExternalMessage message) .externalMessageRecorded message
  | cancellation (reason : Dict) :
      Recording (.requestCancellation reason) .cancellationRequested reason

variable {world : World} {state payload : Dict} {event : EventRow} {operation : Operation}
  {eventType : EventType}

theorem reduceEvent_of_recording (h : Recording operation eventType payload)
    (htype : event.eventType = eventType) :
    ∃ base, reduceEvent world state event = .ok base ∧
      ∀ k, k ≠ "cancellation_state" → base.get? k = state.get? k := by
  cases h with
  | cancellation =>
      exact ⟨state.set "cancellation_state" (.str "requested"),
        by simp only [reduceEvent, htype], fun k hk => Dict.get?_set_of_ne _ _ hk⟩
  | timer => exact ⟨state, by simp only [reduceEvent, htype], fun _ _ => rfl⟩
  | message => exact ⟨state, by simp only [reduceEvent, htype], fun _ _ => rfl⟩

theorem toInt_ne_succ {value : Json} {n : Int} (h : toInt value = .ok n) :
    value ≠ .num (.int (n + 1)) := by
  rintro rfl
  simp [toInt] at h

theorem typedReceipt_eq_ok {typed : Dict} (h : typedReceipt payload = .ok typed) :
    typed = [] ∧ (payload.get? "typed_receipt" = none ∨ ∃ value,
        payload.get? "typed_receipt" = some value ∧ value.truthy = false) ∨
      payload.get? "typed_receipt" = some (.obj typed) := by
  unfold typedReceipt at h
  split at h
  · rename_i hnone
    cases h
    exact .inl ⟨rfl, .inl hnone⟩
  · rename_i value hvalue
    split at h
    · cases value with
      | obj d =>
          cases h
          exact .inr hvalue
      | _ => cases h
    · rename_i hfalsy
      cases h
      exact .inl ⟨rfl, .inr ⟨value, hvalue, by simpa using hfalsy⟩⟩

theorem get?_of_reduceV1 {state' : Dict} {k : String} (hk : k ∈ governed)
    (h : reduceV1 world state event = .ok state') : ∃ base typed updated,
      reduceEvent world state event = .ok base ∧ typedReceipt event.payload = .ok typed ∧
      reduceReceipt base typed = .ok updated ∧ state'.get? k = updated.get? k := by
  simp only [reduceV1, bind_eq_ok, pure_eq_ok, Except.ok.injEq] at h
  obtain ⟨base, hbase, typed, htyped, updated, hupdated, rfl⟩ := h
  refine ⟨base, typed, updated, hbase, htyped, hupdated, ?_⟩
  rw [Dict.get?_set_of_ne, Dict.get?_set_of_ne] <;> rintro rfl <;> revert hk <;> decide

theorem harmless_of_reduceReceipt {base typed updated : Dict}
    (htyped : payload.get? "typed_receipt" = some (.obj typed))
    (hbase : ∀ k ∈ governed, base.get? k = state.get? k)
    (h : reduceReceipt base typed = .ok updated)
    (hsame : ∀ k ∈ governed, updated.get? k = state.get? k) : Harmless state payload := by
  unfold reduceReceipt at h
  split at h
  · -- the counter of evaluations moves
    simp only [bind_eq_ok, pure_eq_ok, Except.ok.injEq] at h
    obtain ⟨count, hcount, rfl⟩ := h
    have hmoved := (hbase "evaluation_attempt_count" (by decide)).trans
      (hsame "evaluation_attempt_count" (by decide)).symm
    rw [Dict.get?_set_self] at hmoved
    rw [hmoved, Option.getD_some] at hcount
    exact absurd rfl (toInt_ne_succ hcount)
  · rename_i hevaluation
    split at h
    · rename_i hhealth
      simp only [bind_eq_ok, pure_eq_ok, Except.ok.injEq] at h
      obtain ⟨receipt, hreceipt, health, hpicked, rfl⟩ := h
      have hstored := hsame "release_health" (by decide)
      rw [Dict.get?_set_self] at hstored
      exact .sameHealth typed receipt health htyped (isText_iff.mp hhealth)
        (dictItem_eq_ok.mp hreceipt) hpicked hstored.symm
    · rename_i hhealth
      split at h
      · rename_i hlifecycle
        simp only [bind_eq_ok, pure_eq_ok, Except.ok.injEq] at h
        obtain ⟨receipt, hreceipt, lifecycle, hpicked, rfl⟩ := h
        have hstored := hsame "evidence_lifecycle" (by decide)
        rw [Dict.get?_set_self] at hstored
        exact .sameLifecycle typed receipt lifecycle htyped (isText_iff.mp hlifecycle)
          (dictItem_eq_ok.mp hreceipt) hpicked hstored.symm
      · rename_i hlifecycle
        exact .ignored typed htyped (fun heq => hevaluation (isText_iff.mpr heq))
          (fun heq => hhealth (isText_iff.mpr heq))
          (fun heq => hlifecycle (isText_iff.mpr heq))

theorem typedReceipt_of_object {typed : Dict}
    (h : payload.get? "typed_receipt" = some (.obj typed)) :
    typedReceipt payload = .ok typed := by
  cases typed with
  | nil => simp [typedReceipt, h, Json.truthy]
  | cons member rest => simp [typedReceipt, h, Json.truthy, asDict]

theorem get?_set_of_same {base : Dict} {field : String} {value : Json}
    (hbase : ∀ k ∈ governed, base.get? k = state.get? k)
    (hsame : state.get? field = some value) :
    ∀ k ∈ governed, (base.set field value).get? k = state.get? k := by
  intro k hk
  by_cases heq : k = field
  · rw [heq, Dict.get?_set_self, hsame]
  · rw [Dict.get?_set_of_ne _ _ heq]
    exact hbase k hk

theorem reduceReceipt_of_harmless {base : Dict}
    (hbase : ∀ k ∈ governed, base.get? k = state.get? k) (h : Harmless state payload) :
    ∃ typed updated, typedReceipt payload = .ok typed ∧
      reduceReceipt base typed = .ok updated ∧
      ∀ k ∈ governed, updated.get? k = state.get? k := by
  cases h with
  | absent h => exact ⟨[], base, by simp only [typedReceipt, h], rfl, hbase⟩
  | falsy value h hfalsy =>
      refine ⟨[], base, ?_, rfl, hbase⟩
      simp [typedReceipt, h, hfalsy]
  | ignored typed h hevaluation hhealth hlifecycle =>
      rw [Ne, ← isText_iff] at hevaluation hhealth hlifecycle
      refine ⟨typed, base, typedReceipt_of_object h, ?_, hbase⟩
      rw [reduceReceipt, if_neg hevaluation, if_neg hhealth, if_neg hlifecycle]
  | sameHealth typed receipt health h htype hreceipt hpicked hsame =>
      refine ⟨typed, base.set "release_health" (.obj health), typedReceipt_of_object h, ?_,
        get?_set_of_same hbase hsame⟩
      simp only [reduceReceipt, htype, dictItem_eq_ok.mpr hreceipt, ok_bind, hpicked]
      rfl
  | sameLifecycle typed receipt lifecycle h htype hreceipt hpicked hsame =>
      refine ⟨typed, base.set "evidence_lifecycle" (.obj lifecycle), typedReceipt_of_object h,
        ?_, get?_set_of_same hbase hsame⟩
      simp only [reduceReceipt, htype, dictItem_eq_ok.mpr hreceipt, ok_bind, hpicked]
      rfl

theorem reduce_governed_iff (h : Recording operation eventType payload)
    (htype : event.eventType = eventType) (hpayload : event.payload = payload) :
    (∃ state', reduceV1 world state event = .ok state' ∧ SameGoverned state state') ↔
      Harmless state payload := by
  obtain ⟨base, hbase, hkept⟩ : ∃ base, reduceEvent world state event = .ok base ∧
      ∀ k, k ≠ "cancellation_state" → base.get? k = state.get? k :=
    reduceEvent_of_recording h htype
  have hgoverned : ∀ k ∈ governed, base.get? k = state.get? k := fun k hk =>
    hkept k (by rintro rfl; revert hk; decide)
  constructor
  · rintro ⟨state', hreduce, hsame⟩
    have hfields := fun k hk => get?_of_reduceV1 (k := k) hk hreduce
    simp only [reduceV1, hbase, hpayload, bind_eq_ok, Except.ok.injEq, exists_eq_left'] at hreduce
    obtain ⟨typed, htyped, updated, hupdated, -⟩ := hreduce
    have hupdatedSame : ∀ k ∈ governed, updated.get? k = state.get? k := by
      intro k hk
      obtain ⟨base', typed', updated', hbase', htyped', hupdated', hget⟩ := hfields k hk
      cases hbase.symm.trans hbase'
      rw [hpayload] at htyped'
      cases htyped.symm.trans htyped'
      cases hupdated.symm.trans hupdated'
      rw [← hget, hsame k hk]
    rcases typedReceipt_eq_ok htyped with ⟨-, hnone | ⟨value, hvalue, hfalsy⟩⟩ | hobject
    · exact .absent hnone
    · exact .falsy value hvalue hfalsy
    · exact harmless_of_reduceReceipt hobject hgoverned hupdated hupdatedSame
  · intro hharmless
    obtain ⟨typed, updated, htyped, hupdated, hsame⟩ :=
      reduceReceipt_of_harmless hgoverned hharmless
    refine ⟨(updated.set "last_sequence" (Json.nat event.sequence)).set "last_event_hash"
      (.str event.eventHash), ?_, fun k hk => ?_⟩
    · rw [reduceV1, hbase, ok_bind, hpayload, htyped, ok_bind, hupdated]
      rfl
    · rw [Dict.get?_set_of_ne, Dict.get?_set_of_ne]
      · exact hsame k hk
      all_goals rintro rfl; revert hk; decide

variable {L L' : Ledger} {input : AppendInput} {row : InstanceRow}

theorem priorState_of_reachable (hL : Reachable world L)
    {w : String} (hrow : L.row? w = some row) :
    ∃ prior, priorState (L.projection? w) row = .ok prior := by
  obtain ⟨s, hs⟩ := exists_openedWith hL hrow
  obtain ⟨row', prior, hrow', hprior, -⟩ := (folded_of_openedWith hs).fold
  cases hrow.symm.trans hrow'
  exact ⟨prior, hprior⟩

theorem projection_of_exec {ctx : Context} {reply : Reply} {prior : Dict}
    (h : Recording operation eventType payload)
    (hrow : L.row? input.workflowId = some row)
    (hprior : priorState (L.projection? input.workflowId) row = .ok prior)
    (hexec : exec world ctx (.append input operation) L = .ok (reply, L')) :
    L' = L ∨ ∃ event after, event.eventType = eventType ∧ event.payload = payload ∧
      L'.projection? input.workflowId = some after ∧
      reduceV1 world prior event = .ok after.state := by
  obtain ⟨event, hrun, -⟩ := replying_eq_ok.mp hexec
  obtain ⟨-, houtcome⟩ := Seam.run_eq_ok.mp hrun
  cases houtcome with
  | retried _ _ _ _ _ _ hsame => exact .inl hsame
  | planned locked append L₁ hlocked _ _ hplan happend hafter =>
      have hid : (operation.seam world ctx.facade input).workflowId = input.workflowId := by
        cases operation <;> rfl
      rw [hid] at hlocked
      cases hrow.symm.trans hlocked
      have hown := workflowId_of_row? hrow
      have hlast : L₁ = L' := by
        cases h <;> exact Except.ok.inj hafter
      subst hlast
      have happends : append.eventType = eventType ∧ append.payload = payload := by
        cases h <;> simp only [Operation.seam, recordTimer, recordExternalMessage,
          requestCancellation, recordPayload, bind_eq_ok, exists_unit, pure_eq_ok,
          Except.ok.injEq] at hplan
        · obtain ⟨_, -, _, -, rfl⟩ := hplan
          exact ⟨rfl, rfl⟩
        · obtain ⟨_, -, rfl⟩ := hplan
          exact ⟨rfl, rfl⟩
        · obtain ⟨-, rfl⟩ := hplan
          exact ⟨rfl, rfl⟩
      obtain ⟨-, hrepeated | happended⟩ := appendLocked_eq_ok (hown ▸ hrow) happend
      · exact .inl hrepeated.same
      · obtain ⟨prior', state, stateHash, hprior', hreduce, -, hprojection⟩ :=
          happended.own.projected
        rw [hown] at hprojection hprior'
        cases hprior.symm.trans hprior'
        exact .inr ⟨event, _, happended.own.eventType.trans happends.1,
          happended.own.payload.trans happends.2, hprojection, hreduce⟩

/-- The event of a message, a timer or a cancellation passes the reducer without a change
to a governed field exactly when its payload is harmless, and so does every such call that
commits a new event. -/
theorem payload_governs_iff (hL : Reachable world L)
    (h : Recording operation eventType payload)
    (hrow : L.row? input.workflowId = some row) :
    ∃ prior, priorState (L.projection? input.workflowId) row = .ok prior ∧
      (∀ event : EventRow, event.eventType = eventType → event.payload = payload →
        ((∃ state, reduceV1 world prior event = .ok state ∧ SameGoverned prior state) ↔
          Harmless prior payload)) ∧
      ∀ ctx reply L', exec world ctx (.append input operation) L = .ok (reply, L') →
        L' = L ∨ ∃ after, L'.projection? input.workflowId = some after ∧
          (SameGoverned prior after.state ↔ Harmless prior payload) := by
  obtain ⟨prior, hprior⟩ := priorState_of_reachable hL hrow
  refine ⟨prior, hprior, fun event htype hpayload => reduce_governed_iff h htype hpayload,
    fun ctx reply L' hexec => ?_⟩
  rcases projection_of_exec h hrow hprior hexec with hsame | hstored
  · exact .inl hsame
  · obtain ⟨event, after, htype, hpayload, hprojection, hreduce⟩ := hstored
    refine .inr ⟨after, hprojection, ?_⟩
    have hiff : (∃ state', reduceV1 world prior event = .ok state' ∧
        SameGoverned prior state') ↔ Harmless prior payload :=
      reduce_governed_iff h htype hpayload
    rw [← hiff]
    constructor
    · exact fun hsame => ⟨after.state, hreduce, hsame⟩
    · rintro ⟨state, hstate, hsame⟩
      cases hreduce.symm.trans hstate
      exact hsame

theorem payload_governs_iff_forged : ∃ L row prior, Reachable testWorld L ∧
    L.row? "workflow:test" = some row ∧
    priorState (L.projection? "workflow:test") row = .ok prior ∧
    ∀ event : EventRow, event.eventType = .externalMessageRecorded → event.payload = forged →
      ((∃ state, reduceV1 testWorld prior event = .ok state ∧ SameGoverned prior state) ↔
        Harmless prior forged) := by
  obtain ⟨row, state, L, hcollecting⟩ := collecting_iteration
  have hrow := row?_of_solo hcollecting.solo
  rw [workflowId_of_iteration hcollecting] at hrow
  have hrow' : L.row? (inputAt 3 "key:forge" service).workflowId = some row := hrow
  obtain ⟨prior, hprior, hgoverned, -⟩ :=
    payload_governs_iff hcollecting.reachable (.message forged) hrow'
  exact ⟨L, row, prior, hcollecting.reachable, hrow, hprior, hgoverned⟩

/-- A message that its validator accepts raises the number of evaluation attempts. -/
theorem payload_forges_attempts : ∃ L L' before after event, Reachable testWorld L ∧
    validateExternalMessage forged = .ok () ∧
    exec testWorld (context 1) (.append (inputAt 1 "key:forge" service)
      (.recordExternalMessage forged)) L = .ok (.event event, L') ∧
    L.projection? "workflow:test" = some before ∧
    L'.projection? "workflow:test" = some after ∧
    before.state.get? "evaluation_attempt_count" = some (Json.nat 0) ∧
    after.state.get? "evaluation_attempt_count" = some (Json.nat 1) := by
  obtain ⟨-, row, state, L, -, hopened, -⟩ := opened_iteration
  obtain ⟨frontier, sequence, hash, hknows, -⟩ := hopened.known
  obtain ⟨before, hbefore, rfl⟩ := stored_of_projectionState hopened.projection
  obtain ⟨event, after, L', hexec, -, -, -, hafter, hcount⟩ :=
    forged_step "key:forge" hopened (by decide) (by decide) (by decide)
  rw [workflowId_of_iteration hopened] at hbefore
  exact ⟨L, L', before, after, event, hopened.reachable, rfl, hexec, hbefore, hafter,
    hknows.attempts, hcount⟩

end MindscapeLocalCore.DurableState.Payloads
