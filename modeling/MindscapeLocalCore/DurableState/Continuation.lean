import MindscapeLocalCore.DurableState.Projections

/-!
What a rollover carries over into the successor segment: the current state always,
and the whole logical state when nothing else had been written before.
-/

namespace MindscapeLocalCore.DurableState.Continuation

open Library.Guarded Library.Json AppendEffects CallEffects Calls CanonicalJson ExecutionRuns Facade
open FacadeAppend Projections Records Records.Ledger Reducers RolloverRuns Samples SingleWorkflow
open Terminal Transitions

/-- A projection that holds nothing but what every projection starts with. -/
def Plain (state : Dict) : Prop :=
  ∀ k, k ∉ bookkeeping → k ≠ "current_state" → k ≠ "cancellation_state" →
    state.get? k = none

theorem plain_initialProjection (currentState cancellationState : Json)
    (lastSequence lastEventHash : Json) :
    Plain (initialProjection currentState cancellationState lastSequence
      lastEventHash) := by
  intro k hk hcurrent hcancellation
  simp only [bookkeeping, List.mem_cons, List.not_mem_nil, or_false, not_or] at hk
  simp [initialProjection, Dict.get?_cons, hk.1, hk.2, hcurrent, hcancellation]

/-- A plain projection that mirrors a workflow without cancellation is, apart from its
bookkeeping, the one that a workflow opened in the same state starts from. -/
theorem agree_openingProjection {state : Dict} {s : State}
    {lastSequence lastEventHash : Json} (hplain : Plain state)
    (hmirrors : Mirrors state (.str s.name) .null lastSequence lastEventHash) :
    (openingProjection s).AgreeExcept bookkeeping state := by
  have hopening : Mirrors (openingProjection s) _ _ _ _ := mirrors_initialProjection _ _ _ _
  intro k hk
  by_cases hcurrent : k = "current_state"
  · subst hcurrent
    rw [hopening.currentState, hmirrors.currentState]
  · by_cases hcancellation : k = "cancellation_state"
    · subst hcancellation
      rw [hopening.cancellationState, hmirrors.cancellationState]
    · rw [hplain k hk hcurrent hcancellation]
      exact plain_initialProjection _ _ _ _ k hk hcurrent hcancellation

variable {world : World} {L L' : Ledger}

theorem agree_of_rollover {successor : String} {event : EventRow} {prior state : Dict}
    (htype : event.eventType = .segmentRollover)
    (hpayload : event.payload = (rolloverAppend successor).payload)
    (h : reduceV1 world prior event = .ok state) :
    prior.AgreeExcept bookkeeping state := by
  have htyped : typedReceipt event.payload = .ok [] := by
    simp [hpayload, rolloverAppend, typedReceipt, Dict.get?_cons]
  simp only [reduceV1, reduceEvent, htype, htyped, ok_bind, pure_eq_ok] at h
  have hreceipt : reduceReceipt prior [] = .ok prior := by
    simp [reduceReceipt, isText]
  rw [hreceipt] at h
  cases h
  intro k hk
  simp only [bookkeeping, List.mem_cons, List.not_mem_nil, or_false, not_or] at hk
  rw [Dict.get?_set_of_ne _ _ hk.2, Dict.get?_set_of_ne _ _ hk.1]

/-- A rollover keeps the current state.  It keeps the cancellation and the deadline
exactly when there is none, and when there is no cancellation and the projection is
plain, everything that is appended to the successor continues the predecessor's last
projection. -/
theorem rollover_continues (hL : Reachable world L)
    (hdigests : TransitionDigests world L) {ctx : Context} {input : AppendInput}
    {successor : String} {locked next : InstanceRow}
    (hrow : L.row? input.workflowId = some locked)
    (hseq : (locked.currentSequence : Int) = input.expectedSequence)
    (hexec : exec world ctx (.rolloverSegment input successor) L =
      .ok (.instance next, L')) :
    next.workflowId = successor ∧ next.currentState = locked.currentState ∧
    (next.cancellationState = locked.cancellationState ↔
      locked.cancellationState = none) ∧
    (next.nextDurableDeadline = locked.nextDurableDeadline ↔
      locked.nextDurableDeadline = none) ∧
    (locked.cancellationState = none →
      (∀ projection, L.projection? input.workflowId = some projection →
        Plain projection.state) →
      ∃ last, L'.projection? input.workflowId = some last ∧
        ∀ M, Run world L' M → ∀ projection,
          M.projection? successor = some projection →
          ∃ state, reduceAll world last.state (M.eventsOf successor) = .ok state ∧
            projection.state.AgreeExcept bookkeeping state) := by
  obtain ⟨opened, hcall, hreply⟩ := replying_eq_ok.mp hexec
  cases hreply
  obtain ⟨event, L₁, hopen, happended, hopened, hidentity, hname⟩ :=
    rollover_at_current hrow hseq hcall
  have hfresh := hopened.fresh
  refine ⟨hname, hfresh.currentState, ?_, ?_, fun hcancellation hplain => ?_⟩
  · rw [hfresh.cancellationState]
    exact eq_comm
  · rw [hfresh.nextDurableDeadline]
    exact eq_comm
  obtain ⟨hnew, -, hother, -, hempty⟩ := successor_of_rollover hL hrow
    (fun _ hrow => settled_of_reachable hL hrow) hopen happended hopened hidentity
  have hlocked := workflowId_of_row? hrow
  obtain ⟨prior, state, stateHash, hprior, hreduce, -, hprojection⟩ := hnew.own.projected
  rw [hlocked] at hprior hprojection
  have hlast : L'.projection? input.workflowId = _ :=
    (congrArg View.projection (hopened.frame _ hother.symm)).trans hprojection
  refine ⟨_, hlast, fun M hrun projection hprojection' => ?_⟩
  -- the successor starts from the predecessor's state up to the bookkeeping
  obtain ⟨prior', hprior', hmirrors⟩ := (mirrored_of_reachable hL hdigests _).mirrors _ hrow
  cases hprior.symm.trans hprior'
  have hpriorPlain : Plain prior := by
    change priorState (L.projection? input.workflowId) locked = _ at hprior
    cases hstored : L.projection? input.workflowId with
    | none =>
        rw [hstored] at hprior
        simp only [priorState, bind_eq_ok, exists_unit, pure_eq_ok, Except.ok.injEq]
          at hprior
        rw [← hprior.2]
        exact plain_initialProjection _ _ _ _
    | some stored =>
        rw [hstored, priorState_some] at hprior
        rw [← hprior.2]
        exact hplain stored hstored
  rw [hcancellation] at hmirrors
  have hagree : (openingProjection locked.currentState).AgreeExcept bookkeeping state :=
    Dict.agreeExcept_trans (agree_openingProjection hpriorPlain hmirrors)
      (agree_of_rollover hnew.own.eventType hnew.own.payload hreduce)
  have hstart : Folded world locked.currentState (L'.view successor) := by
    rw [← hname, hopened.own]
    have hevents : L₁.eventsOf next.workflowId = [] := congrArg View.events hempty
    have hnone : L₁.projection? next.workflowId = none := congrArg View.projection hempty
    rw [hevents, hnone]
    exact folded_of_freshRow hfresh
  obtain ⟨row, folded, -, hfolded, hfold⟩ := (folded_of_run hrun hstart).fold
  have hfolded' : priorState (M.projection? successor) row = .ok folded := hfolded
  rw [hprojection', priorState_some] at hfolded'
  change reduceAll world (openingProjection locked.currentState) (M.eventsOf successor) = _
    at hfold
  obtain ⟨continued, hcontinued, hsame⟩ :=
    eq_ok_of_related (reduceAll_related hagree (M.eventsOf successor)) hfold
  refine ⟨continued, hcontinued, ?_⟩
  rw [hfolded'.2]
  exact hsame

theorem rollover_continues_messages : ∃ L L' next, Reachable testWorld L ∧
    exec testWorld (context 9999) (.rolloverSegment (inputAt 9999 "key:rollover" service)
      "workflow:next") L = .ok (.instance next, L') ∧ next.currentState = .pending := by
  obtain ⟨used, row, state, L, hstage, hstate, -, hused⟩ :=
    message_stage (Nat.le_refl 9999)
  obtain ⟨event, identityHash, L', hrolled⟩ := rollover_step hstage fun e he => by
    obtain ⟨⟨i, hkey⟩, -⟩ := hused e he
    rw [hkey]
    exact messageName_ne (by decide) i
  have hrow := row?_of_solo hstage.solo
  rw [workflowId_of_stage hstage] at hrow
  have hdigests : TransitionDigests testWorld L := transitionDigests_of_none fun e he => by
    rw [(hused e (hstage.solo.events e he).1).2]
    nofun
  have hseq : (row.currentSequence : Int) = 9999 := by
    rw [hstage.solo.currentSequence]
    rfl
  obtain ⟨-, hnext, -⟩ := rollover_continues hstage.reachable hdigests
    hrow hseq hrolled.executed
  exact ⟨L, L', _, hstage.reachable, hrolled.executed, hnext.trans hstate⟩

/-- A requested cancellation is lost in the rollover. -/
theorem rollover_loses_cancellation : ∃ L L' locked next, Reachable testWorld L ∧
    L.row? "workflow:test" = some locked ∧
    exec testWorld (context 9999) (.rolloverSegment (inputAt 9999 "key:rollover" service)
      "workflow:next") L = .ok (.instance next, L') ∧
    locked.cancellationState = some "requested" ∧ next.cancellationState = none := by
  obtain ⟨row, state, L, hstage, -⟩ := opened_stage
  obtain ⟨request, row', state', L₁, hexec, hstep⟩ :=
    cancellation_step "key:request" hstage (by decide) nofun
  have hrequest : ∀ e, False ∨ e = request → e.idempotencyKey = "key:request" ∧
      e.externalMessageId = none := by
    rintro e (h | rfl)
    · exact h.elim
    · exact ⟨hstep.grown.appended.own.idempotencyKey, hstep.grown.externalMessageId⟩
  obtain ⟨used, row'', state'', L₂, hstage', -, -, hcancellation, -, hused⟩ :=
    run_messages (m := 9999) hstep.stage
      (fun e i he _ _ => by
        rw [(hrequest e he).1]
        exact (messageName_ne (by decide) i).symm)
      (fun e i he _ _ => by
        rw [(hrequest e he).2]
        nofun) (by decide) (Nat.le_refl _)
  obtain ⟨event, identityHash, L', hrolled⟩ := rollover_step hstage' fun e he => by
    rcases hused e he with hold | ⟨i, -, -, hkey, -, -⟩
    · rw [(hrequest e hold).1]
      decide
    · rw [hkey]
      exact messageName_ne (by decide) i
  have hrow := row?_of_solo hstage'.solo
  rw [workflowId_of_stage hstage'] at hrow
  refine ⟨L₂, L', row'', _, hstage'.reachable, hrow, hrolled.executed, ?_, rfl⟩
  rw [hcancellation, hstep.row]
  rfl

end MindscapeLocalCore.DurableState.Continuation
