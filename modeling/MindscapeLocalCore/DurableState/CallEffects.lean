import MindscapeLocalCore.DurableState.AppendEffects
import MindscapeLocalCore.DurableState.Calls

/-!
What every call of the facade can do to the views of the workflows: one inversion
lemma for each operation, collected into one for `exec`.
-/

namespace MindscapeLocalCore.DurableState.CallEffects

open Library.Guarded Library.Json Library.Table AppendEffects Calls CanonicalJson Contracts Controls
open Errors Events Facade FacadeAppend ProductIterations Records Records.Ledger Repository
open TerminalReceipts Transitions

def SameViews (L L' : Ledger) : Prop := ∀ w, L'.view w = L.view w

/-! ## Opening -/

/-- A row as `_insert_identity` inserts it. -/
structure FreshRow (row : InstanceRow) (state : State) : Prop where
  currentSequence : row.currentSequence = 0
  currentEventHash : row.currentEventHash = none
  currentState : row.currentState = state
  terminal : row.terminal = false
  eventCount : row.eventCount = 0
  canonicalEventBytes : row.canonicalEventBytes = 0
  nextDurableDeadline : row.nextDurableDeadline = none
  cancellationState : row.cancellationState = none
  kind : kindOf row.semanticIdentity = .ok row.workflowKind

structure Opened (row : InstanceRow) (state : State) (L L' : Ledger) : Prop where
  fresh : FreshRow row state
  absent : L.row? row.workflowId = none
  own : L'.view row.workflowId =
    ⟨some row, L.eventsOf row.workflowId, L.projection? row.workflowId⟩
  frame : ∀ w, w ≠ row.workflowId → L'.view w = L.view w

theorem insertInstance_eq_ok {L L' : Ledger} {row : InstanceRow}
    (h : insertInstance L row = .ok L') :
    L.row? row.workflowId = none ∧
      L' = { L with instances := L.instances ++ [row] } := by
  simp only [insertInstance, bind_eq_ok, exists_unit, constrain_eq_ok,
    Except.ok.injEq] at h
  obtain ⟨habsent, -, -, -, -, rfl⟩ := h
  exact ⟨habsent, rfl⟩

theorem identityRow_eq_ok {identity : Dict} {identityHash : String} {state : State}
    {row : InstanceRow} (h : identityRow identity identityHash state = .ok row) :
    FreshRow row state ∧ row.semanticIdentity = identity ∧
      identity.get? "workflow_id" = some (.str row.workflowId) ∧
      kindOf identity = .ok row.workflowKind := by
  simp only [identityRow, bind_eq_ok, pure_eq_ok, Except.ok.injEq,
    textItem_eq_ok] at h
  obtain ⟨workflowId, hworkflow, _, -, _, -, _, -, _, -, _, -, kind, hkind, _, -, _, -,
    _, -, _, -, _, -, _, -, rfl⟩ := h
  refine ⟨?_, rfl, hworkflow, hkind⟩
  constructor
  case kind => exact hkind
  all_goals rfl

theorem insertIdentity_eq_ok {world : World} {identity : Dict} {state : State}
    {L L' : Ledger} {row : InstanceRow}
    (h : insertIdentity world identity state L = .ok (row, L')) :
    Opened row state L L' ∧ row.semanticIdentity = identity ∧
      identity.get? "workflow_id" = some (.str row.workflowId) := by
  simp only [insertIdentity, bind_eq_ok, check_eq_ok, pure_eq_ok, Except.ok.injEq,
    Prod.mk.injEq] at h
  obtain ⟨identityHash, -, row, hrow, L', hinsert, rfl, rfl⟩ := h
  obtain ⟨hfresh, hidentity, hworkflow, -⟩ := identityRow_eq_ok hrow
  obtain ⟨habsent, rfl⟩ := insertInstance_eq_ok hinsert
  refine ⟨⟨hfresh, habsent, ?_, fun w hw => ?_⟩, hidentity, hworkflow⟩
  · have hlookup : ({ L with instances := L.instances ++ [row] } : Ledger).row?
        row.workflowId = some row := lookup_append_self habsent
    unfold view
    rw [hlookup]
    rfl
  · have hlookup : ({ L with instances := L.instances ++ [row] } : Ledger).row? w =
        L.row? w := lookup_append_of_ne fun heq => hw heq.symm
    unfold view
    rw [hlookup]
    rfl

theorem openWorkflowKind_eq_ok {world : World} {facade : Facade} {identity : Dict}
    {L L' : Ledger} {row : InstanceRow}
    (h : openWorkflowKind world facade identity L = .ok (row, L')) :
    Opened row (initialState row.workflowKind) L L' ∧
      row.semanticIdentity = identity ∧
      identity.get? "workflow_id" = some (.str row.workflowId) := by
  simp only [openWorkflowKind, bind_eq_ok, exists_unit, check_eq_ok] at h
  obtain ⟨-, -, kind, hkind, h⟩ := h
  obtain ⟨hopened, hidentity, hworkflow⟩ := insertIdentity_eq_ok h
  have : row.workflowKind = kind := by
    have := hopened.fresh.kind
    rw [hidentity, hkind] at this
    simpa using this.symm
  rw [this]
  exact ⟨hopened, hidentity, hworkflow⟩

/-! ## Seams -/

/-- What a committed seam did: it left every chain alone, or appended what it
planned. -/
inductive SeamEffect (world : World) (seam : Seam) (L L' : Ledger) : Prop where
  | kept (h : SameViews L L')
  | appended (locked : InstanceRow) (append : Append) (event : EventRow)
      (L₁ : Ledger) (hrow : L.row? seam.workflowId = some locked)
      (hseq : (locked.currentSequence : Int) = seam.expectedSequence)
      (hprecheck : seam.precheck L = .ok ())
      (hkind : seam.kindCheck locked = .ok ())
      (hplan : seam.plan L locked = .ok append)
      (happended : Appended world seam.idempotencyKey seam.actor locked append
        event L L₁)
      (hafter : SameViews L₁ L')

theorem Seam.run_effect {seam : Seam} {world : World} {facade : Facade}
    {draw : Draw} {L L' : Ledger} {event : EventRow}
    (hafter : ∀ M M', seam.after M = .ok M' → SameViews M M')
    (h : seam.run world facade draw L = .ok (event, L')) :
    SeamEffect world seam L L' := by
  obtain ⟨hprecheck, houtcome⟩ := AppendEffects.Seam.run_eq_ok.mp h
  cases houtcome with
  | retried locked hrow hseq hkind hprior hretry hsame =>
      subst hsame
      exact .kept fun _ => rfl
  | planned locked append L₁ hrow hseq hkind hplan happend hafter' =>
      have hlocked : L.row? locked.workflowId = some locked := by
        rw [workflowId_of_row? hrow]
        exact hrow
      obtain ⟨-, hrepeated | happended⟩ := appendLocked_eq_ok hlocked happend
      · obtain ⟨rfl, -, -, -⟩ := hrepeated
        exact .kept (hafter _ _ hafter')
      · exact .appended locked append event L₁ hrow hseq hprecheck hkind hplan happended
          (hafter _ _ hafter')

/-! ## Control-plane calls -/

theorem sameViews_requestApproval {world : World} {facade : Facade} {payload : Dict}
    {L L' : Ledger} {signed : Dict}
    (h : requestApproval world facade payload L = .ok (signed, L')) :
    SameViews L L' := by
  simp only [requestApproval, insertApprovalRequest, bind_eq_ok, exists_unit,
    check_eq_ok, constrain_eq_ok, pure_eq_ok, Except.ok.injEq, Prod.mk.injEq] at h
  obtain ⟨_, -, _, -, _, ⟨-, -, -, -, -, rfl⟩, rfl, rfl⟩ := h
  exact fun _ => rfl

theorem sameViews_requestApprovalOf {world : World} {facade : Facade}
    {approvalRequest : Option Dict} {L L' : Ledger}
    (h : requestApprovalOf world facade approvalRequest L = .ok L') :
    SameViews L L' := by
  cases approvalRequest with
  | none =>
      cases h
      exact fun _ => rfl
  | some request =>
      simp only [requestApprovalOf, bind_eq_ok, pure_eq_ok, Except.ok.injEq] at h
      obtain ⟨⟨_, _⟩, hrequest, rfl⟩ := h
      exact sameViews_requestApproval hrequest

theorem sameViews_decideApproval {world : World} {facade : Facade} {now : Timestamp}
    {input : DecisionInput} {L L' : Ledger} {signed : Dict}
    (h : decideApproval world facade now input L = .ok (signed, L')) :
    SameViews L L' := by
  simp only [decideApproval, insertApprovalDecision, bind_eq_ok, exists_unit,
    check_eq_ok, constrain_eq_ok, pure_eq_ok, Except.ok.injEq, Prod.mk.injEq] at h
  obtain ⟨_, -, -, -, _, -, _, -, _, -, _, ⟨-, -, -, -, rfl⟩, rfl, rfl⟩ := h
  exact fun _ => rfl

theorem sameViews_consumeApproval {world : World} {facade : Facade} {now : Timestamp}
    {input : ConsumptionInput} {L L' : Ledger} {signed : Dict}
    (h : consumeApproval world facade now input L = .ok (signed, L')) :
    SameViews L L' := by
  simp only [consumeApproval, bind_eq_ok, exists_unit, check_eq_ok] at h
  obtain ⟨_, -, -, -, h⟩ := h
  split at h
  · cases h
  · simp only [insertApprovalConsumption, bind_eq_ok, exists_unit, check_eq_ok,
      constrain_eq_ok, pure_eq_ok, Except.ok.injEq, Prod.mk.injEq] at h
    obtain ⟨_, -, _, -, _, -, _, ⟨-, -, -, -, -, rfl⟩, rfl, rfl⟩ := h
    exact fun _ => rfl

theorem sameViews_recordSideEffect {world : World} {facade : Facade} {payload : Dict}
    {L L' : Ledger} {signed : Dict}
    (h : recordSideEffect world facade payload L = .ok (signed, L')) :
    SameViews L L' := by
  simp only [recordSideEffect, insertSideEffect, bind_eq_ok, exists_unit,
    check_eq_ok, constrain_eq_ok, pure_eq_ok, Except.ok.injEq, Prod.mk.injEq] at h
  obtain ⟨_, -, _, -, _, ⟨-, -, -, -, -, rfl⟩, rfl, rfl⟩ := h
  exact fun _ => rfl

theorem sameViews_appendCheckpoint {world : World} {facade : Facade} {receipt : Dict}
    {L L' : Ledger} {signed : Dict}
    (h : appendCheckpoint world facade receipt L = .ok (signed, L')) :
    SameViews L L' := by
  simp only [appendCheckpoint, bind_eq_ok, check_eq_ok] at h
  obtain ⟨_, -, _, -, h⟩ := h
  split at h
  · cases h
  · simp only [insertCheckpoint, bind_eq_ok, exists_unit, check_eq_ok,
      constrain_eq_ok, pure_eq_ok, Except.ok.injEq, Prod.mk.injEq] at h
    obtain ⟨_, -, _, -, _, -, _, -, _, -, _, -, _, ⟨-, -, -, rfl⟩, rfl, rfl⟩ := h
    exact fun _ => rfl

theorem sameViews_after {world : World} {facade : Facade} {input : AppendInput}
    (operation : Operation) {L L' : Ledger}
    (h : (operation.seam world facade input).after L = .ok L') :
    SameViews L L' := by
  cases operation with
  | recordIterationEvaluation evaluation approvalRequest =>
      exact sameViews_requestApprovalOf h
  | recordIterationReEvaluation evaluation approvalRequest =>
      exact sameViews_requestApprovalOf h
  | _ =>
      cases h
      exact fun _ => rfl

/-! ## The appends of the operations -/

def recordedDeadline (eventType : EventType) (payload : Dict) : Option String :=
  match eventType, payload.get? "deadline" with
  | .timerRecorded, some (.str deadline) => some deadline
  | _, _ => none

structure Timed (append : Append) : Prop where
  deadline : append.nextDurableDeadline = recordedDeadline append.eventType append.payload
  timer : append.eventType = .timerRecorded → append.nextDurableDeadline ≠ none

/-- Every append that an operation plans, by the row that it locked.  The appends of
the composed calls have no operation as their source. -/
inductive Planned (source : Option Operation) (locked : InstanceRow) : Append → Prop where
  /-- A transition that the table allows, checked against the locked row. -/
  | moved (target : State) (payload : Dict)
      (hsink : locked.workflowKind = .execution → ¬ IsSink .execution target)
      (htarget : target ∈ successors locked.workflowKind locked.currentState)
      (hfrom : payload.get? "from_state" = some (.str locked.currentState.name))
      (hto : payload.get? "to_state" = some (.str target.name))
      (htyped : locked.workflowKind = .execution → ∃ typed,
        source = some (.appendTransition target.name typed) ∧
          payload.get? "typed_receipt" = typed.map TypedReceipt.wrapped) :
      Planned source locked {
        eventType := .transition
        payload := payload
        currentState := some target
        terminal := some (decide (IsSink locked.workflowKind target)) }
  /-- An admission, which checks the transition out of `draft`. -/
  | admitted (definition : Dict)
      (hkind : locked.workflowKind = .productIteration)
      (hsource : source = some (.admitProductIteration definition)) :
      Planned source locked (admission definition)
  | reEvaluated (evaluation : Dict)
      (hkind : locked.workflowKind = .productIteration)
      (hstate : locked.currentState = .decisionPending) :
      Planned source locked (reEvaluation evaluation)
  | receipt (typed : TypedReceipt)
      (htyped : locked.workflowKind = .execution →
        source = some (.appendTypedReceipt typed) ∨
          typed.receiptType ≠ executionTerminalReceiptType) :
      Planned source locked {
        eventType := .transition
        payload := receiptMember (some typed)
        currentState := some locked.currentState
        terminal := some locked.terminal }
  /-- An event that no state depends on. -/
  | recorded (append : Append) (htransition : append.eventType ≠ .transition)
      (hcancellation : append.eventType ≠ .cancellationRequested)
      (hrollover : append.eventType ≠ .segmentRollover)
      (hstate : append.currentState = none) (hterminal : append.terminal = none)
      (hcancel : append.cancellationState = none)
      (htimed : Timed append) : Planned source locked append
  | cancelled (reason : Dict) :
      Planned source locked {
        eventType := .cancellationRequested
        payload := reason
        cancellationState := some "requested" }

inductive Catalogue (locked : InstanceRow) : Append → Prop where
  | planned {source : Option Operation} {append : Append}
      (h : Planned source locked append) : Catalogue locked append
  | terminated (target : State) (hkind : locked.workflowKind = .execution)
      (htarget : target ∈ successors .execution locked.currentState)
      (hsink : IsSink .execution target) :
      Catalogue locked (terminalTransition locked target)
  | closed (target : State) (signed : Dict)
      (hkind : locked.workflowKind = .execution) (hsink : IsSink .execution target) :
      Catalogue locked (terminalReceipt target signed)
  | rolledOver (successor : String) : Catalogue locked (rolloverAppend successor)

theorem get?_transitionPayload_from (fromState toState : String) (rest : Dict) :
    Dict.get? (transitionPayload fromState toState ++ rest) "from_state" =
      some (.str fromState) := by
  simp [transitionPayload, Dict.get?_cons]

theorem get?_transitionPayload_to (fromState toState : String) (rest : Dict) :
    Dict.get? (transitionPayload fromState toState ++ rest) "to_state" =
      some (.str toState) := by
  simp [transitionPayload, Dict.get?_cons]

theorem get?_transitionPayload_typed (fromState toState : String)
    (typed : Option TypedReceipt) :
    Dict.get? (transitionPayload fromState toState ++ receiptMember typed)
      "typed_receipt" = typed.map TypedReceipt.wrapped := by
  cases typed <;> simp [transitionPayload, receiptMember, Dict.get?_cons]

theorem requireKind_eq_ok {locked : InstanceRow} {kind : WorkflowKind} {u : Unit} :
    requireKind locked kind = .ok u ↔ locked.workflowKind = kind := ensure_eq_ok

theorem planned_of_transition {source : Option Operation} (expectedKind : WorkflowKind)
    (input : AppendInput) (targetState : String) (typed : Option TypedReceipt)
    (L : Ledger) {locked : InstanceRow} {append : Append}
    (hsource : locked.workflowKind = .execution →
      source = some (.appendTransition targetState typed))
    (hplan : (appendTransitionForKind expectedKind input targetState typed).plan L
      locked = .ok append) : Planned source locked append := by
  simp only [appendTransitionForKind, bind_eq_ok, exists_unit, check_eq_ok,
    require_eq_ok, pure_eq_ok, Except.ok.injEq] at hplan
  obtain ⟨⟨target, terminal⟩, htarget, hexecution, -, rfl⟩ := hplan
  obtain ⟨hmem, hname, rfl⟩ := requireTransition_eq_ok htarget
  rw [← hname] at hsource ⊢
  exact .moved target _
    (fun hkind hsink => hexecution ⟨hkind, by simpa [hkind] using hsink⟩) hmem
    (get?_transitionPayload_from _ _ _) (get?_transitionPayload_to _ _ _)
    fun hkind => ⟨typed, hsource hkind, get?_transitionPayload_typed _ _ _⟩

theorem transition_kindCheck_eq_ok {expectedKind : WorkflowKind} {input : AppendInput}
    {targetState : String} {typed : Option TypedReceipt} {locked : InstanceRow} :
    (appendTransitionForKind expectedKind input targetState typed).kindCheck locked =
      .ok () ↔ locked.workflowKind = expectedKind := require_eq_ok

theorem planned_of_iteration_transition (source : Option Operation)
    (input : AppendInput) (targetState : String) (typed : Option TypedReceipt)
    (L : Ledger) {locked : InstanceRow} {append : Append}
    (hkind : (appendTransitionForKind .productIteration input targetState
      typed).kindCheck locked = .ok ())
    (hplan : (appendTransitionForKind .productIteration input targetState typed).plan L
      locked = .ok append) : Planned source locked append :=
  planned_of_transition _ input targetState typed L
    (fun hexecution => by simp [transition_kindCheck_eq_ok.mp hkind] at hexecution) hplan

theorem planned_of_closing {source : Option Operation} {locked : InstanceRow}
    (hkind : locked.workflowKind = .productIteration) {target : State}
    (htarget : target ∈ successors .productIteration locked.currentState)
    (hsink : IsSink .productIteration target) {payload : Dict}
    (hfrom : payload.get? "from_state" = some (.str locked.currentState.name))
    (hto : payload.get? "to_state" = some (.str target.name)) :
    Planned source locked {
      eventType := .transition
      payload := payload
      currentState := some target
      terminal := some true } := by
  have hterminal : decide (IsSink locked.workflowKind target) = true := by
    simpa [hkind] using hsink
  rw [← hterminal]
  exact .moved target payload (by simp [hkind]) (by simpa [hkind] using htarget)
    hfrom hto (by simp [hkind])

theorem planned_of_decision {source : Option Operation} {world : World} {L : Ledger} {locked : InstanceRow}
    {workflowId targetState : String} {state : Dict} {target : State} {terminal : Bool}
    {linkage : ReleaseLinkage}
    (hkind : locked.workflowKind = .productIteration)
    (hdecidable : requireDecidable world L workflowId targetState linkage state =
      .ok ())
    (htarget : requireTransition .productIteration locked.currentState targetState =
      .ok (target, terminal)) :
    Planned source locked (decision locked.currentState target linkage) := by
  obtain ⟨hmem, hname, -⟩ := requireTransition_eq_ok htarget
  refine planned_of_closing hkind hmem ?_ ?_ ?_
  · -- a recommendation leads to `rejected`, `inconclusive` or `promoted`
    simp only [requireDecidable, bind_eq_ok, exists_unit, ensure_eq_ok] at hdecidable
    obtain ⟨-, _, -, _, -, recommendation, -, hdecided, -⟩ := hdecidable
    rw [← hname] at hdecided
    unfold decidedState at hdecided
    split at hdecided <;> cases target <;>
      first | decide | simp [State.name] at hdecided
  · simp [Dict.get?_cons]
  · simp [Dict.get?_cons]

theorem planned_of_closure {source : Option Operation} {locked : InstanceRow} {target : State} {terminal : Bool}
    (hkind : locked.workflowKind = .productIteration)
    (htarget : requireTransition .productIteration locked.currentState
      "inconclusive" = .ok (target, terminal)) (closure : Dict) :
    Planned source locked (closureAppend locked.currentState closure) := by
  obtain ⟨hmem, hname, -⟩ := requireTransition_eq_ok htarget
  have htarget : target = .inconclusive := State.name_injective hname
  subst htarget
  refine planned_of_closing hkind hmem (by decide) ?_ ?_
  · simp [transitionPayload, Dict.get?_cons]
  · simp [transitionPayload, Dict.get?_cons]

theorem planned_of_supersession {source : Option Operation} {locked : InstanceRow} {target : State}
    {terminal : Bool} (hkind : locked.workflowKind = .productIteration)
    (htarget : requireTransition .productIteration locked.currentState
      "superseded" = .ok (target, terminal)) (successor : String) :
    Planned source locked (supersession locked.currentState successor) := by
  obtain ⟨hmem, hname, -⟩ := requireTransition_eq_ok htarget
  have htarget : target = .superseded := State.name_injective hname
  subst htarget
  refine planned_of_closing hkind hmem (by decide) ?_ ?_
  · simp [Dict.get?_cons]
  · simp [Dict.get?_cons]

theorem planned_of_intent (locked : InstanceRow) (payload : Dict) :
    Planned none locked {
      eventType := .outcomeEvaluationIntentCreated
      payload := payload } :=
  .recorded _ (by simp) (by simp) (by simp) rfl rfl rfl ⟨rfl, nofun⟩

theorem planned_of_plan {world : World} {facade : Facade} {input : AppendInput}
    (operation : Operation) {L : Ledger} {locked : InstanceRow} {append : Append}
    (hkind : (operation.seam world facade input).kindCheck locked = .ok ())
    (hplan : (operation.seam world facade input).plan L locked = .ok append) :
    Planned (some operation) locked append := by
  cases operation with
  | appendTransition targetState typed =>
      exact planned_of_transition _ input _ _ L (fun _ => rfl) hplan
  | startProductIterationCollection typed =>
      exact planned_of_iteration_transition _ input _ _ L hkind hplan
  | markIterationEvidenceReady typed =>
      exact planned_of_iteration_transition _ input _ _ L hkind hplan
  | recordIterationEvaluation evaluation approvalRequest =>
      exact planned_of_iteration_transition _ input _ _ L hkind hplan
  | appendTypedReceipt typed =>
      cases hplan
      exact .receipt _ fun _ => .inl rfl
  | appendReleaseHealth receipt =>
      cases hplan
      exact .receipt _ fun _ => .inr (by simp [executionTerminalReceiptType])
  | appendEvidenceLifecycle receipt =>
      cases hplan
      exact .receipt _ fun _ => .inr (by simp [executionTerminalReceiptType])
  | recordTimer timer =>
      simp only [Operation.seam, recordTimer, recordPayload, bind_eq_ok, pure_eq_ok,
        Except.ok.injEq] at hplan
      obtain ⟨timerId, -, deadline, hdeadline, rfl⟩ := hplan
      exact .recorded _ (by simp) (by simp) (by simp) rfl rfl rfl
        ⟨by simp [recordedDeadline, textItem_eq_ok.mp (check_eq_ok.mp hdeadline)], nofun⟩
  | recordExternalMessage message =>
      simp only [Operation.seam, recordExternalMessage, recordPayload, bind_eq_ok,
        pure_eq_ok, Except.ok.injEq] at hplan
      obtain ⟨messageId, -, rfl⟩ := hplan
      exact .recorded _ (by simp) (by simp) (by simp) rfl rfl rfl ⟨rfl, nofun⟩
  | requestCancellation reason =>
      simp only [Operation.seam, requestCancellation, recordPayload, bind_eq_ok,
        exists_unit, require_eq_ok, pure_eq_ok, Except.ok.injEq] at hplan
      obtain ⟨-, rfl⟩ := hplan
      exact .cancelled reason
  | admitProductIteration definition =>
      simp only [Operation.seam, admitProductIteration, iterationSeam, bind_eq_ok,
        pure_eq_ok, Except.ok.injEq] at hplan
      obtain ⟨_, -, _, -, _, -, rfl⟩ := hplan
      exact .admitted definition (requireKind_eq_ok.mp (check_eq_ok.mp hkind)) rfl
  | acceptIterationEnrollment enrollment =>
      simp only [Operation.seam, acceptIterationEnrollment, iterationSeam,
        bind_eq_ok, exists_unit, pure_eq_ok, Except.ok.injEq] at hplan
      obtain ⟨-, _, -, _, -, _, -, _, -, -, _, -, _, -, -, _, -, _, -, -, _, -, _, -, _,
        -, -, rfl⟩ := hplan
      exact .recorded _ (by simp) (by simp) (by simp) rfl rfl rfl ⟨rfl, nofun⟩
  | acceptOutcomeObservation enrollment observation =>
      simp only [Operation.seam, acceptOutcomeObservation, iterationSeam,
        bind_eq_ok, exists_unit, pure_eq_ok] at hplan
      obtain ⟨-, _, -, _, -, _, -, _, -, reason, -, observationId, -, hplan⟩ := hplan
      cases reason with
      | none =>
          cases hplan
          exact .recorded _ (by simp [acceptedObservation])
            (by simp [acceptedObservation]) (by simp [acceptedObservation]) rfl rfl rfl ⟨rfl, nofun⟩
      | some reason =>
          simp only [bind_eq_ok, Except.ok.injEq] at hplan
          obtain ⟨digest, -, rfl⟩ := hplan
          exact .recorded _ (by simp [rejectedObservation])
            (by simp [rejectedObservation]) (by simp [rejectedObservation]) rfl rfl rfl ⟨rfl, nofun⟩
  | recordIterationReEvaluation evaluation approvalRequest =>
      simp only [Operation.seam, recordIterationReEvaluation, iterationSeam,
        bind_eq_ok, exists_unit, check_eq_ok, ensure_eq_ok, pure_eq_ok,
        Except.ok.injEq] at hplan
      obtain ⟨hstate, _, -, -, rfl⟩ := hplan
      exact .reEvaluated evaluation (requireKind_eq_ok.mp (check_eq_ok.mp hkind)) hstate
  | finalizeIterationDecision targetState linkage =>
      have hkind := requireKind_eq_ok.mp (check_eq_ok.mp hkind)
      simp only [Operation.seam, finalizeIterationDecision, iterationSeam,
        bind_eq_ok, exists_unit, check_eq_ok, pure_eq_ok, Except.ok.injEq] at hplan
      obtain ⟨state, -, hdecidable, ⟨target, terminal⟩, htarget, rfl⟩ := hplan
      exact planned_of_decision hkind hdecidable htarget
  | closeProductIterationInconclusive closure =>
      have hkind := requireKind_eq_ok.mp (check_eq_ok.mp hkind)
      simp only [Operation.seam, closeProductIterationInconclusive, iterationSeam,
        bind_eq_ok, check_eq_ok, pure_eq_ok, Except.ok.injEq] at hplan
      obtain ⟨⟨target, terminal⟩, htarget, rfl⟩ := hplan
      exact planned_of_closure hkind htarget closure

/-! ## Whole calls -/

inductive AppendEffect (world : World) (key : String) (actor : Dict)
    (locked : InstanceRow) (append : Append) (event : EventRow) (L L' : Ledger) :
    Prop where
  | repeated (h : Repeated world append key locked event L L')
  | appended (h : Appended world key actor locked append event L L')

theorem appendEffect_of_appendLocked {world : World} {facade : Facade} {draw : Draw}
    {w : String} {locked : InstanceRow} {key : String} {actor : Dict}
    {append : Append} {L L' : Ledger} {event : EventRow}
    (hrow : L.row? w = some locked)
    (h : appendLocked world facade draw locked key actor append L =
      .ok (event, L')) :
    locked.terminal = false ∧
      AppendEffect world key actor locked append event L L' := by
  have hlocked : L.row? locked.workflowId = some locked := by
    rw [workflowId_of_row? hrow]
    exact hrow
  obtain ⟨hterminal, hrepeated | happended⟩ := appendLocked_eq_ok hlocked h
  · exact ⟨hterminal, .repeated hrepeated⟩
  · exact ⟨hterminal, .appended happended⟩

def cancellationRequest (input : AppendInput) (reason : Dict) : Seam :=
  requestCancellation
    { input with idempotencyKey := input.idempotencyKey ++ ":request" } reason

def cancellationTransition (input : AppendInput) : Seam :=
  appendTransitionForKind .productIteration
    { input with
      expectedSequence := input.expectedSequence + 1
      idempotencyKey := input.idempotencyKey ++ ":transition" }
    "cancelled" none

inductive Effect (world : World) (ctx : Context) : Call → Ledger → Ledger → Prop where
  | kept {call : Call} {L L' : Ledger} (h : SameViews L L') : Effect world ctx call L L'
  | opened {call : Call} {L L' : Ledger} (row : InstanceRow)
      (hopened : Opened row (initialState row.workflowKind) L L')
      (hcall : call.workflow? = none) : Effect world ctx call L L'
  /-- The workflow was opened together with its first event. -/
  | founded {call : Call} {L L' : Ledger} (row : InstanceRow) (append : Append)
      (event : EventRow) (key : String) (actor : Dict) (L₁ : Ledger)
      (hopened : Opened row (initialState row.workflowKind) L L₁)
      (hplanned : Planned none row append)
      (htype : append.eventType = .productIterationDefined ∨
        append.eventType = .productReleaseLinked)
      (happended : Appended world key actor row append event L₁ L')
      (hcall : call.workflow? = none) : Effect world ctx call L L'
  | operated {input : AppendInput} {operation : Operation} {L L' : Ledger}
      (h : SeamEffect world (operation.seam world ctx.facade input) L L') :
      Effect world ctx (.append input operation) L L'
  | cancelled {input : AppendInput} {reason : Dict} {L L' : Ledger} (L₁ : Ledger)
      (hrequest : SeamEffect world (cancellationRequest input reason) L L₁)
      (htransition : SeamEffect world (cancellationTransition input) L₁ L') :
      Effect world ctx (.cancelProductIteration input reason) L L'
  | superseded {input : AppendInput} {successor : String} {L L' : Ledger}
      (locked : InstanceRow) (event : EventRow)
      (hrow : L.row? input.workflowId = some locked)
      (hseq : (locked.currentSequence : Int) = input.expectedSequence)
      (hplanned : Planned none locked (supersession locked.currentState successor))
      (happended : Appended world input.idempotencyKey input.actor locked
        (supersession locked.currentState successor) event L L') :
      Effect world ctx (.supersedeProductIteration input successor) L L'
  | intended {intent : Dict} {L L' : Ledger} (locked : InstanceRow)
      (payload : Dict) (event : EventRow) (key : String) (actor : Dict)
      (hname : (Call.appendOutcomeEvaluationIntent intent).workflow? =
        some locked.workflowId)
      (hkind : locked.workflowKind = .productIteration)
      (happended : Appended world key actor locked
        { eventType := .outcomeEvaluationIntentCreated, payload := payload }
        event L L') :
      Effect world ctx (.appendOutcomeEvaluationIntent intent) L L'
  | terminated {input : AppendInput} {targetState : String} {receipt : Dict}
      {L L' : Ledger} (locked after : InstanceRow) (target : State) (signed : Dict)
      (first second : EventRow) (L₁ : Ledger)
      (hrow : L.row? input.workflowId = some locked)
      (hseq : (locked.currentSequence : Int) = input.expectedSequence)
      (hkind : locked.workflowKind = .execution)
      (hnonterminal : locked.terminal = false)
      (hname : target.name = targetState)
      (htarget : target ∈ successors .execution locked.currentState)
      (hsink : IsSink .execution target)
      (hparity : requireParity receipt locked.semanticIdentity = .ok ())
      (hfirst : AppendEffect world (input.idempotencyKey ++ ":transition") input.actor
        locked (terminalTransition locked target) first L L₁)
      (hsigned : signReceipt world ctx.facade receipt first = .ok signed)
      (hafter : L₁.row? input.workflowId = some after)
      (hsecond : Appended world (input.idempotencyKey ++ ":receipt") input.actor after
        (terminalReceipt target signed) second L₁ L') :
      Effect world ctx (.appendExecutionTerminal input targetState receipt) L L'
  | rolledOver {input : AppendInput} {successor : String} {L L' : Ledger}
      (locked row : InstanceRow) (event : EventRow) (L₁ : Ledger)
      (hrow : L.row? input.workflowId = some locked)
      (hseq : (locked.currentSequence : Int) = input.expectedSequence)
      (hnonterminal : locked.terminal = false)
      (happended : AppendEffect world input.idempotencyKey input.actor locked
        (rolloverAppend successor) event L L₁)
      (hopened : Opened row locked.currentState L₁ L')
      (hidentity : row.semanticIdentity =
        successorIdentity locked successor event.eventHash)
      (hname : row.workflowId = successor) :
      Effect world ctx (.rolloverSegment input successor) L L'

theorem receipt_key_ne (key : String) : key ++ ":transition" ≠ key ++ ":receipt" := by
  intro h
  have hlist := congrArg String.toList h
  simp at hlist

theorem effect_of_openProductIteration {world : World} {ctx : Context}
    {identity definition actor : Dict} {key : String} {L L' : Ledger}
    {row : InstanceRow}
    (h : openProductIteration world ctx.facade (ctx.draw 0) identity definition actor
      key L = .ok (row, L')) :
    Effect world ctx (.openProductIteration identity definition actor key) L L' := by
  simp only [openProductIteration, bind_eq_ok, exists_unit, check_eq_ok, pure_eq_ok,
    Except.ok.injEq, Prod.mk.injEq, lockInstance_eq_ok] at h
  obtain ⟨-, -, _, -, workflowId, hworkflow, -, _, -, _, -, -, ⟨opened, L₁⟩, hopen,
    locked, hlocked, ⟨event, L₂⟩, happend, _, -, -, rfl⟩ := h
  obtain ⟨hopened, -, hname⟩ := openWorkflowKind_eq_ok hopen
  have hname : opened.workflowId = workflowId := by
    rw [textItem_eq_ok.mp hworkflow] at hname
    simpa using hname.symm
  have hrow : L₁.row? opened.workflowId = some opened := congrArg View.row hopened.own
  have hlocked : locked = opened := by
    rw [← hname, hrow] at hlocked
    simpa using hlocked.symm
  subst hlocked
  obtain ⟨-, hrepeated | happended⟩ := appendEffect_of_appendLocked hrow happend
  · obtain ⟨rfl, -, -, -⟩ := hrepeated
    exact .opened locked hopened rfl
  · exact .founded locked _ event key actor L₁ hopened
      (.recorded _ (by simp) (by simp) (by simp) rfl rfl rfl ⟨rfl, by simp⟩) (.inl rfl) happended rfl

theorem effect_of_openProductRelease {world : World} {ctx : Context}
    {identity actor : Dict} {source receipt key : String} {L L' : Ledger}
    {row : InstanceRow}
    (h : openProductReleaseFromPromotion world ctx.facade (ctx.draw 0) identity source
      receipt actor key L = .ok (row, L')) :
    Effect world ctx
      (.openProductReleaseFromPromotion identity source receipt actor key) L L' := by
  simp only [openProductReleaseFromPromotion, bind_eq_ok, exists_unit, check_eq_ok,
    pure_eq_ok, Except.ok.injEq, Prod.mk.injEq, lockInstance_eq_ok] at h
  obtain ⟨-, promotion, -, ⟨opened, L₁⟩, hopen, locked, hlocked, ⟨event, L₂⟩, happend,
    _, -, -, rfl⟩ := h
  obtain ⟨hopened, -, -⟩ := openWorkflowKind_eq_ok hopen
  have hrow : L₁.row? opened.workflowId = some opened := congrArg View.row hopened.own
  have hlocked : locked = opened := by
    rw [hrow] at hlocked
    simpa using hlocked.symm
  subst hlocked
  obtain ⟨-, hrepeated | happended⟩ := appendEffect_of_appendLocked hrow happend
  · obtain ⟨rfl, -, -, -⟩ := hrepeated
    exact .opened locked hopened rfl
  · exact .founded locked _ event key actor L₁ hopened
      (.recorded _ (by simp [releaseLinkAppend]) (by simp [releaseLinkAppend])
        (by simp [releaseLinkAppend]) rfl rfl rfl ⟨rfl, by simp [releaseLinkAppend]⟩) (.inr rfl) happended rfl

theorem effect_of_cancel {world : World} {ctx : Context} {input : AppendInput}
    {reason : Dict} {L L' : Ledger} {event : EventRow}
    (h : cancelProductIteration world ctx.facade ctx.draw input reason L =
      .ok (event, L')) :
    Effect world ctx (.cancelProductIteration input reason) L L' := by
  simp only [cancelProductIteration, bind_eq_ok] at h
  obtain ⟨⟨request, L₁⟩, hrequest, htransition⟩ := h
  have hafter : ∀ M M' : Ledger, (Except.ok M : Attempt Ledger) = .ok M' →
      SameViews M M' := by
    rintro M M' ⟨⟩
    exact fun _ => rfl
  exact .cancelled L₁ (Seam.run_effect hafter hrequest)
    (Seam.run_effect hafter htransition)

theorem effect_of_supersede {world : World} {ctx : Context} {input : AppendInput}
    {successor : String} {L L' : Ledger} {event : EventRow}
    (h : supersedeProductIteration world ctx.facade (ctx.draw 0) input successor L =
      .ok (event, L')) :
    Effect world ctx (.supersedeProductIteration input successor) L L' := by
  simp only [supersedeProductIteration, bind_eq_ok, exists_unit, check_eq_ok,
    lockInstance_eq_ok] at h
  obtain ⟨source, hrow, other, -, hsuccession, ⟨target, terminal⟩, htarget, happend⟩ := h
  simp only [requireSuccession, bind_eq_ok, exists_unit, ensure_eq_ok] at hsuccession
  obtain ⟨⟨hkind, -⟩, _, -, _, -, -, hseq⟩ := hsuccession
  obtain ⟨-, hrepeated | happended⟩ := appendEffect_of_appendLocked hrow happend
  · obtain ⟨rfl, -, -, -⟩ := hrepeated
    exact .kept fun _ => rfl
  · exact .superseded source event hrow hseq
      (planned_of_supersession hkind htarget successor) happended

theorem effect_of_intent {world : World} {ctx : Context} {intent : Dict}
    {L L' : Ledger} {event : EventRow}
    (h : appendOutcomeEvaluationIntent world ctx.facade (ctx.draw 0) intent L =
      .ok (event, L')) :
    Effect world ctx (.appendOutcomeEvaluationIntent intent) L L' := by
  simp only [appendOutcomeEvaluationIntent, bind_eq_ok, exists_unit, check_eq_ok,
    lockInstance_eq_ok] at h
  obtain ⟨-, iterationId, hiteration, key, -, locked, hrow, hkind, -, payload, -, h⟩ := h
  have hname : (Call.appendOutcomeEvaluationIntent intent).workflow? =
      some locked.workflowId := by
    simp [Call.workflow?, item_eq_ok.mp hiteration, workflowId_of_row? hrow]
  split at h
  · simp only [bind_eq_ok, exists_unit, pure_eq_ok, Except.ok.injEq,
      Prod.mk.injEq] at h
    obtain ⟨-, -, rfl⟩ := h
    exact .kept fun _ => rfl
  · obtain ⟨-, hrepeated | happended⟩ := appendEffect_of_appendLocked hrow h
    · obtain ⟨rfl, -, -, -⟩ := hrepeated
      exact .kept fun _ => rfl
    · exact .intended locked payload event _ _ hname (requireKind_eq_ok.mp hkind) happended

theorem effect_of_terminal {world : World} {ctx : Context} {input : AppendInput}
    {targetState : String} {receipt reply : Dict} {L L' : Ledger}
    (h : appendExecutionTerminal world ctx.facade ctx.draw input targetState receipt L =
      .ok (reply, L')) :
    Effect world ctx (.appendExecutionTerminal input targetState receipt) L L' := by
  unfold appendExecutionTerminal at h
  split at h
  · simp only [bind_eq_ok, exists_unit, pure_eq_ok, Except.ok.injEq,
      Prod.mk.injEq] at h
    obtain ⟨_, -, -, -, rfl⟩ := h
    exact .kept fun _ => rfl
  rename_i hnone
  simp only [appendFreshTerminal, bind_eq_ok, exists_unit, check_eq_ok, ensure_eq_ok,
    pure_eq_ok, Except.ok.injEq, Prod.mk.injEq, lockInstance_eq_ok] at h
  obtain ⟨locked, hrow, hseq, hkind, ⟨target, terminal⟩, htarget, hterminal, hparity,
    ⟨first, L₁⟩, hfirst, signed, hsigned, after, hafter, ⟨second, L₂⟩, hsecond, rfl,
    rfl⟩ := h
  obtain ⟨hmem, hname, rfl⟩ := requireTransition_eq_ok htarget
  obtain ⟨hnonterminal, hfirst⟩ := appendEffect_of_appendLocked hrow hfirst
  have hlocked := workflowId_of_row? hrow
  have hafterId := workflowId_of_row? hafter
  -- the receipt's key is new, before the transition and after it
  have hfresh : findIdempotentEvent L₁ after.workflowId
      (input.idempotencyKey ++ ":receipt") = none := by
    rw [hafterId]
    cases hfirst with
    | repeated hrepeated => rw [hrepeated.same, hnone]
    | appended happended =>
        have hevents := happended.own.events
        rw [hlocked] at hevents
        change L₁.eventsOf input.workflowId = L.eventsOf input.workflowId ++ [first]
          at hevents
        have hkey : first.idempotencyKey ≠ input.idempotencyKey ++ ":receipt" := by
          rw [happended.own.idempotencyKey]
          exact receipt_key_ne _
        simp only [findIdempotentEvent, hevents, lookup_append_of_ne hkey]
        exact hnone
  obtain ⟨-, hsecond⟩ := appendEffect_of_appendLocked hafter hsecond
  cases hsecond with
  | repeated hrepeated =>
      have hstored := hrepeated.stored
      rw [hfresh] at hstored
      cases hstored
  | appended happended =>
      exact .terminated locked after target signed first second L₁ hrow hseq hkind
        hnonterminal hname hmem (by simpa using hterminal) hparity hfirst hsigned
        hafter happended

theorem rollover_at_current {world : World} {facade : Facade} {draw : Draw}
    {input : AppendInput} {successor : String} {L L' : Ledger} {locked row : InstanceRow}
    (hrow : L.row? input.workflowId = some locked)
    (hseq : (locked.currentSequence : Int) = input.expectedSequence)
    (h : rolloverSegment world facade draw input successor L = .ok (row, L')) :
    ∃ event L₁, locked.terminal = false ∧
      AppendEffect world input.idempotencyKey input.actor locked
        (rolloverAppend successor) event L L₁ ∧
      Opened row locked.currentState L₁ L' ∧
      row.semanticIdentity = successorIdentity locked successor event.eventHash ∧
      row.workflowId = successor := by
  simp only [rolloverSegment, bind_eq_ok] at h
  obtain ⟨⟨locked', retry⟩, hbegin, h⟩ := h
  obtain ⟨hrow', ⟨-, rfl⟩ | ⟨hstale, -⟩⟩ := beginAppend_eq_ok.mp hbegin
  · cases hrow.symm.trans hrow'
    simp only [bind_eq_ok, exists_unit, check_eq_ok] at h
    obtain ⟨-, ⟨event, L₁⟩, happend, -, -, hinsert⟩ := h
    obtain ⟨hnonterminal, happended⟩ := appendEffect_of_appendLocked hrow happend
    obtain ⟨hopened, hidentity, hname⟩ := insertIdentity_eq_ok hinsert
    have hname : row.workflowId = successor := by
      simpa [successorIdentity, Dict.update, Dict.get?_set] using hname.symm
    exact ⟨event, L₁, hnonterminal, happended, hopened, hidentity, hname⟩
  · cases hrow.symm.trans hrow'
    exact absurd hseq hstale

theorem effect_of_rollover {world : World} {ctx : Context} {input : AppendInput}
    {successor : String} {L L' : Ledger} {row : InstanceRow}
    (h : rolloverSegment world ctx.facade (ctx.draw 0) input successor L =
      .ok (row, L')) :
    Effect world ctx (.rolloverSegment input successor) L L' := by
  have hcall := h
  simp only [rolloverSegment, bind_eq_ok] at h
  obtain ⟨⟨locked, retry⟩, hbegin, h⟩ := h
  obtain ⟨hrow, ⟨hseq, rfl⟩ | ⟨-, prior, -, -, rfl⟩⟩ := beginAppend_eq_ok.mp hbegin
  · obtain ⟨event, L₁, hnonterminal, happended, hopened, hidentity, hname⟩ :=
      rollover_at_current hrow hseq hcall
    exact .rolledOver locked row event L₁ hrow hseq hnonterminal happended hopened
      hidentity hname
  · simp only [bind_eq_ok, pure_eq_ok, Except.ok.injEq, Prod.mk.injEq] at h
    obtain ⟨_, -, -, rfl⟩ := h
    exact .kept fun _ => rfl

theorem exec_effect {world : World} {ctx : Context} {call : Call} {L L' : Ledger}
    {reply : Reply} (h : exec world ctx call L = .ok (reply, L')) :
    Effect world ctx call L L' := by
  cases call <;> obtain ⟨_, h, -⟩ := replying_eq_ok.mp h
  case openWorkflow =>
    simp only [openWorkflow, bind_eq_ok, exists_unit] at h
    exact .opened _ (openWorkflowKind_eq_ok h.2).1 rfl
  case openProductIteration => exact effect_of_openProductIteration h
  case openProductReleaseFromPromotion => exact effect_of_openProductRelease h
  case append => exact .operated (Seam.run_effect (fun _ _ => sameViews_after _) h)
  case rolloverSegment => exact effect_of_rollover h
  case appendExecutionTerminal => exact effect_of_terminal h
  case cancelProductIteration => exact effect_of_cancel h
  case supersedeProductIteration => exact effect_of_supersede h
  case appendOutcomeEvaluationIntent => exact effect_of_intent h
  case appendCheckpoint => exact .kept (sameViews_appendCheckpoint h)
  case requestApproval => exact .kept (sameViews_requestApproval h)
  case decideApproval => exact .kept (sameViews_decideApproval h)
  case consumeApproval => exact .kept (sameViews_consumeApproval h)
  case recordSideEffect => exact .kept (sameViews_recordSideEffect h)

end MindscapeLocalCore.DurableState.CallEffects
