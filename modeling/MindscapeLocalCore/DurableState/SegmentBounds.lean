import Mathlib.Data.Fintype.EquivFin
import MindscapeLocalCore.DurableState.Chain
import MindscapeLocalCore.DurableState.TerminalRuns

/-!
The size boundary of a segment: which calls it can refuse, and where the refusal
of an append leaves room for the refusal of the rollover.
-/

namespace MindscapeLocalCore.DurableState.SegmentBounds

open Library.Guarded Library.Json AppendEffects CallEffects Calls CanonicalJson Chain Contracts
open Controls Errors Events ExecutionRuns Facade FacadeAppend ProductIterations Records
open Records.Ledger Repository Samples SingleWorkflow TerminalReceipts TerminalRuns Transitions

def SegmentFailure : Failure → Prop
  | .conflict .rolloverRequired => True
  | .conflict .byteBoundaryExceeded => True
  | .conflict .rolloverThresholdNotReached => True
  | .integrity .eventCountRange => True
  | .integrity .canonicalEventBytesRange => True
  | _ => False

/-- A segment that an append of its own may find full. -/
def Crowded (row : InstanceRow) : Prop :=
  maxSegmentEvents - 1 ≤ row.eventCount ∨
    maxSegmentBytes - 2 * 16384 < row.canonicalEventBytes

def OnlyRollover (condition : Prop) (e : Failure) : Prop :=
  SegmentFailure e → e = .conflict .rolloverRequired ∧ condition

theorem onlyRollover_of_not {condition : Prop} {e : Failure}
    (h : ¬ SegmentFailure e) : OnlyRollover condition e := fun he => absurd he h

section

variable {condition : Prop} {α : Type}

theorem errorsIn_check {c : Check α} :
    ErrorsIn (OnlyRollover condition) (check c) := by
  intro e he
  obtain ⟨r, -, rfl⟩ := lifted_eq_error.mp he
  exact onlyRollover_of_not id

theorem errorsIn_conflict {c : Prop} [Decidable c] {conflict : Conflict}
    (h : ¬ SegmentFailure (.conflict conflict)) :
    ErrorsIn (OnlyRollover condition) (require c (.conflict conflict)) :=
  errorsIn_require fun _ => onlyRollover_of_not h

theorem errorsIn_constrain {c : Prop} [Decidable c] {constraint : Constraint}
    (h : ¬ SegmentFailure (.integrity constraint)) :
    ErrorsIn (OnlyRollover condition) (constrain c constraint) :=
  errorsIn_require fun _ => onlyRollover_of_not h

end

/-! ## Appends -/

theorem errorsIn_insertEvent {condition : Prop} (L : Ledger) (e : EventRow) :
    ErrorsIn (OnlyRollover condition) (insertEvent L e) := by
  unfold insertEvent
  iterate 10
    refine errorsIn_bind (errorsIn_constrain id) fun _ _ => ?_
  exact errorsIn_ok _

theorem errorsIn_insertInstance {condition : Prop} (L : Ledger) (row : InstanceRow) :
    ErrorsIn (OnlyRollover condition) (insertInstance L row) := by
  unfold insertInstance
  iterate 5
    refine errorsIn_bind (errorsIn_constrain id) fun _ _ => ?_
  exact errorsIn_ok _

theorem errorsIn_upsertProjection {condition : Prop} (L : Ledger) (p : ProjectionRow) :
    ErrorsIn (OnlyRollover condition) (upsertProjection L p) := by
  unfold upsertProjection
  refine errorsIn_bind (errorsIn_constrain id) fun _ _ => ?_
  split
  · exact errorsIn_ok _
  · split <;> exact errorsIn_ok _

theorem errorsIn_priorState {condition : Prop} (stored : Option ProjectionRow)
    (locked : InstanceRow) :
    ErrorsIn (OnlyRollover condition) (priorState stored locked) := by
  unfold priorState
  split <;> exact errorsIn_bind (errorsIn_conflict id) fun _ _ => errorsIn_ok _

theorem errorsIn_advanceInstance {condition : Prop} {L : Ledger} {w : String}
    {locked : InstanceRow} (hrow : L.row? w = some locked) {eventHash : String}
    {eventBytes : Nat} (hcount : locked.eventCount + 1 ≤ maxSegmentEvents)
    (hbytes : locked.canonicalEventBytes + eventBytes ≤ maxSegmentBytes)
    (currentState : State) (terminal : Bool) (deadline : Option Timestamp)
    (cancellationState : Option String) :
    ErrorsIn (OnlyRollover condition)
      (advanceInstance L w locked.currentSequence eventHash eventBytes currentState
        terminal deadline cancellationState) := by
  simp only [advanceInstance, hrow, if_true]
  refine errorsIn_bind (errorsIn_require fun h => absurd hcount h) fun _ _ => ?_
  exact errorsIn_bind (errorsIn_require fun h => absurd hbytes h) fun _ _ =>
    errorsIn_ok _

theorem errorsIn_storeEvent {condition : Prop} {world : World} {locked : InstanceRow}
    {append : Append} {stored : EventRow} {L : Ledger}
    (hrow : L.row? locked.workflowId = some locked)
    (hcount : locked.eventCount + 1 ≤ maxSegmentEvents)
    (hbytes : locked.canonicalEventBytes + stored.canonicalBytes ≤ maxSegmentBytes) :
    ErrorsIn (OnlyRollover condition) (storeEvent world locked append stored L) := by
  unfold storeEvent
  refine errorsIn_bind (errorsIn_insertEvent _ _) fun L₁ hinsert => ?_
  obtain ⟨-, hinstances, -, -⟩ := insertEvent_eq_ok hinsert
  have hrow₁ : L₁.row? locked.workflowId = some locked := by
    unfold row? at hrow ⊢
    rwa [hinstances]
  refine errorsIn_bind errorsIn_check fun deadline _ => ?_
  refine errorsIn_bind (errorsIn_advanceInstance hrow₁ hcount hbytes _ _ _ _)
    fun L₂ _ => ?_
  refine errorsIn_bind (errorsIn_priorState _ _) fun prior _ => ?_
  refine errorsIn_bind errorsIn_check fun projected _ => ?_
  exact errorsIn_upsertProjection _ _

theorem errorsIn_requireCapacity {locked : InstanceRow} {eventType : EventType}
    {canonicalBytes : Nat} (hsize : canonicalBytes ≤ maxInlineBytes)
    (hbounded : Bounded locked) (hterminal : locked.terminal = false) :
    ErrorsIn (OnlyRollover (eventType ≠ .segmentRollover ∧ Crowded locked))
      (requireCapacity locked eventType canonicalBytes) := by
  have hbytes := hbounded.openCanonicalEventBytes hterminal
  simp only [maxSegmentBytes, maxInlineBytes] at hbytes hsize
  unfold requireCapacity
  refine errorsIn_bind (errorsIn_require fun h => ?_) fun _ _ => ?_
  · obtain ⟨htype, hfull⟩ := not_not.mp h
    refine fun _ => ⟨rfl, htype, ?_⟩
    simp only [Crowded, maxSegmentBytes, maxSegmentEvents] at hfull ⊢
    omega
  · refine errorsIn_require fun h => ?_
    obtain ⟨-, hfull⟩ := not_not.mp h
    simp only [maxSegmentBytes] at hfull
    omega

theorem errorsIn_appendLocked {world : World} {facade : Facade} {draw : Draw}
    {locked : InstanceRow} {key : String} {actor : Dict} {append : Append}
    {L : Ledger} (hrow : L.row? locked.workflowId = some locked)
    (hbounded : Bounded locked) :
    ErrorsIn (OnlyRollover (append.eventType ≠ .segmentRollover ∧ Crowded locked))
      (appendLocked world facade draw locked key actor append L) := by
  unfold appendLocked
  refine errorsIn_bind (errorsIn_conflict id) fun _ hterminal => ?_
  have hterminal := require_eq_ok.mp hterminal
  have hcount := hbounded.openEventCount hterminal
  refine errorsIn_bind errorsIn_check fun digest _ => ?_
  split
  · exact errorsIn_bind (errorsIn_conflict id) fun _ _ => errorsIn_ok _
  unfold appendFresh
  refine errorsIn_bind errorsIn_check fun event hevent => ?_
  obtain ⟨hsealed, -⟩ := sealed_of_buildSignedEvent (check_eq_ok.mp hevent) key none none
  have hsize : event.canonicalBytes ≤ maxInlineBytes := hsealed.canonicalBytes_le
  refine errorsIn_bind (errorsIn_requireCapacity hsize hbounded hterminal)
    fun _ hcapacity => ?_
  have hbytes : locked.canonicalEventBytes + event.canonicalBytes ≤
      maxSegmentBytes := by
    have hbytes := hbounded.openCanonicalEventBytes hterminal
    simp only [maxSegmentBytes, maxInlineBytes] at *
    omega
  refine errorsIn_bind errorsIn_check fun _ _ => ?_
  refine errorsIn_bind errorsIn_check fun timerId _ => ?_
  refine errorsIn_bind errorsIn_check fun externalMessageId _ => ?_
  refine errorsIn_bind (errorsIn_storeEvent hrow ?_ hbytes) fun L' _ => errorsIn_ok _
  simp only [maxSegmentEvents] at *
  omega

theorem errorsIn_appendLocked_of_row {world : World} {facade : Facade} {draw : Draw}
    {w : String} {locked : InstanceRow} {key : String} {actor : Dict}
    {append : Append} {L : Ledger} (hrow : L.row? w = some locked)
    (hL : ∀ w row, L.row? w = some row → Bounded row) :
    ErrorsIn (OnlyRollover (Crowded locked))
      (appendLocked world facade draw locked key actor append L) := by
  have hlocked : L.row? locked.workflowId = some locked := by
    rw [workflowId_of_row? hrow]
    exact hrow
  refine errorsIn_mono (errorsIn_appendLocked hlocked (hL _ _ hlocked)) ?_
  intro e he hsegment
  exact ⟨(he hsegment).1, (he hsegment).2.2⟩

/-! ## Operations -/

theorem errorsIn_beginAppend {condition : Prop} (L : Ledger) (w key : String)
    (expected : Int) (isRetryOf : EventRow → Bool) :
    ErrorsIn (OnlyRollover condition)
      (beginAppend L w expected key isRetryOf) := by
  unfold beginAppend
  refine errorsIn_bind errorsIn_check fun locked _ => ?_
  split
  · exact errorsIn_ok _
  · split
    · split
      · exact errorsIn_ok _
      · exact errorsIn_error (onlyRollover_of_not id)
    · exact errorsIn_error (onlyRollover_of_not id)

def CrowdedAt (L : Ledger) (w : String) : Prop :=
  ∃ row, L.row? w = some row ∧ Crowded row

theorem errorsIn_seam {seam : Seam} {world : World} {facade : Facade} {draw : Draw}
    {L : Ledger} (hL : ∀ w row, L.row? w = some row → Bounded row)
    (hkind : ∀ locked, ErrorsIn (OnlyRollover False) (seam.kindCheck locked))
    (hplan : ∀ locked, ErrorsIn (OnlyRollover False) (seam.plan L locked))
    (hafter : ∀ M, ErrorsIn (OnlyRollover False) (seam.after M)) :
    ErrorsIn (OnlyRollover (CrowdedAt L seam.workflowId))
      (seam.run world facade draw L) := by
  have hnever : ∀ e, OnlyRollover False e →
      OnlyRollover (CrowdedAt L seam.workflowId) e :=
    fun e he hsegment => (he hsegment).2.elim
  unfold FacadeAppend.Seam.run
  refine errorsIn_bind errorsIn_check fun _ _ => ?_
  refine errorsIn_bind (errorsIn_beginAppend _ _ _ _ _) ?_
  rintro ⟨locked, retry⟩ hbegin
  obtain ⟨hrow, -⟩ := beginAppend_eq_ok.mp hbegin
  refine errorsIn_bind (errorsIn_mono (hkind locked) hnever) fun _ _ => ?_
  cases retry with
  | some prior => exact errorsIn_ok _
  | none =>
      refine errorsIn_bind (errorsIn_mono (hplan locked) hnever) fun append _ => ?_
      refine errorsIn_bind (errorsIn_mono (errorsIn_appendLocked_of_row hrow hL) ?_)
        fun appended _ => ?_
      · exact fun e he hsegment => ⟨(he hsegment).1, locked, hrow, (he hsegment).2⟩
      · exact errorsIn_bind (errorsIn_mono (hafter _) hnever) fun _ _ => errorsIn_ok _

theorem errorsIn_transition_kind {condition : Prop} (expectedKind : WorkflowKind)
    (input : AppendInput) (targetState : String) (typed : Option TypedReceipt)
    (locked : InstanceRow) :
    ErrorsIn (OnlyRollover condition)
      ((appendTransitionForKind expectedKind input targetState typed).kindCheck
        locked) := errorsIn_conflict id

theorem errorsIn_transition_plan {condition : Prop} (expectedKind : WorkflowKind)
    (input : AppendInput) (targetState : String) (typed : Option TypedReceipt)
    (L : Ledger) (locked : InstanceRow) :
    ErrorsIn (OnlyRollover condition)
      ((appendTransitionForKind expectedKind input targetState typed).plan L
        locked) := by
  refine errorsIn_bind errorsIn_check fun _ _ => ?_
  refine errorsIn_bind (errorsIn_conflict id) fun _ _ => ?_
  exact errorsIn_bind errorsIn_check fun _ _ => errorsIn_ok _

theorem errorsIn_kindCheck {condition : Prop} (world : World) (facade : Facade)
    (input : AppendInput) (operation : Operation) (locked : InstanceRow) :
    ErrorsIn (OnlyRollover condition)
      ((operation.seam world facade input).kindCheck locked) := by
  cases operation with
  | appendTransition => exact errorsIn_conflict id
  | startProductIterationCollection => exact errorsIn_conflict id
  | markIterationEvidenceReady => exact errorsIn_conflict id
  | recordIterationEvaluation => exact errorsIn_conflict id
  | appendTypedReceipt => exact errorsIn_conflict id
  | appendReleaseHealth => exact errorsIn_conflict id
  | appendEvidenceLifecycle => exact errorsIn_ok _
  | recordTimer => exact errorsIn_ok _
  | recordExternalMessage => exact errorsIn_ok _
  | requestCancellation => exact errorsIn_ok _
  | _ => exact errorsIn_check

theorem errorsIn_plan {condition : Prop} (world : World) (facade : Facade)
    (input : AppendInput) (operation : Operation) (L : Ledger)
    (locked : InstanceRow) :
    ErrorsIn (OnlyRollover condition)
      ((operation.seam world facade input).plan L locked) := by
  cases operation with
  | appendTransition => exact errorsIn_transition_plan .execution input _ _ L locked
  | startProductIterationCollection =>
      exact errorsIn_transition_plan .productIteration input _ _ L locked
  | markIterationEvidenceReady =>
      exact errorsIn_transition_plan .productIteration input _ _ L locked
  | recordIterationEvaluation =>
      exact errorsIn_transition_plan .productIteration input _ _ L locked
  | appendTypedReceipt => exact errorsIn_ok _
  | appendReleaseHealth => exact errorsIn_ok _
  | appendEvidenceLifecycle => exact errorsIn_ok _
  | recordTimer =>
      refine errorsIn_bind errorsIn_check fun _ _ => ?_
      exact errorsIn_bind errorsIn_check fun _ _ => errorsIn_ok _
  | recordExternalMessage =>
      exact errorsIn_bind errorsIn_check fun _ _ => errorsIn_ok _
  | requestCancellation =>
      exact errorsIn_bind (errorsIn_conflict id) fun _ _ => errorsIn_ok _
  | admitProductIteration =>
      iterate 3 refine errorsIn_bind errorsIn_check fun _ _ => ?_
      exact errorsIn_ok _
  | acceptIterationEnrollment =>
      iterate 16 refine errorsIn_bind errorsIn_check fun _ _ => ?_
      exact errorsIn_ok _
  | acceptOutcomeObservation =>
      iterate 7 refine errorsIn_bind errorsIn_check fun _ _ => ?_
      split
      · exact errorsIn_bind errorsIn_check fun _ _ => errorsIn_ok _
      · exact errorsIn_ok _
  | recordIterationReEvaluation =>
      iterate 3 refine errorsIn_bind errorsIn_check fun _ _ => ?_
      exact errorsIn_ok _
  | finalizeIterationDecision =>
      iterate 3 refine errorsIn_bind errorsIn_check fun _ _ => ?_
      exact errorsIn_ok _
  | closeProductIterationInconclusive =>
      exact errorsIn_bind errorsIn_check fun _ _ => errorsIn_ok _

theorem errorsIn_requestApproval {condition : Prop} (world : World) (facade : Facade)
    (payload : Dict) (L : Ledger) :
    ErrorsIn (OnlyRollover condition) (requestApproval world facade payload L) := by
  unfold requestApproval insertApprovalRequest
  refine errorsIn_bind errorsIn_check fun _ _ => ?_
  refine errorsIn_bind errorsIn_check fun _ _ => ?_
  refine errorsIn_bind ?_ fun _ _ => errorsIn_ok _
  iterate 5 refine errorsIn_bind (errorsIn_constrain id) fun _ _ => ?_
  exact errorsIn_ok _

theorem errorsIn_after {condition : Prop} (world : World) (facade : Facade)
    (input : AppendInput) (operation : Operation) (L : Ledger) :
    ErrorsIn (OnlyRollover condition)
      ((operation.seam world facade input).after L) := by
  have happroval : ∀ approvalRequest, ErrorsIn (OnlyRollover condition)
      (requestApprovalOf world facade approvalRequest L) := by
    rintro (_ | request)
    · exact errorsIn_ok _
    · exact errorsIn_bind (errorsIn_requestApproval _ _ _ _) fun _ _ => errorsIn_ok _
  cases operation with
  | recordIterationEvaluation => exact happroval _
  | recordIterationReEvaluation => exact happroval _
  | _ => exact errorsIn_ok _

/-! ## Whole calls -/

/-- A segment that one of two appends of its own may find full. -/
def NearlyCrowded (row : InstanceRow) : Prop :=
  maxSegmentEvents - 2 ≤ row.eventCount ∨
    maxSegmentBytes - 3 * 16384 < row.canonicalEventBytes

def CallCrowded (L : Ledger) (call : Call) : Prop :=
  ∃ w row, call.workflow? = some w ∧ L.row? w = some row ∧ NearlyCrowded row

theorem nearlyCrowded_of_crowded {row : InstanceRow} (h : Crowded row) :
    NearlyCrowded row := by
  simp only [Crowded, NearlyCrowded, maxSegmentEvents, maxSegmentBytes] at *
  omega

theorem callCrowded_of_crowdedAt {L : Ledger} {call : Call} {w : String}
    (hcall : call.workflow? = some w) {e : Failure}
    (h : OnlyRollover (CrowdedAt L w) e) : OnlyRollover (CallCrowded L call) e := by
  intro hsegment
  obtain ⟨hrollover, row, hrow, hcrowded⟩ := h hsegment
  exact ⟨hrollover, w, row, hcall, hrow, nearlyCrowded_of_crowded hcrowded⟩

theorem nearlyCrowded_of_appendedTo {world : World} {key : String} {actor : Dict}
    {locked after : InstanceRow} {append : Append} {event : EventRow} {V V' : View}
    (h : AppendedTo world key actor locked append event V V')
    (hafter : V'.row = some after) (hcrowded : Crowded after) :
    NearlyCrowded locked := by
  obtain ⟨deadline, -, hadvanced⟩ := h.advanced
  cases hadvanced.symm.trans hafter
  have hsize := h.isSealed.canonicalBytes_le
  simp only [Crowded, NearlyCrowded, appendedRow, advancedRow, maxSegmentEvents,
    maxSegmentBytes, maxInlineBytes] at *
  omega

theorem crowdedAt_of_seamEffect {world : World} {seam : Seam} {L L' : Ledger}
    (h : SeamEffect world seam L L') {row : InstanceRow}
    (hrow : L'.row? seam.workflowId = some row) (hcrowded : Crowded row) :
    ∃ before, L.row? seam.workflowId = some before ∧ NearlyCrowded before := by
  cases h with
  | kept h =>
      have hview := congrArg View.row (h seam.workflowId)
      exact ⟨row, hview.symm.trans hrow, nearlyCrowded_of_crowded hcrowded⟩
  | appended locked append event L₁ hlocked hseq hprecheck hkind hplan happended hafter =>
      have hview := congrArg View.row (hafter seam.workflowId)
      have hrow₁ : L₁.row? locked.workflowId = some row := by
        rw [workflowId_of_row? hlocked]
        exact hview.symm.trans hrow
      exact ⟨locked, hlocked,
        nearlyCrowded_of_appendedTo happended.own hrow₁ hcrowded⟩

variable {world : World} {ctx : Context} {L : Ledger}

theorem bounded_of_writes {L' : Ledger}
    (hL : ∀ w row, L.row? w = some row → Bounded row) (h : Writes world L L') :
    ∀ w row, L'.row? w = some row → Bounded row := by
  induction h with
  | refl => exact hL
  | tail _ hlast ih => exact bounded_of_write ih hlast

theorem errorsIn_openWorkflowKind {condition : Prop} (facade : Facade)
    (identity : Dict) :
    ErrorsIn (OnlyRollover condition)
      (openWorkflowKind world facade identity L) := by
  unfold openWorkflowKind
  iterate 3 refine errorsIn_bind errorsIn_check fun _ _ => ?_
  unfold insertIdentity
  iterate 2 refine errorsIn_bind errorsIn_check fun _ _ => ?_
  exact errorsIn_bind (errorsIn_insertInstance _ _) fun _ _ => errorsIn_ok _

theorem not_crowded_of_freshRow {row : InstanceRow} {state : State}
    (h : FreshRow row state) : ¬ Crowded row := by
  simp [Crowded, h.eventCount, h.canonicalEventBytes, maxSegmentEvents]

theorem errorsIn_first_append {facade : Facade} {draw : Draw} {identity : Dict}
    (hL : ∀ w row, L.row? w = some row → Bounded row) {opened locked : InstanceRow}
    {L₁ : Ledger} (hopen : openWorkflowKind world facade identity L = .ok (opened, L₁))
    (hlocked : L₁.row? opened.workflowId = some locked) (key : String) (actor : Dict)
    (append : Append) {condition : Prop} :
    ErrorsIn (OnlyRollover condition)
      (appendLocked world facade draw locked key actor append L₁) := by
  obtain ⟨hopened, -, -⟩ := openWorkflowKind_eq_ok hopen
  have hwrites : Writes world L L₁ := writes_single (.opened opened _ hopened)
  have hbounded := bounded_of_writes hL hwrites
  have hrow : L₁.row? opened.workflowId = some opened := congrArg View.row hopened.own
  cases hrow.symm.trans hlocked
  refine errorsIn_mono (errorsIn_appendLocked_of_row hlocked hbounded) ?_
  intro e he hsegment
  exact absurd (he hsegment).2 (not_crowded_of_freshRow hopened.fresh)

theorem errorsIn_openProductIteration
    (hL : ∀ w row, L.row? w = some row → Bounded row) {condition : Prop}
    (identity definition actor : Dict) (key : String) :
    ErrorsIn (OnlyRollover condition)
      (openProductIteration world ctx.facade (ctx.draw 0) identity definition actor
        key L) := by
  unfold openProductIteration
  iterate 3 refine errorsIn_bind errorsIn_check fun _ _ => ?_
  refine errorsIn_bind errorsIn_check fun workflowId hworkflow => ?_
  iterate 4 refine errorsIn_bind errorsIn_check fun _ _ => ?_
  refine errorsIn_bind (errorsIn_openWorkflowKind _ _) ?_
  rintro ⟨opened, L₁⟩ hopen
  refine errorsIn_bind errorsIn_check fun locked hlocked => ?_
  obtain ⟨-, -, hname⟩ := openWorkflowKind_eq_ok hopen
  have hname : opened.workflowId = workflowId := by
    rw [textItem_eq_ok.mp (check_eq_ok.mp hworkflow)] at hname
    simpa using hname.symm
  have hlocked := lockInstance_eq_ok.mp (check_eq_ok.mp hlocked)
  rw [← hname] at hlocked
  refine errorsIn_bind (errorsIn_first_append hL hopen hlocked _ _ _) fun _ _ => ?_
  exact errorsIn_bind errorsIn_check fun _ _ => errorsIn_ok _

theorem errorsIn_openProductRelease
    (hL : ∀ w row, L.row? w = some row → Bounded row) {condition : Prop}
    (identity actor : Dict) (source receipt key : String) :
    ErrorsIn (OnlyRollover condition)
      (openProductReleaseFromPromotion world ctx.facade (ctx.draw 0) identity source
        receipt actor key L) := by
  unfold openProductReleaseFromPromotion
  iterate 2 refine errorsIn_bind errorsIn_check fun _ _ => ?_
  refine errorsIn_bind (errorsIn_openWorkflowKind _ _) ?_
  rintro ⟨opened, L₁⟩ hopen
  refine errorsIn_bind errorsIn_check fun locked hlocked => ?_
  have hlocked := lockInstance_eq_ok.mp (check_eq_ok.mp hlocked)
  refine errorsIn_bind (errorsIn_first_append hL hopen hlocked _ _ _) fun _ _ => ?_
  exact errorsIn_bind errorsIn_check fun _ _ => errorsIn_ok _

theorem errorsIn_cancel (hL : ∀ w row, L.row? w = some row → Bounded row)
    (input : AppendInput) (reason : Dict) :
    ErrorsIn (OnlyRollover (CallCrowded L (.cancelProductIteration input reason)))
      (cancelProductIteration world ctx.facade ctx.draw input reason L) := by
  have hcall : (Call.cancelProductIteration input reason).workflow? =
    some input.workflowId := rfl
  refine errorsIn_bind (errorsIn_mono (errorsIn_seam hL (fun _ => errorsIn_ok _)
    (fun _ => errorsIn_bind (errorsIn_conflict id) fun _ _ => errorsIn_ok _)
    fun _ => errorsIn_ok _) fun e he => callCrowded_of_crowdedAt hcall he) ?_
  rintro ⟨request, L₁⟩ hrequest
  have heffect : SeamEffect world (cancellationRequest input reason) L L₁ :=
    Seam.run_effect (by rintro M M' ⟨⟩; exact fun _ => rfl) hrequest
  have hL₁ := bounded_of_writes hL (writes_of_seamEffect
    (fun _ _ _ hplan => planned_of_cancellationRequest hplan) heffect)
  refine errorsIn_mono (errorsIn_seam hL₁
    (fun _ => errorsIn_transition_kind _ _ _ _ _)
    (fun _ => errorsIn_transition_plan _ _ _ _ _ _) fun _ => errorsIn_ok _) ?_
  intro e he hsegment
  obtain ⟨hrollover, row, hrow, hcrowded⟩ := he hsegment
  obtain ⟨before, hbefore, hnearly⟩ := crowdedAt_of_seamEffect heffect hrow hcrowded
  exact ⟨hrollover, input.workflowId, before, hcall, hbefore, hnearly⟩

theorem errorsIn_supersede (hL : ∀ w row, L.row? w = some row → Bounded row)
    (input : AppendInput) (successor : String) :
    ErrorsIn (OnlyRollover (CallCrowded L (.supersedeProductIteration input successor)))
      (supersedeProductIteration world ctx.facade (ctx.draw 0) input successor L) := by
  unfold supersedeProductIteration
  refine errorsIn_bind errorsIn_check fun source hsource => ?_
  iterate 3 refine errorsIn_bind errorsIn_check fun _ _ => ?_
  have hrow := lockInstance_eq_ok.mp (check_eq_ok.mp hsource)
  refine errorsIn_mono (errorsIn_appendLocked_of_row hrow hL) ?_
  intro e he hsegment
  exact ⟨(he hsegment).1, input.workflowId, source, rfl, hrow,
    nearlyCrowded_of_crowded (he hsegment).2⟩

theorem errorsIn_intent (hL : ∀ w row, L.row? w = some row → Bounded row)
    (intent : Dict) :
    ErrorsIn (OnlyRollover (CallCrowded L (.appendOutcomeEvaluationIntent intent)))
      (appendOutcomeEvaluationIntent world ctx.facade (ctx.draw 0) intent L) := by
  unfold appendOutcomeEvaluationIntent
  refine errorsIn_bind errorsIn_check fun _ _ => ?_
  refine errorsIn_bind errorsIn_check fun iterationId hiteration => ?_
  refine errorsIn_bind errorsIn_check fun key _ => ?_
  refine errorsIn_bind errorsIn_check fun locked hlocked => ?_
  iterate 3 refine errorsIn_bind errorsIn_check fun _ _ => ?_
  have hrow := lockInstance_eq_ok.mp (check_eq_ok.mp hlocked)
  split
  · exact errorsIn_bind errorsIn_check fun _ _ => errorsIn_ok _
  · refine errorsIn_mono (errorsIn_appendLocked_of_row hrow hL) ?_
    intro e he hsegment
    refine ⟨(he hsegment).1, textOf iterationId, locked, ?_, hrow,
      nearlyCrowded_of_crowded (he hsegment).2⟩
    simp only [Call.workflow?, item_eq_ok.mp (check_eq_ok.mp hiteration),
      Option.map_some]

theorem errorsIn_terminal (hL : ∀ w row, L.row? w = some row → Bounded row)
    (input : AppendInput) (targetState : String) (receipt : Dict) :
    ErrorsIn (OnlyRollover
        (CallCrowded L (.appendExecutionTerminal input targetState receipt)))
      (appendExecutionTerminal world ctx.facade ctx.draw input targetState receipt
        L) := by
  unfold appendExecutionTerminal
  split
  · iterate 2 refine errorsIn_bind errorsIn_check fun _ _ => ?_
    exact errorsIn_ok _
  unfold appendFreshTerminal
  refine errorsIn_bind errorsIn_check fun locked hlocked => ?_
  have hrow := lockInstance_eq_ok.mp (check_eq_ok.mp hlocked)
  refine errorsIn_bind errorsIn_check fun _ _ => ?_
  refine errorsIn_bind errorsIn_check fun _ hkind => ?_
  have hkind := ensure_eq_ok.mp (check_eq_ok.mp hkind)
  refine errorsIn_bind errorsIn_check ?_
  rintro ⟨target, terminal⟩ htarget
  obtain ⟨hmem, -, rfl⟩ := requireTransition_eq_ok (check_eq_ok.mp htarget)
  refine errorsIn_bind errorsIn_check fun _ hsink => ?_
  have hsink : IsSink .execution target := by
    simpa using ensure_eq_ok.mp (check_eq_ok.mp hsink)
  refine errorsIn_bind errorsIn_check fun _ _ => ?_
  refine errorsIn_bind (errorsIn_mono (errorsIn_appendLocked_of_row hrow hL) ?_) ?_
  · intro e he hsegment
    exact ⟨(he hsegment).1, input.workflowId, locked, rfl, hrow,
      nearlyCrowded_of_crowded (he hsegment).2⟩
  rintro ⟨first, L₁⟩ hfirst
  obtain ⟨-, hfirst⟩ := appendEffect_of_appendLocked hrow hfirst
  refine errorsIn_bind errorsIn_check fun signed _ => ?_
  refine errorsIn_bind errorsIn_check fun after hafter => ?_
  have hafter := lockInstance_eq_ok.mp (check_eq_ok.mp hafter)
  have hL₁ := bounded_of_writes hL (writes_single
    (write_of_appendEffect (.terminated target hkind hmem hsink) hfirst))
  refine errorsIn_bind (errorsIn_mono (errorsIn_appendLocked_of_row hafter hL₁) ?_)
    fun _ _ => errorsIn_ok _
  intro e he hsegment
  refine ⟨(he hsegment).1, input.workflowId, locked, rfl, hrow, ?_⟩
  cases hfirst with
  | repeated hrepeated =>
      rw [hrepeated.same] at hafter
      cases hrow.symm.trans hafter
      exact nearlyCrowded_of_crowded (he hsegment).2
  | appended happended =>
      rw [← workflowId_of_row? hrow] at hafter
      exact nearlyCrowded_of_appendedTo happended.own hafter (he hsegment).2

theorem errorsIn_rollover_append (hL : ∀ w row, L.row? w = some row → Bounded row)
    {w : String} {locked : InstanceRow} (hrow : L.row? w = some locked)
    (input : AppendInput) (successor : String) :
    ErrorsIn (OnlyRollover False) (do
      let (event, L') ← appendLocked world ctx.facade (ctx.draw 0) locked
        input.idempotencyKey input.actor (rolloverAppend successor) L
      let identity := successorIdentity locked successor event.eventHash
      check (validateContract "semantic_execution_identity" identity)
      check (requireCompatible ctx.facade identity)
      insertIdentity world identity locked.currentState L') := by
  have hlocked : L.row? locked.workflowId = some locked := by
    rw [workflowId_of_row? hrow]
    exact hrow
  refine errorsIn_bind (errorsIn_mono
    (errorsIn_appendLocked hlocked (hL _ _ hlocked)) ?_) fun _ _ => ?_
  · exact fun e he hsegment => absurd rfl (he hsegment).2.1
  iterate 2 refine errorsIn_bind errorsIn_check fun _ _ => ?_
  unfold insertIdentity
  iterate 2 refine errorsIn_bind errorsIn_check fun _ _ => ?_
  exact errorsIn_bind (errorsIn_insertInstance _ _) fun _ _ => errorsIn_ok _

def AtBoundary (condition : Prop) (e : Failure) : Prop :=
  e = .conflict .rolloverThresholdNotReached ∨ OnlyRollover condition e

theorem errorsIn_rollover (hL : ∀ w row, L.row? w = some row → Bounded row)
    (input : AppendInput) (successor : String) :
    ErrorsIn (AtBoundary False)
      (rolloverSegment world ctx.facade (ctx.draw 0) input successor L) := by
  unfold rolloverSegment
  refine errorsIn_bind (errorsIn_mono (errorsIn_beginAppend _ _ _ _ _)
    fun _ => .inr) ?_
  rintro ⟨locked, retry⟩ hbegin
  obtain ⟨hrow, -⟩ := beginAppend_eq_ok.mp hbegin
  cases retry with
  | some prior =>
      exact errorsIn_mono (errorsIn_bind errorsIn_check fun _ _ => errorsIn_ok _)
        fun _ => .inr
  | none =>
      refine errorsIn_bind (errorsIn_require fun _ => .inl rfl) fun _ _ => ?_
      exact errorsIn_mono (errorsIn_rollover_append hL hrow input successor)
        fun _ => .inr

theorem errorsIn_decideApproval {condition : Prop} (input : DecisionInput) :
    ErrorsIn (OnlyRollover condition)
      (decideApproval world ctx.facade ctx.now input L) := by
  unfold decideApproval insertApprovalDecision
  iterate 6 refine errorsIn_bind errorsIn_check fun _ _ => ?_
  refine errorsIn_bind ?_ fun _ _ => errorsIn_ok _
  iterate 4 refine errorsIn_bind (errorsIn_constrain id) fun _ _ => ?_
  exact errorsIn_ok _

theorem errorsIn_consumeApproval {condition : Prop} (input : ConsumptionInput) :
    ErrorsIn (OnlyRollover condition)
      (consumeApproval world ctx.facade ctx.now input L) := by
  unfold consumeApproval insertApprovalConsumption
  iterate 3 refine errorsIn_bind errorsIn_check fun _ _ => ?_
  split
  · exact errorsIn_error (onlyRollover_of_not id)
  · iterate 3 refine errorsIn_bind errorsIn_check fun _ _ => ?_
    refine errorsIn_bind ?_ fun _ _ => errorsIn_ok _
    iterate 5 refine errorsIn_bind (errorsIn_constrain id) fun _ _ => ?_
    exact errorsIn_ok _

theorem errorsIn_recordSideEffect {condition : Prop} (receipt : Dict) :
    ErrorsIn (OnlyRollover condition)
      (recordSideEffect world ctx.facade receipt L) := by
  unfold recordSideEffect insertSideEffect
  iterate 2 refine errorsIn_bind errorsIn_check fun _ _ => ?_
  refine errorsIn_bind ?_ fun _ _ => errorsIn_ok _
  iterate 5 refine errorsIn_bind (errorsIn_constrain id) fun _ _ => ?_
  exact errorsIn_ok _

theorem errorsIn_appendCheckpoint {condition : Prop} (checkpoint : Dict) :
    ErrorsIn (OnlyRollover condition)
      (appendCheckpoint world ctx.facade checkpoint L) := by
  unfold appendCheckpoint insertCheckpoint
  iterate 2 refine errorsIn_bind errorsIn_check fun _ _ => ?_
  split
  · exact errorsIn_error (onlyRollover_of_not id)
  · iterate 6 refine errorsIn_bind errorsIn_check fun _ _ => ?_
    refine errorsIn_bind ?_ fun _ _ => errorsIn_ok _
    iterate 3 refine errorsIn_bind (errorsIn_constrain id) fun _ _ => ?_
    exact errorsIn_ok _

theorem errorsIn_replying {α : Type} {reply : α → Reply} {x : Attempt (α × Ledger)}
    {P : Failure → Prop} (h : ErrorsIn P x) : ErrorsIn P (replying reply x) :=
  fun e he => h e (replying_eq_error.mp he)

/-- Whatever the call, its only failures at the boundary are the demand for a rollover,
and then the segment it appends to is crowded, and the refusal of one. -/
theorem errorsIn_exec (hL : ∀ w row, L.row? w = some row → Bounded row)
    (call : Call) :
    ErrorsIn (AtBoundary (CallCrowded L call)) (exec world ctx call L) := by
  have hnever : ∀ {e}, AtBoundary False e → AtBoundary (CallCrowded L call) e := by
    rintro e (rfl | he)
    · exact .inl rfl
    · exact .inr fun hsegment => (he hsegment).2.elim
  have hrollover : ∀ {x : Attempt (Reply × Ledger)},
      ErrorsIn (OnlyRollover (CallCrowded L call)) x →
      ErrorsIn (AtBoundary (CallCrowded L call)) x :=
    fun h => errorsIn_mono h fun _ => .inr
  cases call with
  | rolloverSegment input successor =>
      exact errorsIn_mono (errorsIn_replying (errorsIn_rollover hL input successor))
        fun _ => hnever
  | append input operation =>
      have hworkflow : (operation.seam world ctx.facade input).workflowId =
          input.workflowId := by cases operation <;> rfl
      refine hrollover (errorsIn_replying (errorsIn_mono (errorsIn_seam hL
        (fun _ => errorsIn_kindCheck world ctx.facade input operation _)
        (fun _ => errorsIn_plan world ctx.facade input operation _ _)
        fun _ => errorsIn_after world ctx.facade input operation _) fun e he => ?_))
      rw [hworkflow] at he
      exact callCrowded_of_crowdedAt rfl he
  | openWorkflow identity =>
      exact hrollover (errorsIn_replying
        (errorsIn_bind errorsIn_check fun _ _ => errorsIn_openWorkflowKind _ _))
  | openProductIteration =>
      exact hrollover (errorsIn_replying (errorsIn_openProductIteration hL _ _ _ _))
  | openProductReleaseFromPromotion =>
      exact hrollover (errorsIn_replying (errorsIn_openProductRelease hL _ _ _ _ _))
  | appendExecutionTerminal =>
      exact hrollover (errorsIn_replying (errorsIn_terminal hL _ _ _))
  | cancelProductIteration => exact hrollover (errorsIn_replying (errorsIn_cancel hL _ _))
  | supersedeProductIteration =>
      exact hrollover (errorsIn_replying (errorsIn_supersede hL _ _))
  | appendOutcomeEvaluationIntent =>
      exact hrollover (errorsIn_replying (errorsIn_intent hL _))
  | appendCheckpoint => exact hrollover (errorsIn_replying (errorsIn_appendCheckpoint _))
  | requestApproval =>
      exact hrollover (errorsIn_replying (errorsIn_requestApproval _ _ _ _))
  | decideApproval => exact hrollover (errorsIn_replying (errorsIn_decideApproval _))
  | consumeApproval => exact hrollover (errorsIn_replying (errorsIn_consumeApproval _))
  | recordSideEffect => exact hrollover (errorsIn_replying (errorsIn_recordSideEffect _))

/-- The counters of every segment of a reachable ledger stay in bounds, an open
segment keeps the room of one more event, and neither the byte boundary nor a
constraint on the counters ever refuses a call. -/
theorem segment_bounds (hL : Reachable world L) :
    (∀ w row, L.row? w = some row →
      row.eventCount ≤ 10000 ∧ row.canonicalEventBytes ≤ 64 * 1024 * 1024 ∧
      (row.terminal = false → row.eventCount ≤ 9999 ∧
        row.canonicalEventBytes ≤ 64 * 1024 * 1024 - 16384)) ∧
    ∀ ctx call,
      exec world ctx call L ≠ .error (.conflict .byteBoundaryExceeded) ∧
      exec world ctx call L ≠ .error (.integrity .eventCountRange) ∧
      exec world ctx call L ≠ .error (.integrity .canonicalEventBytesRange) := by
  have hbounded : ∀ w row, L.row? w = some row → Bounded row :=
    fun _ _ hrow => bounded_of_reachable hL hrow
  refine ⟨fun w row hrow => ?_, fun ctx call => ?_⟩
  · have h := hbounded w row hrow
    exact ⟨h.eventCount, h.canonicalEventBytes, fun hopen =>
      ⟨h.openEventCount hopen, h.openCanonicalEventBytes hopen⟩⟩
  · have hexec : ErrorsIn (AtBoundary (CallCrowded L call)) (exec world ctx call L) :=
      errorsIn_exec hbounded call
    refine ⟨fun h => ?_, fun h => ?_, fun h => ?_⟩ <;>
      rcases hexec _ h with hthreshold | honly <;>
      first | cases hthreshold | cases (honly trivial).1

theorem segment_bounds_full : ∃ L row, Reachable testWorld L ∧
    L.row? "workflow:test" = some row ∧ row.eventCount = 9999 ∧
    row.canonicalEventBytes ≤ 64 * 1024 * 1024 - 16384 := by
  obtain ⟨used, row, state, L, hstage, -⟩ := message_stage (Nat.le_refl 9999)
  have hrow := row?_of_solo hstage.solo
  rw [workflowId_of_stage hstage] at hrow
  exact ⟨L, row, hstage.reachable, hrow, hstage.solo.eventCount,
    (((segment_bounds hstage.reachable).1 _ row hrow).2.2 hstage.solo.nonterminal).2⟩

/-! ## Rollover at the boundary -/

/-- A rollover at the current sequence is refused for its threshold exactly when the
segment has neither 9999 events nor the bytes that the reserve leaves. -/
theorem threshold_refused_iff (hL : ∀ w row, L.row? w = some row → Bounded row)
    {input : AppendInput} {row : InstanceRow} (hrow : L.row? input.workflowId = some row)
    (hseq : input.expectedSequence = row.currentSequence) (successor : String) :
    exec world ctx (.rolloverSegment input successor) L =
        .error (.conflict .rolloverThresholdNotReached) ↔
      row.eventCount < maxSegmentEvents - 1 ∧
        row.canonicalEventBytes < maxSegmentBytes - 16384 := by
  have hbegin : ∀ isRetryOf, beginAppend L input.workflowId input.expectedSequence
      input.idempotencyKey isRetryOf = .ok (row, none) := fun _ =>
    beginAppend_eq_ok.mpr ⟨hrow, .inl ⟨hseq.symm, rfl⟩⟩
  have hexec : exec world ctx (.rolloverSegment input successor) L =
        .error (.conflict .rolloverThresholdNotReached) ↔
      rolloverSegment world ctx.facade (ctx.draw 0) input successor L =
        .error (.conflict .rolloverThresholdNotReached) := replying_eq_error
  rw [hexec, rolloverSegment, hbegin, ok_bind]
  constructor
  · intro h
    rcases bind_eq_error.mp h with hrefused | ⟨_, -, hlater⟩
    · exact not_not.mp (require_eq_error.mp hrefused).1
    · cases (errorsIn_rollover_append hL hrow input successor _ hlater trivial).1
  · intro hroom
    exact bind_eq_error.mpr (.inl (require_eq_error.mpr ⟨not_not.mpr hroom, rfl⟩))

/-- Where an append on an open segment is refused with a demand for a rollover, every
rollover of the segment passes its threshold exactly when the segment has 9999 events
or has used up everything but the reserve; the refusal itself only shows that it is
within two appends of the boundary. -/
theorem rollover_reaches_threshold_iff (hL : Reachable world L) {call : Call}
    {w : String} {row : InstanceRow} (hrow : L.row? w = some row)
    (hcall : call.workflow? = some w)
    (hrefused : exec world ctx call L = .error (.conflict .rolloverRequired)) :
    (9998 ≤ row.eventCount ∨
      64 * 1024 * 1024 - 3 * 16384 < row.canonicalEventBytes) ∧
    ((∀ (ctx' : Context) (input : AppendInput) (successor : String),
        input.workflowId = w → input.expectedSequence = row.currentSequence →
        findIdempotentEvent L w input.idempotencyKey = none →
        L.row? successor = none →
        exec world ctx' (.rolloverSegment input successor) L ≠
          .error (.conflict .rolloverThresholdNotReached)) ↔
      (9999 ≤ row.eventCount ∨
        64 * 1024 * 1024 - 16384 ≤ row.canonicalEventBytes)) := by
  have hbounded : ∀ w row, L.row? w = some row → Bounded row :=
    fun _ _ hrow => bounded_of_reachable hL hrow
  have hiff : ∀ (ctx' : Context) {input : AppendInput}, input.workflowId = w →
      input.expectedSequence = (row.currentSequence : Int) → ∀ successor : String,
      exec world ctx' (.rolloverSegment input successor) L =
          .error (.conflict .rolloverThresholdNotReached) ↔
        row.eventCount < maxSegmentEvents - 1 ∧
          row.canonicalEventBytes < maxSegmentBytes - 16384 :=
    fun _ _ hinput hseq successor =>
      threshold_refused_iff hbounded (hinput ▸ hrow) hseq successor
  simp only [maxSegmentEvents, maxSegmentBytes] at hiff
  refine ⟨?_, fun hnever => ?_, fun hfull ctx' input successor hinput hseq _ _ h => ?_⟩
  · rcases errorsIn_exec hbounded call _ hrefused with hthreshold | honly
    · cases hthreshold
    · obtain ⟨-, w', row', hcall', hrow', hnearly⟩ := honly trivial
      cases hcall.symm.trans hcall'
      cases hrow.symm.trans hrow'
      simpa [NearlyCrowded, maxSegmentEvents, maxSegmentBytes] using hnearly
  · -- some key and some successor are new in a finite ledger
    obtain ⟨key, hkey⟩ := Infinite.exists_notMem_finset
      ((L.eventsOf w).map EventRow.idempotencyKey).toFinset
    obtain ⟨successor, hsuccessor⟩ := Infinite.exists_notMem_finset
      (L.instances.map InstanceRow.workflowId).toFinset
    by_contra hroom
    refine hnever ctx ⟨w, row.currentSequence, key, []⟩ successor rfl rfl
      (Library.Table.lookup_eq_none_iff.mpr (by simpa using hkey))
      (Library.Table.lookup_eq_none_iff.mpr (by simpa using hsuccessor))
      ((hiff ctx rfl rfl successor).mpr ?_)
    omega
  · have hroom := (hiff ctx' hinput hseq successor).mp h
    omega

theorem refused_stage : ∃ used row state L, Stage 9998 used row state L ∧
    (∀ e, used e → ∃ i, e.idempotencyKey = messageName i) ∧
    exec testWorld (context 9998) (.appendExecutionTerminal
      (inputAt 9998 "key:terminal" service) "cancelled" cancelledReceipt) L =
        .error (.conflict .rolloverRequired) := by
  obtain ⟨used, row, state, L, hstage, hstate, -, hused⟩ :=
    message_stage (m := 9998) (by decide)
  refine ⟨used, row, state, L, hstage, fun e he => (hused e he).1, ?_⟩
  refine terminal_refused hstage hstate fun e he => ?_
  obtain ⟨⟨i, hkey⟩, -⟩ := hused e he
  rw [hkey]
  exact ⟨messageName_ne (by decide) i, messageName_ne (by decide) i⟩

theorem rollover_reaches_threshold_iff_terminal : ∃ L row, Reachable testWorld L ∧
    L.row? "workflow:test" = some row ∧ row.eventCount = 9998 ∧
    ¬ ∀ (ctx' : Context) (input : AppendInput) (successor : String),
      input.workflowId = "workflow:test" → input.expectedSequence = row.currentSequence →
      findIdempotentEvent L "workflow:test" input.idempotencyKey = none →
      L.row? successor = none →
      exec testWorld ctx' (.rolloverSegment input successor) L ≠
        .error (.conflict .rolloverThresholdNotReached) := by
  obtain ⟨used, row, state, L, hstage, -, hrefused⟩ := refused_stage
  have hrow := row?_of_solo hstage.solo
  rw [workflowId_of_stage hstage] at hrow
  have hcount := hstage.solo.eventCount
  have hbytes := hstage.solo.canonicalEventBytes
  refine ⟨L, row, hstage.reachable, hrow, hcount, fun hnever => ?_⟩
  have hfull := ((rollover_reaches_threshold_iff hstage.reachable hrow rfl hrefused).2).mp hnever
  omega

/-- The terminal call of the execution is refused with a demand for a rollover that is
refused as well. -/
theorem rollover_refused_at_boundary : ∃ L row, Reachable testWorld L ∧
    L.row? "workflow:test" = some row ∧ row.terminal = false ∧
    row.currentSequence = 9998 ∧
    exec testWorld (context 9998) (.appendExecutionTerminal
      (inputAt 9998 "key:terminal" service) "cancelled" cancelledReceipt) L =
        .error (.conflict .rolloverRequired) ∧
    findIdempotentEvent L "workflow:test" "key:rollover" = none ∧
    L.row? "workflow:next" = none ∧
    exec testWorld (context 9998) (.rolloverSegment (inputAt 9998 "key:rollover" service)
      "workflow:next") L = .error (.conflict .rolloverThresholdNotReached) := by
  obtain ⟨used, row, state, L, hstage, hused, hrefused⟩ := refused_stage
  have hid := workflowId_of_stage hstage
  have hrow := row?_of_solo hstage.solo
  have hkey : findIdempotentEvent L row.workflowId "key:rollover" = none :=
    findIdempotentEvent_of_solo hstage.solo fun e he => by
      obtain ⟨i, hi⟩ := hused e he
      rw [hi]
      exact messageName_ne (by decide) i
  rw [hid] at hrow hkey
  refine ⟨L, row, hstage.reachable, hrow, hstage.solo.nonterminal,
    hstage.solo.currentSequence, hrefused, hkey, ?_, ?_⟩
  · simp [row?, hstage.solo.instances, Library.Table.lookup, hid]
  · refine (threshold_refused_iff (fun _ _ h => bounded_of_reachable hstage.reachable h)
      hrow ?_ _).mpr ⟨?_, ?_⟩
    · rw [hstage.solo.currentSequence]
      rfl
    · rw [hstage.solo.eventCount]
      decide
    · exact lt_of_le_of_lt hstage.solo.canonicalEventBytes (by decide)

end MindscapeLocalCore.DurableState.SegmentBounds
