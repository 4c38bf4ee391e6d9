import MindscapeLocalCore.DurableState.ProductIterations
import MindscapeLocalCore.DurableState.TerminalReceipts

/-!
Every write call of the facade as data, and the ledgers that calls can reach.
-/

namespace MindscapeLocalCore.DurableState.Calls

open Library.Json CanonicalJson Controls Errors Facade FacadeAppend ProductIterations Records
open TerminalReceipts

inductive Operation where
  | appendTransition (targetState : String) (typed : Option TypedReceipt)
  | appendTypedReceipt (typed : TypedReceipt)
  | appendReleaseHealth (healthReceipt : Dict)
  | appendEvidenceLifecycle (lifecycleManifestOrReceipt : Dict)
  | recordTimer (timer : Dict)
  | recordExternalMessage (message : Dict)
  | requestCancellation (reason : Dict)
  | startProductIterationCollection (typed : Option TypedReceipt)
  | admitProductIteration (definition : Dict)
  | acceptIterationEnrollment (enrollment : Dict)
  | acceptOutcomeObservation (enrollment observation : Dict)
  | markIterationEvidenceReady (typed : Option TypedReceipt)
  | recordIterationEvaluation (evaluation : Dict) (approvalRequest : Option Dict)
  | recordIterationReEvaluation (evaluation : Dict) (approvalRequest : Option Dict)
  | finalizeIterationDecision (targetState : String) (linkage : ReleaseLinkage)
  | closeProductIterationInconclusive (closure : Dict)

def Operation.seam (world : World) (facade : Facade) (input : AppendInput) :
    Operation → Seam
  | .appendTransition targetState typed =>
      Facade.appendTransition input targetState typed
  | .appendTypedReceipt typed => Facade.appendTypedReceipt input typed
  | .appendReleaseHealth receipt => Facade.appendReleaseHealth input receipt
  | .appendEvidenceLifecycle receipt =>
      Facade.appendEvidenceLifecycle input receipt
  | .recordTimer timer => Facade.recordTimer world input timer
  | .recordExternalMessage message => Facade.recordExternalMessage input message
  | .requestCancellation reason => Facade.requestCancellation input reason
  | .startProductIterationCollection typed =>
      ProductIterations.startProductIterationCollection input typed
  | .admitProductIteration definition =>
      ProductIterations.admitProductIteration world input definition
  | .acceptIterationEnrollment enrollment =>
      ProductIterations.acceptIterationEnrollment world facade input enrollment
  | .acceptOutcomeObservation enrollment observation =>
      ProductIterations.acceptOutcomeObservation world facade input enrollment
        observation
  | .markIterationEvidenceReady typed =>
      ProductIterations.markIterationEvidenceReady input typed
  | .recordIterationEvaluation evaluation approvalRequest =>
      ProductIterations.recordIterationEvaluation world facade input evaluation
        approvalRequest
  | .recordIterationReEvaluation evaluation approvalRequest =>
      ProductIterations.recordIterationReEvaluation world facade input evaluation
        approvalRequest
  | .finalizeIterationDecision targetState linkage =>
      ProductIterations.finalizeIterationDecision world input targetState linkage
  | .closeProductIterationInconclusive closure =>
      ProductIterations.closeProductIterationInconclusive input closure

inductive Call where
  | openWorkflow (identity : Dict)
  | openProductIteration (identity definition actor : Dict)
      (idempotencyKey : String)
  | openProductReleaseFromPromotion (identity : Dict)
      (sourceIterationId releaseEffectReceiptId : String) (actor : Dict)
      (idempotencyKey : String)
  | append (input : AppendInput) (operation : Operation)
  | rolloverSegment (input : AppendInput) (successorWorkflowId : String)
  | appendExecutionTerminal (input : AppendInput) (targetState : String)
      (receipt : Dict)
  | cancelProductIteration (input : AppendInput) (reason : Dict)
  | supersedeProductIteration (input : AppendInput) (successorWorkflowId : String)
  | appendOutcomeEvaluationIntent (intent : Dict)
  | appendCheckpoint (checkpoint : Dict)
  | requestApproval (request : Dict)
  | decideApproval (input : DecisionInput)
  | consumeApproval (input : ConsumptionInput)
  | recordSideEffect (receipt : Dict)

def Call.workflow? : Call → Option String
  | .append input _ => some input.workflowId
  | .rolloverSegment input _ => some input.workflowId
  | .appendExecutionTerminal input _ _ => some input.workflowId
  | .cancelProductIteration input _ => some input.workflowId
  | .supersedeProductIteration input _ => some input.workflowId
  | .appendOutcomeEvaluationIntent intent =>
      (intent.get? "iteration_id").map textOf
  | _ => none

inductive Reply where
  | event (event : EventRow)
  | instance (row : InstanceRow)
  | receipt (receipt : Dict)

def replying {α : Type} (reply : α → Reply) (x : Attempt (α × Ledger)) :
    Attempt (Reply × Ledger) :=
  match x with
  | .ok (a, L) => .ok (reply a, L)
  | .error e => .error e

def exec (world : World) (ctx : Context) (call : Call) (L : Ledger) :
    Attempt (Reply × Ledger) :=
  match call with
  | .openWorkflow identity =>
      replying .instance (openWorkflow world ctx.facade identity L)
  | .openProductIteration identity definition actor key =>
      replying .instance (openProductIteration world ctx.facade (ctx.draw 0)
        identity definition actor key L)
  | .openProductReleaseFromPromotion identity source receipt actor key =>
      replying .instance (openProductReleaseFromPromotion world ctx.facade
        (ctx.draw 0) identity source receipt actor key L)
  | .append input operation =>
      replying .event ((operation.seam world ctx.facade input).run world ctx.facade
        (ctx.draw 0) L)
  | .rolloverSegment input successor =>
      replying .instance (rolloverSegment world ctx.facade (ctx.draw 0) input
        successor L)
  | .appendExecutionTerminal input targetState receipt =>
      replying .receipt (appendExecutionTerminal world ctx.facade ctx.draw input
        targetState receipt L)
  | .cancelProductIteration input reason =>
      replying .event (cancelProductIteration world ctx.facade ctx.draw input
        reason L)
  | .supersedeProductIteration input successor =>
      replying .event (supersedeProductIteration world ctx.facade (ctx.draw 0)
        input successor L)
  | .appendOutcomeEvaluationIntent intent =>
      replying .event (appendOutcomeEvaluationIntent world ctx.facade (ctx.draw 0)
        intent L)
  | .appendCheckpoint checkpoint =>
      replying .receipt (appendCheckpoint world ctx.facade checkpoint L)
  | .requestApproval request =>
      replying .receipt (requestApproval world ctx.facade request L)
  | .decideApproval input =>
      replying .receipt (decideApproval world ctx.facade ctx.now input L)
  | .consumeApproval input =>
      replying .receipt (consumeApproval world ctx.facade ctx.now input L)
  | .recordSideEffect receipt =>
      replying .receipt (recordSideEffect world ctx.facade receipt L)

/-- Run a call as one transaction: it commits, or the ledger stays as it was. -/
def step (world : World) (ctx : Context) (call : Call) (L : Ledger) : Ledger :=
  match exec world ctx call L with
  | .ok (_, L') => L'
  | .error _ => L

/-- The ledgers that transactions lead to, whoever runs them, when every one meets
a condition on the ledger that it finds. -/
inductive RunWhere (world : World) (p : Ledger → Context → Call → Prop) :
    Ledger → Ledger → Prop where
  | refl (L : Ledger) : RunWhere world p L L
  | step {L L' : Ledger} (h : RunWhere world p L L') (ctx : Context) (call : Call)
      (hp : p L' ctx call) : RunWhere world p L (step world ctx call L')

abbrev Run (world : World) : Ledger → Ledger → Prop :=
  RunWhere world fun _ _ _ => True

/-- The ledgers that any transactions lead to, from the empty one. -/
abbrev Reachable (world : World) (L : Ledger) : Prop := Run world Ledger.empty L

theorem replying_eq_ok {α : Type} {reply : α → Reply} {x : Attempt (α × Ledger)}
    {r : Reply} {L : Ledger} :
    replying reply x = .ok (r, L) ↔ ∃ a, x = .ok (a, L) ∧ reply a = r := by
  cases x <;> simp [replying]
  constructor
  · rintro ⟨rfl, rfl⟩
    exact ⟨_, rfl, rfl⟩
  · rintro ⟨a, h, rfl⟩
    simp [h]

theorem replying_eq_error {α : Type} {reply : α → Reply}
    {x : Attempt (α × Ledger)} {e : Failure} :
    replying reply x = .error e ↔ x = .error e := by
  cases x <;> simp [replying]

variable {world : World} {p : Ledger → Context → Call → Prop} {L M : Ledger}

theorem run_of_runWhere (h : RunWhere world p L M) : Run world L M := by
  induction h with
  | refl => exact .refl _
  | step _ ctx call _ ih => exact .step ih ctx call trivial

theorem step_cases {ctx : Context} {call : Call} {P : Ledger → Prop}
    (hL : P L)
    (hstep : ∀ reply L', exec world ctx call L = .ok (reply, L') → P L') :
    P (step world ctx call L) := by
  unfold step
  split
  · rename_i heq
    exact hstep _ _ heq
  · exact hL

theorem invariant_of_run {P : Ledger → Prop}
    (hstep : ∀ L ctx call reply L', P L → p L ctx call →
      exec world ctx call L = .ok (reply, L') → P L')
    (hrun : RunWhere world p L M) (hL : P L) : P M := by
  induction hrun with
  | refl => exact hL
  | step _ ctx call hp ih =>
      exact step_cases ih fun reply L' h => hstep _ ctx call reply L' ih hp h

end MindscapeLocalCore.DurableState.Calls
