import MindscapeLocalCore.DurableState.Controls
import MindscapeLocalCore.DurableState.Facade
import MindscapeLocalCore.DurableState.ProductIterationContract

/-!
Product-iteration and product-release commands behind the single durable facade.
-/

namespace MindscapeLocalCore.DurableState.ProductIterations

open Library Library.Json CanonicalJson Contracts Controls Errors Events Facade
open FacadeAppend ProductIterationContract Records Reducers Repository Transitions

def projectionState (L : Ledger) (locked : InstanceRow) : Check Dict :=
  match readProjection L locked.workflowId with
  | none => .error (.valueError "upper workflow projection is unavailable")
  | some projection => do
      ensure (projection.lastSequence = locked.currentSequence)
        "upper workflow projection is unavailable"
      pure projection.state

def requireKind (locked : InstanceRow) (expected : WorkflowKind) : Check Unit :=
  ensure (locked.workflowKind = expected)
    ("workflow must use " ++ expected.name ++ " kind")

def receiptOf (payload : Dict) : Option Json :=
  (payload.get? "typed_receipt").bind fun typed => typed.get? "receipt"

def iterationSeam (input : AppendInput) (precheck : Ledger → Check Unit)
    (isRetryOf : EventRow → Bool)
    (plan : Ledger → InstanceRow → Attempt Append) : Seam where
  workflowId := input.workflowId
  expectedSequence := input.expectedSequence
  idempotencyKey := input.idempotencyKey
  actor := input.actor
  precheck := precheck
  isRetryOf := isRetryOf
  kindCheck locked := check (requireKind locked .productIteration)
  plan := plan

/-! ## Opening and admission -/

def openProductIteration (world : World) (facade : Facade) (draw : Draw)
    (identity definition actor : Dict) (idempotencyKey : String) (L : Ledger) :
    Attempt (InstanceRow × Ledger) := do
  check (ensure (isText (identity.get? "workflow_kind") "product_iteration")
    "product iteration identity must use product_iteration kind")
  check (requireDefinition world definition "draft")
  let iterationId ← check (item definition "iteration_id")
  let workflowId ← check (textItem identity "workflow_id")
  check (ensure (iterationId.pyEq (.str workflowId))
    "iteration definition workflow identity mismatch")
  let workspace ← check (item definition "workspace_id")
  let ownWorkspace ← check (item identity "workspace_id")
  check (ensure (workspace.pyEq ownWorkspace)
    "iteration definition workspace mismatch")
  let (_, opened) ← openWorkflowKind world facade identity L
  let locked ← check (lockInstance opened workflowId)
  let (_, L') ← appendLocked world facade draw locked idempotencyKey actor
    { eventType := .productIterationDefined
      payload := [("definition", .obj definition)] } opened
  let row ← check (readInstance L' workflowId)
  pure (row, L')

def requireAdmissible (state definition : Dict) : Check Unit := do
  match state.get? "definition" with
  | none | some .null => .error (.valueError "iteration draft definition is missing")
  | some prior => do
      let prior ← asDict prior
      ensure (Json.dictEq (immutableDefinition prior) (immutableDefinition definition))
        "iteration definition is immutable at admission"
      let arms ← arms definition
      let classes ← column "consumer_compatibility_class" arms
      ensure (classes.all fun value => value.pyEq (.str "compatible"))
        "every admitted arm must be consumer-compatible"

/-- The transition of an admission, which names `draft` as its source. -/
def admission (definition : Dict) : Append where
  eventType := .transition
  payload := transitionPayload State.draft.name State.admitted.name ++
    receiptMember (some ⟨"product_iteration", definition⟩)
  currentState := some .admitted

def admitProductIteration (world : World) (input : AppendInput)
    (definition : Dict) : Seam :=
  iterationSeam input (fun _ => requireDefinition world definition "admitted")
    (fun prior =>
      prior.eventType = .transition &&
        isText (prior.payload.get? "to_state") "admitted" &&
        Json.pyEqOption (receiptOf prior.payload) (some (.obj definition)))
    fun L locked => do
      let state ← check (projectionState L locked)
      check (requireAdmissible state definition)
      let _ ← check (requireTransition .productIteration .draft "admitted")
      pure (admission definition)

def startProductIterationCollection (input : AppendInput)
    (typed : Option TypedReceipt) : Seam :=
  appendTransitionForKind .productIteration input "collecting" typed

/-! ## Enrollment and observation -/

/-- Whether `value in state.get(k, [])`. -/
def listed (state : Dict) (k : String) (value : Json) : Check Bool := do
  let items ← asList ((state.get? k).getD (.arr []))
  pure (items.any value.pyEq)

def acceptIterationEnrollment (world : World) (facade : Facade)
    (input : AppendInput) (enrollment : Dict) : Seam :=
  iterationSeam input
    (fun _ => do
      validateContract "iteration_enrollment" enrollment
      verifySigned world facade.verificationKeys enrollment)
    (fun prior =>
      prior.eventType = .iterationEnrollmentAccepted &&
        Json.pyEqOption (prior.payload.get? "enrollment") (some (.obj enrollment)))
    fun L locked => do
      check (ensure (locked.currentState = .collecting)
        "iteration enrollment requires collecting state")
      let state ← check (projectionState L locked)
      let definition ← check (dictItem state "definition")
      let iterationId ← check (item enrollment "iteration_id")
      let ownId ← check (item definition "iteration_id")
      check (ensure (iterationId.pyEq ownId) "enrollment iteration mismatch")
      let enrollmentId ← check (item enrollment "enrollment_id")
      let accepted ← check (listed state "enrollment_ids" enrollmentId)
      check (ensure (accepted = false) "iteration enrollment is already accepted")
      let armId ← check (item enrollment "arm_id")
      let selectedArm ← check (arm definition armId)
      check (requireEnrollmentParity definition selectedArm enrollment)
      let ref ← check (adapterRef enrollment)
      let pinned ← check (asDict ((state.get? "adapter_refs_by_arm").getD (.obj [])))
      let armKey ← check (asText armId)
      check (ensure
        (Json.pyEqOption (pinned.get? armKey) none ||
          Json.pyEqOption (pinned.get? armKey) (some (.obj ref)))
        "iteration arm adapter identity is already pinned")
      pure {
        eventType := .iterationEnrollmentAccepted
        payload := [("enrollment", .obj enrollment)] }

def rejectedObservation (observationId : Json) (observationSha256 reason : String) :
    Append where
  eventType := .outcomeObservationRejected
  payload := [("observation_id", observationId),
    ("observation_sha256", .str observationSha256), ("reason", .str reason)]

def acceptedObservation (observationId : Json) (observation : Dict) : Append where
  eventType := .outcomeObservationAccepted
  payload := [("observation", .obj observation), ("observation_id", observationId)]

def acceptOutcomeObservation (world : World) (facade : Facade)
    (input : AppendInput) (enrollment observation : Dict) : Seam :=
  iterationSeam input
    (fun _ => do
      validateContract "iteration_enrollment" enrollment
      validateContract "outcome_observation" observation
      verifySigned world facade.verificationKeys enrollment
      verifySigned world facade.verificationKeys observation)
    (fun prior =>
      (prior.eventType = .outcomeObservationAccepted ||
        prior.eventType = .outcomeObservationRejected) &&
        Json.pyEqOption (prior.payload.get? "observation_id")
          (observation.get? "observation_id"))
    fun L locked => do
      check (ensure (locked.currentState = .collecting)
        "outcome observation requires collecting state")
      let state ← check (projectionState L locked)
      let definition ← check (dictItem state "definition")
      let armId ← check (item enrollment "arm_id")
      let selectedArm ← check (arm definition armId)
      let reason ← check (observationRejection world state definition selectedArm
        enrollment observation)
      let observationId ← check (item observation "observation_id")
      match reason with
      | some reason => do
          let observationSha256 ← check (sha256Hex world (.obj observation))
          pure (rejectedObservation observationId observationSha256 reason)
      | none => pure (acceptedObservation observationId observation)

/-- Python's `str`, on the values of an intent. -/
def textOf : Json → String
  | .str value => value
  | .null => "None"
  | .bool value => if value then "True" else "False"
  | value => JsonText.render canonical value

def intentPayload (intent : Dict) : Check Dict := do
  let descriptor ← item intent "descriptor_sha256"
  let enrollmentId ← item intent "enrollment_id"
  let taskId ← item intent "task_id"
  let terminalReceiptId ← item intent "terminal_receipt_id"
  pure [("descriptor_sha256", .str (textOf descriptor)),
    ("enrollment_id", .str (textOf enrollmentId)),
    ("task_id", .str (textOf taskId)),
    ("terminal_receipt_id", .str (textOf terminalReceiptId))]

def appendOutcomeEvaluationIntent (world : World) (facade : Facade) (draw : Draw)
    (intent : Dict) (L : Ledger) : Attempt (EventRow × Ledger) := do
  let missing := ["descriptor_sha256", "enrollment_id", "idempotency_key",
    "iteration_id", "task_id", "terminal_receipt_id"].filter fun k => !intent.has k
  check (ensure (missing = [])
    ("outcome evaluation intent is missing: " ++ ",".intercalate missing))
  let iterationId ← check (item intent "iteration_id")
  let key ← check (item intent "idempotency_key")
  let locked ← check (lockInstance L (textOf iterationId))
  check (requireKind locked .productIteration)
  check (ensure (locked.currentState = .collecting)
    "outcome evaluation intent requires collecting state")
  let payload ← check (intentPayload intent)
  match findIdempotentEvent L (textOf iterationId) (textOf key) with
  | some prior => do
      check (ensure (prior.eventType = .outcomeEvaluationIntentCreated ∧
          Json.dictEq prior.payload payload)
        "outcome evaluation intent idempotency conflict")
      pure (prior, L)
  | none =>
      appendLocked world facade draw locked (textOf key)
        [("actor_id", .str "product-outcome-runtime"),
          ("actor_type", .str "service")]
        { eventType := .outcomeEvaluationIntentCreated
          payload := payload } L

/-- What has to hold of the evidence before it is marked ready. -/
def requireSampleSize (L : Ledger) (workflowId : String) : Check Unit := do
  let locked ← lockInstance L workflowId
  requireKind locked .productIteration
  let state ← projectionState L locked
  let definition ← dictItem state "definition"
  let design ← dictItem definition "validation_design"
  let minimum ← item design "minimum_sample_size" >>= asNumber
  let count ← asNumber ((state.get? "accepted_observation_count").getD (Json.nat 0))
  ensure (minimum.valueLe count) "iteration evidence is below minimum sample size"

def markIterationEvidenceReady (input : AppendInput)
    (typed : Option TypedReceipt) : Seam :=
  { appendTransitionForKind .productIteration input "evidence_ready" typed with
    precheck := fun L => requireSampleSize L input.workflowId }

/-! ## Evaluation -/

def requestsPromotion (world : World) (workflowId : String)
    (definition evaluation request : Dict) : Check Bool := do
  if Json.pyEqOption (request.get? "workflow_id") (some (.str workflowId)) then do
    let hash ← promotionRequestHash world definition evaluation
    pure (Json.pyEqOption (request.get? "action_hash") (some (.str hash)))
  else pure false

def requireApprovalRequest (world : World) (workflowId : String)
    (definition evaluation : Dict) (approvalRequest : Option Dict)
    (missing mismatch needless : String) : Check Unit := do
  let recommendation ← item evaluation "recommendation"
  if recommendation.pyEq (.str "promote") then
    match approvalRequest with
    | none => .error (.valueError missing)
    | some request => do
        let exact ← requestsPromotion world workflowId definition evaluation request
        ensure (exact = true) mismatch
  else ensure (approvalRequest = none) needless

/-- The checks of `record_iteration_evaluation` before it appends. -/
def requireEvaluable (world : World) (facade : Facade) (input : AppendInput)
    (evaluation : Dict) (approvalRequest : Option Dict) (L : Ledger) :
    Check Unit := do
  validateContract "evaluation_receipt" evaluation
  verifySigned world facade.verificationKeys evaluation
  let locked ← lockInstance L input.workflowId
  requireKind locked .productIteration
  ensure ((locked.currentSequence : Int) = input.expectedSequence)
    "evaluation expected sequence is stale"
  ensure (locked.currentState = .evidenceReady)
    "evaluation requires evidence_ready state"
  let state ← projectionState L locked
  let definition ← dictItem state "definition"
  requireEvaluationParity world state definition evaluation
  requireApprovalRequest world input.workflowId definition evaluation
    approvalRequest "promotion recommendation requires approval request"
    "promotion approval request identity mismatch"
    "non-promotion evaluation cannot request release approval"

def requestApprovalOf (world : World) (facade : Facade)
    (approvalRequest : Option Dict) (L : Ledger) : Attempt Ledger :=
  match approvalRequest with
  | none => .ok L
  | some request => do
      let (_, L') ← requestApproval world facade request L
      pure L'

def recordIterationEvaluation (world : World) (facade : Facade)
    (input : AppendInput) (evaluation : Dict) (approvalRequest : Option Dict) :
    Seam :=
  { appendTransitionForKind .productIteration input "decision_pending"
      (some ⟨"evaluation_receipt", evaluation⟩) with
    precheck := requireEvaluable world facade input evaluation approvalRequest
    after := requestApprovalOf world facade approvalRequest }

/-- The transition of a re-evaluation, from `decision_pending` to itself. -/
def reEvaluation (evaluation : Dict) : Append where
  eventType := .transition
  payload := transitionPayload State.decisionPending.name
      State.decisionPending.name ++
    receiptMember (some ⟨"evaluation_receipt", evaluation⟩)
  currentState := some .decisionPending

def requireReEvaluable (world : World) (workflowId : String)
    (evaluation : Dict) (approvalRequest : Option Dict) (state : Dict) :
    Check Unit := do
  let definition ← dictItem state "definition"
  let prior := (state.get? "evaluation").getD .null
  ensure (prior.truthy = true) "iteration re-evaluation has no prior evaluation"
  let prior ← asDict prior
  let recommendation ← item prior "recommendation"
  ensure (recommendation.pyEq (.str "promote") = false)
    "promotion recommendation must be resolved before another attempt"
  let count ← asNumber ((state.get? "evaluation_attempt_count").getD (Json.nat 0))
  let budget ← dictItem definition "budget"
  let most ← item budget "max_evaluation_attempts" >>= asNumber
  ensure (most.valueLe count = false)
    "iteration evaluation attempt budget is exhausted"
  let attempt ← item evaluation "evaluation_attempt_id"
  let priorAttempt ← item prior "evaluation_attempt_id"
  ensure (attempt.pyEq priorAttempt = false)
    "iteration evaluation attempt ID must advance"
  requireEvaluationParity world state definition evaluation
  requireApprovalRequest world workflowId definition evaluation approvalRequest
    "promotion re-evaluation requires exact approval request"
    "promotion re-evaluation requires exact approval request"
    "non-promotion re-evaluation cannot request approval"

def recordIterationReEvaluation (world : World) (facade : Facade)
    (input : AppendInput) (evaluation : Dict) (approvalRequest : Option Dict) :
    Seam :=
  { iterationSeam input
    (fun _ => do
      validateContract "evaluation_receipt" evaluation
      verifySigned world facade.verificationKeys evaluation)
    (fun prior =>
      prior.eventType = .transition &&
        isText (prior.payload.get? "from_state") "decision_pending" &&
        isText (prior.payload.get? "to_state") "decision_pending" &&
        Json.pyEqOption (receiptOf prior.payload) (some (.obj evaluation)))
    fun L locked => do
      check (ensure (locked.currentState = .decisionPending)
        "iteration re-evaluation requires decision_pending state")
      let state ← check (projectionState L locked)
      check (requireReEvaluable world input.workflowId evaluation
        approvalRequest state)
      pure (reEvaluation evaluation) with
    after := requestApprovalOf world facade approvalRequest }

/-! ## Decision -/

def decidedState (recommendation : Json) : Option String :=
  match recommendation with
  | .str "reject" => some "rejected"
  | .str "inconclusive" => some "inconclusive"
  | .str "promote" => some "promoted"
  | _ => none

/-- The optional arguments of `finalize_iteration_decision`. -/
structure ReleaseLinkage where
  approvalConsumptionId : Option String
  releaseEffectReceiptId : Option String
  releaseWorkflowId : Option String

def given (s : Option String) : Bool := s.any fun s => s != ""

def requireReleaseEffect (world : World) (L : Ledger) (workflowId : String)
    (definition evaluation : Dict) (linkage : ReleaseLinkage) : Check Unit :=
  match linkage.approvalConsumptionId, linkage.releaseEffectReceiptId with
  | some consumptionId, some receiptId => do
      ensure (consumptionId ≠ "" ∧ receiptId ≠ "")
        "promotion requires approval consumption and owner receipt"
      let consumption ← readApprovalConsumption L consumptionId
      let receipt ← readSideEffectReceipt L receiptId
      let expectedHash ← promotionRequestHash world definition evaluation
      let target ← dictItem definition "release_target"
      let owner ← item target "owner_id"
      ensure (receipt.workflowId = workflowId ∧ receipt.status = "succeeded" ∧
          owner.pyEq (.str receipt.owner) = true ∧
          receipt.requestHash = expectedHash ∧
          consumption.effectOrTransitionId = receipt.effectId)
        "release effect does not match approved promotion"
  | _, _ => .error
      (.valueError "promotion requires approval consumption and owner receipt")

def requireDecidable (world : World) (L : Ledger) (workflowId targetState : String)
    (linkage : ReleaseLinkage) (state : Dict) : Check Unit := do
  let evaluation := (state.get? "evaluation").getD .null
  let definition := (state.get? "definition").getD .null
  ensure (evaluation.truthy && definition.truthy)
    "iteration decision has no evaluation"
  let evaluation ← asDict evaluation
  let definition ← asDict definition
  let recommendation ← item evaluation "recommendation"
  ensure (decidedState recommendation = some targetState)
    "iteration target does not match evaluation recommendation"
  if targetState = "promoted" then do
    ensure (given linkage.releaseWorkflowId)
      "promotion requires an exact release workflow ID"
    requireReleaseEffect world L workflowId definition evaluation linkage
  else
    ensure (¬ (given linkage.approvalConsumptionId ∨
        given linkage.releaseEffectReceiptId ∨ given linkage.releaseWorkflowId))
      "reject or inconclusive cannot carry release linkage"

def decision (fromState target : State) (linkage : ReleaseLinkage) : Append where
  eventType := .transition
  payload :=
    [("approval_consumption_id", Json.ofOption linkage.approvalConsumptionId),
      ("from_state", .str fromState.name),
      ("release_effect_receipt_id", Json.ofOption linkage.releaseEffectReceiptId),
      ("release_workflow_id", Json.ofOption linkage.releaseWorkflowId),
      ("to_state", .str target.name)]
  currentState := some target
  terminal := some true

def finalizeIterationDecision (world : World) (input : AppendInput)
    (targetState : String) (linkage : ReleaseLinkage) : Seam :=
  iterationSeam input (fun _ => .ok ())
    (fun prior =>
      prior.eventType = .transition &&
        isText (prior.payload.get? "to_state") targetState &&
        Json.pyEqOption (prior.payload.get? "release_workflow_id")
          (some (Json.ofOption linkage.releaseWorkflowId)))
    fun L locked => do
      let state ← check (projectionState L locked)
      check (requireDecidable world L input.workflowId targetState linkage state)
      let (target, _) ← check (requireTransition .productIteration
        locked.currentState targetState)
      pure (decision locked.currentState target linkage)

/-! ## Closure -/

def cancelProductIteration (world : World) (facade : Facade) (draw : Nat → Draw)
    (input : AppendInput) (reason : Dict) (L : Ledger) :
    Attempt (EventRow × Ledger) := do
  let (_, L₁) ← (requestCancellation
    { input with idempotencyKey := input.idempotencyKey ++ ":request" }
    reason).run world facade (draw 0) L
  (appendTransitionForKind .productIteration
    { input with
      expectedSequence := input.expectedSequence + 1
      idempotencyKey := input.idempotencyKey ++ ":transition" }
    "cancelled" none).run world facade (draw 1) L₁

/-- The pieces that a Python `for` loop takes from a value. -/
def pieces : Json → Check (List String)
  | .str value => .ok (value.toList.map fun c => String.ofList [c])
  | .arr items => items.mapM asText
  | .obj members => .ok (members.map Prod.fst)
  | _ => .error .typeError

/-- Whether `piece in "0123456789abcdef"`. -/
def inHexAlphabet (piece : String) : Bool :=
  "0123456789abcdef".toList.tails.any piece.toList.isPrefixOf

def validateClosure (closure : Dict) : Check Unit := do
  ensure (closure.map Prod.fst = ["evidence_hash", "reason_code", "recorded_at"])
    "inconclusive closure requires exact bounded receipt"
  let reasonCode ← item closure "reason_code"
  ensure (["window_ended", "budget_exhausted", "validation_inconclusive"].any
      fun reason => reasonCode.pyEq (.str reason))
    "inconclusive closure reason is invalid"
  let evidenceHash ← item closure "evidence_hash" >>= pieces
  ensure (evidenceHash.length = 64 ∧ evidenceHash.all inHexAlphabet)
    "inconclusive closure evidence hash is invalid"

def closureAppend (fromState : State) (closure : Dict) : Append where
  eventType := .transition
  payload := ("closure", .obj closure) ::
    transitionPayload fromState.name State.inconclusive.name
  currentState := some .inconclusive
  terminal := some true

def closeProductIterationInconclusive (input : AppendInput) (closure : Dict) :
    Seam :=
  iterationSeam input (fun _ => validateClosure closure)
    (fun prior =>
      prior.eventType = .transition &&
        isText (prior.payload.get? "to_state") "inconclusive" &&
        Json.pyEqOption (prior.payload.get? "closure") (some (.obj closure)))
    fun _ locked => do
      let _ ← check (requireTransition .productIteration locked.currentState
        "inconclusive")
      pure (closureAppend locked.currentState closure)

def supersession (fromState : State) (successorWorkflowId : String) : Append where
  eventType := .transition
  payload := [("from_state", .str fromState.name),
    ("successor_workflow_id", .str successorWorkflowId),
    ("to_state", .str State.superseded.name)]
  currentState := some .superseded
  terminal := some true

def requireSuccession (L : Ledger) (input : AppendInput)
    (source successor : InstanceRow) : Check Unit := do
  ensure (source.workflowKind = .productIteration ∧
      successor.workflowKind = .productIteration)
    "supersede requires product_iteration kinds"
  let state ← projectionState L successor
  let definition ← asDict ((state.get? "definition").getD (.obj []))
  ensure (successor.currentState = .admitted ∧
      Json.pyEqOption (definition.get? "parent_iteration_id")
        (some (.str input.workflowId)) = true)
    "successor must be admitted and pin its source iteration"
  ensure ((source.currentSequence : Int) = input.expectedSequence)
    "supersede expected sequence is stale"

def supersedeProductIteration (world : World) (facade : Facade) (draw : Draw)
    (input : AppendInput) (successorWorkflowId : String) (L : Ledger) :
    Attempt (EventRow × Ledger) := do
  let source ← check (lockInstance L input.workflowId)
  let successor ← check (lockInstance L successorWorkflowId)
  check (requireSuccession L input source successor)
  let _ ← check (requireTransition .productIteration source.currentState
    "superseded")
  appendLocked world facade draw source input.idempotencyKey input.actor
    (supersession source.currentState successorWorkflowId) L

/-! ## Releases -/

/-- What a release is checked against before it is opened. -/
structure PromotionSource where
  definition : Dict
  selectedArm : Dict
  targetSha256 : Json
  attestationId : Json

def requirePromotion (world : World) (L : Ledger) (identity : Dict)
    (sourceIterationId releaseEffectReceiptId : String) :
    Check PromotionSource := do
  let source ← lockInstance L sourceIterationId
  ensure (source.currentState = .promoted ∧ source.terminal = true)
    "product release source is not promoted"
  let receipt ← readSideEffectReceipt L releaseEffectReceiptId
  let state ← projectionState L source
  let definition ← dictItem state "definition"
  let link := (state.get? "promotion_link").getD .null
  let link ← if link.truthy then asDict link else .ok []
  let workflowId ← item identity "workflow_id"
  ensure (Json.pyEqOption (link.get? "release_workflow_id") (some workflowId) &&
      Json.pyEqOption (link.get? "release_effect_receipt_id")
        (some (.str releaseEffectReceiptId)))
    "product release workflow linkage mismatch"
  let target ← dictItem definition "release_target"
  let armId ← item target "arm_id"
  let selectedArm ← arm definition armId
  let evaluation ← dictItem state "evaluation"
  let expectedHash ← promotionRequestHash world definition evaluation
  ensure (receipt.requestHash = expectedHash)
    "product release receipt target mismatch"
  let parity ← fields selectedArm
    ["capability_identity", "development_attestation_id",
      "development_attestation_sha256", "consumer_compatibility_class",
      "configuration_fingerprint", "environment_fingerprint",
      "data_fingerprint"]
  match firstMismatch identity parity with
  | some field =>
      .error (.valueError ("product release identity " ++ field ++ " mismatch"))
  | none => do
      let attestationId ← item selectedArm "development_attestation_id"
      let targetSha256 ← item target "target_sha256"
      pure ⟨definition, selectedArm, targetSha256, attestationId⟩

def releaseLinkAppend (source : PromotionSource)
    (sourceIterationId releaseEffectReceiptId : String) : Append where
  eventType := .productReleaseLinked
  payload := [("development_attestation_id", source.attestationId),
    ("release_effect_receipt_id", .str releaseEffectReceiptId),
    ("source_iteration_id", .str sourceIterationId),
    ("target_sha256", source.targetSha256)]

def openProductReleaseFromPromotion (world : World) (facade : Facade)
    (draw : Draw) (identity : Dict)
    (sourceIterationId releaseEffectReceiptId : String) (actor : Dict)
    (idempotencyKey : String) (L : Ledger) : Attempt (InstanceRow × Ledger) := do
  check (ensure (isText (identity.get? "workflow_kind") "product_release")
    "product release identity must use product_release kind")
  let source ← check (requirePromotion world L identity sourceIterationId
    releaseEffectReceiptId)
  let (opened, L₁) ← openWorkflowKind world facade identity L
  let locked ← check (lockInstance L₁ opened.workflowId)
  let (_, L₂) ← appendLocked world facade draw locked idempotencyKey actor
    (releaseLinkAppend source sourceIterationId releaseEffectReceiptId) L₁
  let row ← check (readInstance L₂ opened.workflowId)
  pure (row, L₂)

end MindscapeLocalCore.DurableState.ProductIterations
