import MindscapeLocalCore.DurableState.FacadeAppend

/-!
Control-plane methods of the single durable facade: approvals, side-effect
receipts and checkpoints.  None of them touches an event chain.
-/

namespace MindscapeLocalCore.DurableState.Controls

open Library.Json Library.Table CanonicalJson Contracts Errors FacadeAppend Records Reducers
open Repository

variable (world : World) (facade : Facade)

def signRecord (contract : String) (payload : Dict) : Check Dict := do
  let unsigned := payload.erase "signature"
  let encoded ← encode (.obj unsigned)
  let signed := unsigned.set "signature" (.str (facade.signer.signature encoded))
  validateContract contract signed
  pure signed

def timeItem (d : Dict) (k : String) : Check Timestamp := do
  let text ← textItem d k
  match world.timestamptz text with
  | some time => pure time
  | none => .error (.dataError k)

/-! ## Approvals -/

def approvalRequestRow (signed : Dict) : Check ApprovalRequestRow := do
  let approvalId ← textItem signed "approval_id"
  let workflowId ← textItem signed "workflow_id"
  let interruptId ← textItem signed "interrupt_id"
  let toolCallId ← textItem signed "tool_call_id"
  let actionHash ← textItem signed "action_hash"
  let resumePayloadHash ← textItem signed "resume_payload_hash"
  let requestedBy ← textItem signed "requested_by"
  let quorum ← toInt ((signed.get? "quorum").getD (Json.nat 1))
  let expiresAt ← timeItem world signed "expires_at"
  let signature ← textItem signed "signature"
  let createdAt ← timeItem world signed "created_at"
  pure {
    approvalId := approvalId
    workflowId := workflowId
    interruptId := interruptId
    toolCallId := toolCallId
    actionHash := actionHash
    resumePayloadHash := resumePayloadHash
    requestedBy := requestedBy
    requiredQuorum := quorum
    separationOfDuties :=
      ((signed.get? "separation_of_duties").getD (.bool false)).truthy
    payload := signed
    expiresAt := expiresAt
    keyId := facade.signer.keyId world
    signature := signature
    createdAt := createdAt }

def insertApprovalRequest (L : Ledger) (row : ApprovalRequestRow) :
    Attempt Ledger := do
  constrain (lookup ApprovalRequestRow.approvalId row.approvalId
    L.approvalRequests = none) .approvalPrimaryKey
  constrain (L.row? row.workflowId ≠ none) .approvalWorkflow
  constrain (1 ≤ row.requiredQuorum ∧ row.requiredQuorum ≤ 20)
    .approvalQuorumRange
  constrain (octetLength row.payload ≤ 16384) .receiptPayloadSize
  constrain
    (lookup (fun r : ApprovalRequestRow =>
        (r.workflowId, r.interruptId, r.toolCallId, r.actionHash))
      (row.workflowId, row.interruptId, row.toolCallId, row.actionHash)
      L.approvalRequests = none) .approvalActionUnique
  pure { L with approvalRequests := L.approvalRequests ++ [row] }

def requestApproval (payload : Dict) (L : Ledger) : Attempt (Dict × Ledger) := do
  let signed ← check (signRecord facade "approval"
    (payload.set "phase" (.str "request")))
  let row ← check (approvalRequestRow world facade signed)
  let L' ← insertApprovalRequest L row
  pure (signed, L')

def readApprovalRequest (L : Ledger) (approvalId : String) :
    Check ApprovalRequestRow :=
  match lookup ApprovalRequestRow.approvalId approvalId L.approvalRequests with
  | some row => .ok row
  | none => .error (.keyError approvalId)

structure DecisionInput where
  approvalId : String
  decisionId : String
  decidedBy : String
  decision : String
  policyVersion : String
  createdAt : String

def insertApprovalDecision (L : Ledger) (row : ApprovalDecisionRow) :
    Attempt Ledger := do
  constrain (lookup ApprovalDecisionRow.decisionId row.decisionId
    L.approvalDecisions = none) .decisionPrimaryKey
  constrain (row.decision ∈ ["approved", "rejected", "expired", "revoked"])
    .decisionValue
  constrain (octetLength row.payload ≤ 16384) .receiptPayloadSize
  constrain
    (lookup (fun r : ApprovalDecisionRow => (r.approvalId, r.decidedBy))
      (row.approvalId, row.decidedBy) L.approvalDecisions = none)
    .decisionDeciderUnique
  pure { L with approvalDecisions := L.approvalDecisions ++ [row] }

def decideApproval (now : Timestamp) (input : DecisionInput) (L : Ledger) :
    Attempt (Dict × Ledger) := do
  let request ← check (readApprovalRequest L input.approvalId)
  check (ensure (now < request.expiresAt) "approval request is expired")
  check (ensure
    (¬ (request.separationOfDuties = true ∧ input.decidedBy = request.requestedBy))
    "approval decision violates separation of duties")
  let base := (((((request.payload.set "phase" (.str "decision")).set
    "decided_by" (.str input.decidedBy)).set
    "decision" (.str input.decision)).set
    "quorum" (.num (.int request.requiredQuorum))).set
    "separation_of_duties" (.bool request.separationOfDuties)).set
    "created_at" (.str input.createdAt)
  let signed ← check (signRecord facade "approval" base)
  let signature ← check (textItem signed "signature")
  let decidedAt ← check (timeItem world signed "created_at")
  let L' ← insertApprovalDecision L
    { decisionId := input.decisionId
      approvalId := input.approvalId
      decidedBy := input.decidedBy
      decision := input.decision
      policyVersion := input.policyVersion
      payload := signed
      keyId := facade.signer.keyId world
      signature := signature
      decidedAt := decidedAt }
  pure (signed, L')

structure ConsumptionInput where
  approvalId : String
  consumptionId : String
  deliveryId : String
  effectOrTransitionId : String
  createdAt : String

/-- `ORDER BY decided_at, decision_id` -/
def decidedLe (a b : ApprovalDecisionRow) : Bool :=
  decide (a.decidedAt < b.decidedAt ∨
    (a.decidedAt = b.decidedAt ∧ a.decisionId ≤ b.decisionId))

def insertApprovalConsumption (L : Ledger) (row : ApprovalConsumptionRow) :
    Attempt Ledger := do
  constrain (lookup ApprovalConsumptionRow.consumptionId row.consumptionId
    L.approvalConsumptions = none) .consumptionPrimaryKey
  constrain (octetLength row.payload ≤ 16384) .receiptPayloadSize
  constrain (lookup ApprovalConsumptionRow.approvalId row.approvalId
    L.approvalConsumptions = none) .consumptionApprovalUnique
  constrain (lookup ApprovalConsumptionRow.deliveryId row.deliveryId
    L.approvalConsumptions = none) .consumptionDeliveryUnique
  constrain (lookup ApprovalConsumptionRow.effectOrTransitionId
    row.effectOrTransitionId L.approvalConsumptions = none)
    .consumptionEffectUnique
  pure { L with approvalConsumptions := L.approvalConsumptions ++ [row] }

def consumeApproval (now : Timestamp) (input : ConsumptionInput) (L : Ledger) :
    Attempt (Dict × Ledger) := do
  let request ← check (readApprovalRequest L input.approvalId)
  let decisions := (select ApprovalDecisionRow.approvalId input.approvalId
    L.approvalDecisions).mergeSort decidedLe
  let approved := decisions.filter fun row => row.decision = "approved"
  check (ensure (now < request.expiresAt ∧
    ∀ row ∈ decisions, row.decision = "approved") "approval cannot be consumed")
  check (ensure (request.requiredQuorum ≤ approved.length)
    "approval quorum is incomplete")
  match approved.getLast? with
  | none => .error (.rejected (.keyError input.approvalId))
  | some last => do
      let base := ((((request.payload.set "phase" (.str "consumption")).set
        "decision_receipt_id" (.str last.decisionId)).set
        "delivery_id" (.str input.deliveryId)).set
        "consumed_effect_id" (.str input.effectOrTransitionId)).set
        "created_at" (.str input.createdAt)
      let signed ← check (signRecord facade "approval" base)
      let signature ← check (textItem signed "signature")
      let consumedAt ← check (timeItem world signed "created_at")
      let L' ← insertApprovalConsumption L
        { consumptionId := input.consumptionId
          approvalId := input.approvalId
          decisionId := last.decisionId
          deliveryId := input.deliveryId
          effectOrTransitionId := input.effectOrTransitionId
          payload := signed
          keyId := facade.signer.keyId world
          signature := signature
          consumedAt := consumedAt }
      pure (signed, L')

/-! ## Side-effect receipts -/

def sideEffectRow (signed : Dict) : Check SideEffectRow := do
  let receiptId ← textItem signed "receipt_id"
  let workflowId ← textItem signed "workflow_id"
  let effectId ← textItem signed "effect_id"
  let effectType ← textItem signed "effect_type"
  let owner ← textItem signed "owner"
  let requestHash ← textItem signed "request_hash"
  let responseHash ← Errors.optionalText signed "response_hash"
  let adapterId ← textItem signed "adapter_id"
  let adapterVersion ← textItem signed "adapter_version"
  let status ← textItem signed "status"
  let replayDisposition ← textItem signed "replay_disposition"
  let attempt ← item signed "attempt" >>= toInt
  let signature ← textItem signed "signature"
  let recordedAt ← timeItem world signed "recorded_at"
  pure {
    receiptId := receiptId
    workflowId := workflowId
    effectId := effectId
    effectType := effectType
    owner := owner
    requestHash := requestHash
    responseHash := responseHash
    adapterId := adapterId
    adapterVersion := adapterVersion
    status := status
    replayDisposition := replayDisposition
    attempt := attempt
    payload := signed
    keyId := facade.signer.keyId world
    signature := signature
    recordedAt := recordedAt }

def SettlesEffect (row : SideEffectRow) : Prop :=
  row.status = "succeeded" ∨ row.status = "compensated"

instance (row : SideEffectRow) : Decidable (SettlesEffect row) :=
  inferInstanceAs (Decidable (_ ∨ _))

def insertSideEffect (L : Ledger) (row : SideEffectRow) : Attempt Ledger := do
  constrain (lookup SideEffectRow.receiptId row.receiptId L.sideEffects = none)
    .sideEffectPrimaryKey
  constrain (L.row? row.workflowId ≠ none) .sideEffectWorkflow
  constrain (octetLength row.payload ≤ 16384) .receiptPayloadSize
  constrain
    (lookup (fun r : SideEffectRow => (r.workflowId, r.effectId, r.owner, r.attempt))
      (row.workflowId, row.effectId, row.owner, row.attempt) L.sideEffects = none)
    .sideEffectAttemptUnique
  constrain
    (¬ (SettlesEffect row ∧ ∃ r ∈ L.sideEffects, SettlesEffect r ∧
      (r.workflowId, r.effectId, r.owner) =
        (row.workflowId, row.effectId, row.owner)))
    .sideEffectTerminalOwnerUnique
  pure { L with sideEffects := L.sideEffects ++ [row] }

def recordSideEffect (payload : Dict) (L : Ledger) : Attempt (Dict × Ledger) := do
  let signed ← check (signRecord facade "side_effect_receipt" payload)
  let row ← check (sideEffectRow world facade signed)
  let L' ← insertSideEffect L row
  pure (signed, L')

/-! ## Checkpoints -/

def checkpointExpectation (locked : InstanceRow) : List (String × Json) :=
  [("segment_id", .str locked.segmentId),
    ("sequence", Json.nat locked.currentSequence),
    ("event_hash", Json.ofOption locked.currentEventHash),
    ("reducer_version", .str locked.reducerVersion)]

def parentCheckpoint (L : Ledger) (w : String) : Option CheckpointRow :=
  (select CheckpointRow.workflowId w L.checkpoints).foldl
    (fun best row =>
      match best with
      | none => some row
      | some latest => if latest.sequence < row.sequence then some row else best)
    none

def insertCheckpoint (L : Ledger) (row : CheckpointRow) : Attempt Ledger := do
  constrain (lookup CheckpointRow.checkpointId row.checkpointId L.checkpoints = none)
    .checkpointPrimaryKey
  constrain (octetLength row.payload ≤ 16384) .receiptPayloadSize
  constrain
    (lookup (fun r : CheckpointRow => (r.workflowId, r.sequence))
      (row.workflowId, row.sequence) L.checkpoints = none)
    .checkpointSequenceUnique
  pure { L with checkpoints := L.checkpoints ++ [row] }

def appendCheckpoint (receipt : Dict) (L : Ledger) : Attempt (Dict × Ledger) := do
  let workflowId ← check (textItem receipt "workflow_id")
  let locked ← check (lockInstance L workflowId)
  match firstMismatch receipt (checkpointExpectation locked) with
  | some field => .error (.rejected
      (.valueError ("checkpoint " ++ field ++ " must equal locked aggregate")))
  | none => do
      let signed ← check (signRecord facade "checkpoint" receipt)
      let checkpointId ← check (textItem signed "checkpoint_id")
      let stateHash ← check (textItem signed "state_hash")
      let eventHash ← check (textItem signed "event_hash")
      let signature ← check (textItem signed "signature")
      let createdAt ← check (timeItem world signed "committed_at")
      let L' ← insertCheckpoint L
        { checkpointId := checkpointId
          workflowId := workflowId
          sequence := locked.currentSequence
          parentCheckpointId :=
            (parentCheckpoint L workflowId).map CheckpointRow.checkpointId
          stateHash := stateHash
          eventHash := eventHash
          reducerVersion := locked.reducerVersion
          payload := signed
          keyId := facade.signer.keyId world
          signature := signature
          createdAt := createdAt }
      pure (signed, L')

end MindscapeLocalCore.DurableState.Controls
