import MindscapeLocalCore.DurableState.CanonicalJson
import MindscapeLocalCore.Library.Table

/-!
The rows of the durable-workflow tables, and the ledger that they make up.
-/

namespace MindscapeLocalCore.DurableState.Records

open Library.Json Library.Table Transitions

abbrev Timestamp := Int

/-- The event types of the `workflow_event` contract that the facade writes, and
the one type it writes that the contract does not know. -/
inductive EventType where
  | transition | timerRecorded | externalMessageRecorded
  | cancellationRequested | segmentRollover
  | productIterationDefined | iterationEnrollmentAccepted
  | outcomeObservationAccepted | outcomeObservationRejected
  | productReleaseLinked | outcomeEvaluationIntentCreated
  deriving DecidableEq

def EventType.name : EventType → String
  | .transition => "transition"
  | .timerRecorded => "timer_recorded"
  | .externalMessageRecorded => "external_message_recorded"
  | .cancellationRequested => "cancellation_requested"
  | .segmentRollover => "segment_rollover"
  | .productIterationDefined => "product_iteration_defined"
  | .iterationEnrollmentAccepted => "iteration_enrollment_accepted"
  | .outcomeObservationAccepted => "outcome_observation_accepted"
  | .outcomeObservationRejected => "outcome_observation_rejected"
  | .productReleaseLinked => "product_release_linked"
  | .outcomeEvaluationIntentCreated => "outcome_evaluation_intent_created"

/-- A row of `durable_workflow_instances`. -/
structure InstanceRow where
  workflowId : String
  rootWorkflowId : String
  segmentId : String
  segmentNumber : Nat
  predecessorSegmentId : Option String
  predecessorTerminalHash : Option String
  workflowKind : WorkflowKind
  workspaceId : String
  executionId : Option String
  semanticIdentity : Dict
  semanticIdentityHash : String
  currentSequence : Nat
  currentEventHash : Option String
  currentState : State
  terminal : Bool
  workflowDefinitionVersion : String
  reducerVersion : String
  effectAdapterRegistryVersion : String
  runtimeBuildId : String
  eventCount : Nat
  canonicalEventBytes : Nat
  nextDurableDeadline : Option Timestamp
  cancellationState : Option String

/-- A row of `durable_workflow_events`. -/
structure EventRow where
  eventId : String
  workflowId : String
  segmentId : String
  sequence : Nat
  eventType : EventType
  idempotencyKey : String
  timerId : Option String
  externalMessageId : Option String
  actor : Dict
  payload : Dict
  payloadSha256 : String
  previousEventHash : Option String
  eventHash : String
  canonicalBytes : Nat
  occurredAt : String
  keyId : String
  signature : String

/-- The `current` row of `durable_workflow_projection_offsets`. -/
structure ProjectionRow where
  workflowId : String
  lastSequence : Nat
  reducerVersion : String
  stateHash : String
  state : Dict

structure ApprovalRequestRow where
  approvalId : String
  workflowId : String
  interruptId : String
  toolCallId : String
  actionHash : String
  resumePayloadHash : String
  requestedBy : String
  requiredQuorum : Int
  separationOfDuties : Bool
  payload : Dict
  expiresAt : Timestamp
  keyId : String
  signature : String
  createdAt : Timestamp

structure ApprovalDecisionRow where
  decisionId : String
  approvalId : String
  decidedBy : String
  decision : String
  policyVersion : String
  payload : Dict
  keyId : String
  signature : String
  decidedAt : Timestamp

structure ApprovalConsumptionRow where
  consumptionId : String
  approvalId : String
  decisionId : String
  deliveryId : String
  effectOrTransitionId : String
  payload : Dict
  keyId : String
  signature : String
  consumedAt : Timestamp

structure SideEffectRow where
  receiptId : String
  workflowId : String
  effectId : String
  effectType : String
  owner : String
  requestHash : String
  responseHash : Option String
  adapterId : String
  adapterVersion : String
  status : String
  replayDisposition : String
  attempt : Int
  payload : Dict
  keyId : String
  signature : String
  recordedAt : Timestamp

structure CheckpointRow where
  checkpointId : String
  workflowId : String
  sequence : Nat
  parentCheckpointId : Option String
  stateHash : String
  eventHash : String
  reducerVersion : String
  payload : Dict
  keyId : String
  signature : String
  createdAt : Timestamp

/-- The tables that the facade writes, each in insertion order. -/
structure Ledger where
  instances : List InstanceRow
  events : List EventRow
  projections : List ProjectionRow
  approvalRequests : List ApprovalRequestRow
  approvalDecisions : List ApprovalDecisionRow
  approvalConsumptions : List ApprovalConsumptionRow
  sideEffects : List SideEffectRow
  checkpoints : List CheckpointRow

namespace Ledger

def empty : Ledger := ⟨[], [], [], [], [], [], [], []⟩

def row? (L : Ledger) (w : String) : Option InstanceRow :=
  lookup InstanceRow.workflowId w L.instances

def eventsOf (L : Ledger) (w : String) : List EventRow :=
  select EventRow.workflowId w L.events

def projection? (L : Ledger) (w : String) : Option ProjectionRow :=
  lookup ProjectionRow.workflowId w L.projections

/-- Everything that the ledger stores about one workflow's event chain. -/
structure View where
  row : Option InstanceRow
  events : List EventRow
  projection : Option ProjectionRow

def view (L : Ledger) (w : String) : View :=
  ⟨L.row? w, L.eventsOf w, L.projection? w⟩

end Ledger

end MindscapeLocalCore.DurableState.Records
