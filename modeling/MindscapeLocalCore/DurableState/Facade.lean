import MindscapeLocalCore.DurableState.FacadeAppend

/-!
The write facade for durable workflows: opening, the generic append operations,
and the rollover of a segment.
-/

namespace MindscapeLocalCore.DurableState.Facade

open Library.Guarded Library.Json CanonicalJson Contracts Errors Events FacadeAppend Records
open Reducers Repository Transitions

/-! ## Opening -/

/-- `CompatibilityRegistry.require` -/
def requireCompatible (facade : Facade) (identity : Dict) : Check Unit :=
  let resolve (field : String) (registry : List String) : Check Unit := do
    let version ← textItem identity field
    require (version ∈ registry) (.incompatibleHistory field version)
  do
    resolve "workflow_definition_version" facade.workflowDefinitions
    resolve "reducer_version" facade.reducers
    resolve "effect_adapter_registry_version" facade.effectAdapters

def kindOf (identity : Dict) : Check WorkflowKind := do
  let name ← textItem identity "workflow_kind"
  match WorkflowKind.ofName? name with
  | some kind => pure kind
  | none => .error (.valueError ("unknown workflow kind: " ++ name))

def identityRow (identity : Dict) (identityHash : String) (state : State) :
    Check InstanceRow := do
  let workflowId ← textItem identity "workflow_id"
  let rootWorkflowId ← textItem identity "root_workflow_id"
  let segmentId ← textItem identity "segment_id"
  let segmentNumber ← item identity "segment_number" >>= toInt
  let predecessorSegmentId ← Errors.optionalText identity "predecessor_segment_id"
  let predecessorTerminalHash ←
    Errors.optionalText identity "predecessor_terminal_hash"
  let kind ← kindOf identity
  let workspaceId ← textItem identity "workspace_id"
  let executionId ← Errors.optionalText identity "execution_id"
  let workflowDefinitionVersion ← textItem identity "workflow_definition_version"
  let reducerVersion ← textItem identity "reducer_version"
  let effectAdapterRegistryVersion ←
    textItem identity "effect_adapter_registry_version"
  let runtimeBuildId ← textItem identity "runtime_build_id"
  pure {
    workflowId := workflowId
    rootWorkflowId := rootWorkflowId
    segmentId := segmentId
    segmentNumber := segmentNumber.toNat
    predecessorSegmentId := predecessorSegmentId
    predecessorTerminalHash := predecessorTerminalHash
    workflowKind := kind
    workspaceId := workspaceId
    executionId := executionId
    semanticIdentity := identity
    semanticIdentityHash := identityHash
    currentSequence := 0
    currentEventHash := none
    currentState := state
    terminal := false
    workflowDefinitionVersion := workflowDefinitionVersion
    reducerVersion := reducerVersion
    effectAdapterRegistryVersion := effectAdapterRegistryVersion
    runtimeBuildId := runtimeBuildId
    eventCount := 0
    canonicalEventBytes := 0
    nextDurableDeadline := none
    cancellationState := none }

def insertIdentity (world : World) (identity : Dict) (state : State)
    (L : Ledger) : Attempt (InstanceRow × Ledger) := do
  let identityHash ← check (sha256Hex world (.obj identity))
  let row ← check (identityRow identity identityHash state)
  let L' ← insertInstance L row
  pure (row, L')

def openWorkflowKind (world : World) (facade : Facade) (identity : Dict)
    (L : Ledger) : Attempt (InstanceRow × Ledger) := do
  check (validateContract "semantic_execution_identity" identity)
  check (requireCompatible facade identity)
  let kind ← check (kindOf identity)
  insertIdentity world identity (initialState kind) L

def openWorkflow (world : World) (facade : Facade) (identity : Dict)
    (L : Ledger) : Attempt (InstanceRow × Ledger) := do
  check (ensure (isText (identity.get? "workflow_kind") "execution")
    "non-execution workflow requires its specialized facade seam")
  openWorkflowKind world facade identity L

/-! ## Append operations -/

structure AppendInput where
  workflowId : String
  expectedSequence : Int
  idempotencyKey : String
  actor : Dict

structure TypedReceipt where
  receiptType : String
  receipt : Dict

def TypedReceipt.wrapped (typed : TypedReceipt) : Json :=
  .obj [("receipt", .obj typed.receipt), ("receipt_type", .str typed.receiptType)]

def receiptMember : Option TypedReceipt → Dict
  | none => []
  | some typed => [("typed_receipt", typed.wrapped)]

def validateReceipt : Option TypedReceipt → Check Unit
  | none => .ok ()
  | some typed => validateTypedReceipt typed.receiptType typed.receipt

def transitionPayload (fromState toState : String) : Dict :=
  [("from_state", .str fromState), ("to_state", .str toState)]

def appendTransitionForKind (expectedKind : WorkflowKind) (input : AppendInput)
    (targetState : String) (typed : Option TypedReceipt) : Seam where
  workflowId := input.workflowId
  expectedSequence := input.expectedSequence
  idempotencyKey := input.idempotencyKey
  actor := input.actor
  precheck _ := .ok ()
  isRetryOf prior :=
    prior.eventType = .transition && Json.dictEq prior.actor input.actor &&
      isText (prior.payload.get? "to_state") targetState &&
      Json.pyEqOption (prior.payload.get? "typed_receipt")
        (typed.map TypedReceipt.wrapped)
  kindCheck locked :=
    require (locked.workflowKind = expectedKind)
      (.conflict (.transitionSeam locked.workflowKind.name))
  plan _ locked := do
    let (target, terminal) ← check (requireTransition locked.workflowKind
      locked.currentState targetState)
    require (¬ (locked.workflowKind = .execution ∧ terminal = true))
      (.conflict .executionTerminalSeam)
    check (validateReceipt typed)
    pure {
      eventType := .transition
      payload := transitionPayload locked.currentState.name targetState ++
        receiptMember typed
      currentState := some target
      terminal := some terminal }

def appendTransition (input : AppendInput) (targetState : String)
    (typed : Option TypedReceipt) : Seam :=
  appendTransitionForKind .execution input targetState typed

def appendTypedReceiptForKind (expectedKind : Option WorkflowKind)
    (input : AppendInput) (typed : TypedReceipt) : Seam where
  workflowId := input.workflowId
  expectedSequence := input.expectedSequence
  idempotencyKey := input.idempotencyKey
  actor := input.actor
  precheck _ := validateTypedReceipt typed.receiptType typed.receipt
  isRetryOf prior :=
    prior.eventType = .transition && Json.dictEq prior.actor input.actor &&
      Json.pyEqOption (prior.payload.get? "typed_receipt") (some typed.wrapped)
  kindCheck locked :=
    require (∀ kind, expectedKind = some kind → locked.workflowKind = kind)
      (.conflict (.receiptSeam locked.workflowKind.name))
  plan _ locked :=
    pure {
      eventType := .transition
      payload := receiptMember (some typed)
      currentState := some locked.currentState
      terminal := some locked.terminal }

def appendTypedReceipt (input : AppendInput) (typed : TypedReceipt) : Seam :=
  appendTypedReceiptForKind (some .execution) input typed

def appendReleaseHealth (input : AppendInput) (healthReceipt : Dict) : Seam :=
  appendTypedReceiptForKind (some .productRelease) input
    ⟨"release_health_receipt", healthReceipt⟩

def appendEvidenceLifecycle (input : AppendInput)
    (lifecycleManifestOrReceipt : Dict) : Seam :=
  appendTypedReceiptForKind none input
    ⟨"evidence_lifecycle_manifest", lifecycleManifestOrReceipt⟩

def present (payload : Dict) (k : String) : Bool :=
  ((payload.get? k).getD .null).truthy

def validateTimer (world : World) (payload : Dict) : Check Unit := do
  ensure (present payload "timer_id" && present payload "deadline")
    "timer_id and deadline are required"
  let deadline ← textItem payload "deadline"
  ensure (world.fromisoformat (deadline.replace "Z" "+00:00"))
    "Invalid isoformat string"

def recordPayload (input : AppendInput) (eventType : EventType) (payload : Dict)
    (precheck : Check Unit) (plan : InstanceRow → Attempt Append) : Seam where
  workflowId := input.workflowId
  expectedSequence := input.expectedSequence
  idempotencyKey := input.idempotencyKey
  actor := input.actor
  precheck _ := precheck
  isRetryOf prior :=
    prior.eventType = eventType && Json.dictEq prior.actor input.actor &&
      Json.dictEq prior.payload payload
  kindCheck _ := .ok ()
  plan _ := plan

def recordTimer (world : World) (input : AppendInput) (timer : Dict) : Seam :=
  recordPayload input .timerRecorded timer (validateTimer world timer) fun _ => do
    let timerId ← check (item timer "timer_id")
    let deadline ← check (textItem timer "deadline")
    pure {
      eventType := .timerRecorded
      payload := timer
      timerId := some timerId
      nextDurableDeadline := some deadline }

def validateExternalMessage (payload : Dict) : Check Unit :=
  ensure (present payload "external_message_id") "external_message_id is required"

def recordExternalMessage (input : AppendInput) (message : Dict) : Seam :=
  recordPayload input .externalMessageRecorded message
    (validateExternalMessage message) fun _ => do
      let externalMessageId ← check (item message "external_message_id")
      pure {
        eventType := .externalMessageRecorded
        payload := message
        externalMessageId := some externalMessageId }

def validateCancellation (payload : Dict) : Check Unit :=
  ensure (present payload "reason") "cancellation reason is required"

def requestCancellation (input : AppendInput) (reason : Dict) : Seam :=
  recordPayload input .cancellationRequested reason
    (validateCancellation reason) fun locked => do
      require (locked.terminal = false) (.conflict .terminalCannotBeCancelled)
      pure {
        eventType := .cancellationRequested
        payload := reason
        cancellationState := some "requested" }

/-! ## Rollover -/

def successorIdentity (locked : InstanceRow) (successorWorkflowId : String)
    (eventHash : String) : Dict :=
  locked.semanticIdentity.update
    [("workflow_id", .str successorWorkflowId),
      ("root_workflow_id", .str locked.rootWorkflowId),
      ("segment_id", .str (successorWorkflowId ++ ":segment:" ++
        toString (locked.segmentNumber + 1))),
      ("segment_number", Json.nat (locked.segmentNumber + 1)),
      ("predecessor_segment_id", .str locked.segmentId),
      ("predecessor_terminal_hash", .str eventHash)]

def rolloverAppend (successorWorkflowId : String) : Append where
  eventType := .segmentRollover
  payload := [("successor_workflow_id", .str successorWorkflowId)]
  terminal := some true

def rolloverSegment (world : World) (facade : Facade) (draw : Draw)
    (input : AppendInput) (successorWorkflowId : String) (L : Ledger) :
    Attempt (InstanceRow × Ledger) := do
  let (locked, retry) ← beginAppend L input.workflowId input.expectedSequence
    input.idempotencyKey fun prior =>
      prior.eventType = .segmentRollover && Json.dictEq prior.actor input.actor &&
        isText (prior.payload.get? "successor_workflow_id") successorWorkflowId
  match retry with
  | some _ => do
      let successor ← check (readInstance L successorWorkflowId)
      pure (successor, L)
  | none => do
      require (¬ (locked.eventCount < maxSegmentEvents - 1 ∧
          locked.canonicalEventBytes < maxSegmentBytes - 16384))
        (.conflict .rolloverThresholdNotReached)
      let (event, L') ← appendLocked world facade draw locked
        input.idempotencyKey input.actor (rolloverAppend successorWorkflowId) L
      let identity := successorIdentity locked successorWorkflowId event.eventHash
      check (validateContract "semantic_execution_identity" identity)
      check (requireCompatible facade identity)
      insertIdentity world identity locked.currentState L'

end MindscapeLocalCore.DurableState.Facade
