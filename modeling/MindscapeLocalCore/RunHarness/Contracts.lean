import MindscapeLocalCore.Library.Json

/-!
The contracts of the run harness, the selection of a harness and the admission of a tool.
-/

namespace MindscapeLocalCore.RunHarness.Contracts

open Library.Json

/-- `RunHarnessKind` -/
inductive HarnessKind where
  | compositionGraph
  | deterministicTool
  | durableWorkflow
  | meetingEscalation
deriving DecidableEq

/-- `RunIntentRiskClass` -/
inductive RiskClass where
  | low
  | moderate
  | high
  | critical
deriving DecidableEq

/-- `RunIntentSource` -/
inductive IntentSource where
  | chat
  | meeting
  | compositionGraph
  | toolRail
  | workflow
  | api
deriving DecidableEq

/-- `RunHarnessStatus` -/
inductive Status where
  | pending
  | running
  | waiting
  | succeeded
  | failed
  | canceled
  | escalated
deriving DecidableEq

/-- `TERMINAL_STATUS_VALUES` -/
def terminalStatuses : List Status := [.succeeded, .failed, .canceled, .escalated]

/-- `RunHarnessWaitKind` -/
inductive WaitKind where
  | userInput
  | humanApproval
  | resource
  | capability
  | model
  | externalAgent
deriving DecidableEq

/-- `EscalationDisposition` -/
inductive Disposition where
  | queueMeeting
  | requestStructuredInput
  | requestApproval
  | deterministicRepair
  | retryWithLowerCapability
  | failClosed
deriving DecidableEq

/-- `SideEffectClass` -/
inductive SideEffect where
  | none
  | readonly
  | softWrite
  | externalWrite
  | destructive
deriving DecidableEq

/-- `RunIntentEnvelope` -/
structure Envelope where
  originSurface : IntentSource
  requestedSideEffects : List SideEffect
  traceId : String
  preferredHarness : Option HarnessKind
  riskClass : RiskClass

/-- `RunHarnessSelection` -/
structure Selection where
  harnessKind : HarnessKind
  reasonCodes : List String

/-- `RunHarnessRouter.select`, without capability misses. -/
def select (envelope : Envelope) : Selection :=
  if envelope.riskClass = .critical then
    ⟨.meetingEscalation, ["critical_risk_requires_escalation"]⟩
  else match envelope.preferredHarness with
    | some kind => ⟨kind, ["explicit_harness_preference"]⟩
    | none =>
        match envelope.originSurface with
        | .compositionGraph => ⟨.compositionGraph, ["composition_graph_origin"]⟩
        | .workflow => ⟨.durableWorkflow, ["workflow_origin"]⟩
        | .toolRail => ⟨.deterministicTool, ["tool_rail_origin"]⟩
        | _ =>
            if ∃ effect ∈ envelope.requestedSideEffects, effect ≠ .none ∧ effect ≠ .readonly then
              ⟨.deterministicTool, ["bounded_side_effect_request"]⟩
            else ⟨.meetingEscalation, ["unclassified_intent_fail_closed"]⟩

/-- `RunHarnessWaitState` -/
structure WaitState where
  kind : WaitKind
  reason : String
  resumeToken : Option String := none

/-- `RunHarnessFailure` -/
structure Failure where
  code : String
  message : String
  details : Dict := []

/-- `RunHarnessNextAction` -/
structure NextAction where
  disposition : Disposition
  reason : String
  payloadRef : Option String := none

/-- `RunHarnessTraceRef` -/
structure TraceRef where
  traceId : String
  nodeIds : List String := []

/-- `RunHarnessResult`, of one episode. -/
structure Result where
  runId : String
  harnessKind : HarnessKind
  status : Status
  outputArtifactRefs : List String
  failure : Option Failure
  score : Option Dict
  nextAction : Option NextAction
  waitState : Option WaitState
  traceRefs : List TraceRef
  metadata : Dict

/-- `ToolAdmissionPolicy` -/
structure AdmissionPolicy where
  allowedToolRefs : List String
  deniedToolRefs : List String
  allowedSideEffects : List SideEffect
  requireApprovalFor : List SideEffect
  rollbackPlanRef : Option String

/-- `ToolAdmissionDecision` -/
inductive AdmissionDecision where
  | allow
  | deny
  | wait
  | escalate
deriving DecidableEq

/-- `ToolAdmissionResult` -/
structure Admission where
  decision : AdmissionDecision
  reasonCodes : List String
  waitState : Option WaitState

/-- `RunHarnessToolExecutionRequest` -/
structure ToolRequest where
  runId : String
  episodeId : String
  envelope : Envelope
  toolRef : String
  sideEffect : SideEffect
  policy : AdmissionPolicy
  approvalGranted : Bool
  rollbackAvailable : Bool

/-- `ToolAdmissionPolicyEvaluator.evaluate` -/
def evaluate (request : ToolRequest) : Admission :=
  let policy := request.policy
  if request.toolRef ∈ policy.deniedToolRefs then ⟨.deny, ["tool_explicitly_denied"], none⟩
  else if policy.allowedToolRefs ≠ [] ∧ request.toolRef ∉ policy.allowedToolRefs then
    ⟨.deny, ["tool_not_in_allowlist"], none⟩
  else if request.sideEffect ∉ policy.allowedSideEffects then
    if request.sideEffect ∈ policy.requireApprovalFor ∧ ¬ request.approvalGranted then
      ⟨.wait, ["human_approval_required"],
        some { kind := .humanApproval, reason := "Tool side effects require approval." }⟩
    else ⟨.deny, ["side_effect_not_allowed"], none⟩
  else if request.sideEffect = .destructive ∧
      ¬ (request.rollbackAvailable ∨ policy.rollbackPlanRef.isSome) then
    ⟨.escalate, ["destructive_tool_missing_rollback"], none⟩
  else ⟨.allow, ["tool_admitted"], none⟩

def firstReason (admission : Admission) : String := admission.reasonCodes.head?.getD "unknown"

/-- `RunHarnessWorkflowExecutionRequest` -/
structure WorkflowRequest where
  runId : String
  episodeId : String
  envelope : Envelope
  playbookCode : String

/-- `ToolExecutionResult` -/
structure ToolOutcome where
  success : Bool
  toolName : String
  toolType : String
  result : Json
  error : Option String
  executionTime : Json
  metadata : Dict

structure WorkflowOutcome where
  status : String
  error : Option String
  executionId : String

/-! ### Results of a tool -/

/-- `RunHarnessKind.value` -/
def HarnessKind.value : HarnessKind → String
  | .compositionGraph => "composition_graph"
  | .deterministicTool => "deterministic_tool"
  | .durableWorkflow => "durable_workflow"
  | .meetingEscalation => "meeting_escalation"

def toolResult (request : ToolRequest) (status : Status) : Result where
  runId := request.runId
  harnessKind := .deterministicTool
  status := status
  outputArtifactRefs := []
  failure := none
  score := none
  nextAction := none
  waitState := none
  traceRefs := [{ traceId := request.envelope.traceId }]
  metadata := [("ledger_episode_id", .str request.episodeId)]

def waitResult (request : ToolRequest) (admission : Admission) : Result :=
  { toolResult request .waiting with
    waitState := some <| admission.waitState.getD
      { kind := .humanApproval, reason := firstReason admission } }

def failureResult (request : ToolRequest) (code message : String) : Result :=
  { toolResult request .failed with failure := some { code := code, message := message } }

def escalatedResult (request : ToolRequest) (reason : String) : Result :=
  { toolResult request .escalated with
    nextAction := some { disposition := .queueMeeting, reason := reason } }

/-- `selection_escalation_result`, of a tool. -/
def toolSelectionResult (request : ToolRequest) (selection : Selection) : Result :=
  { toolResult request .escalated with
    harnessKind := selection.harnessKind
    nextAction := some
      { disposition := .queueMeeting
        reason := "run_harness_selection_not_deterministic_tool" }
    metadata :=
      [("ledger_episode_id", .str request.episodeId),
        ("selected_harness_kind", .str selection.harnessKind.value)] }

def runningDuplicateResult (request : ToolRequest) : Result :=
  { toolResult request .waiting with
    waitState := some
      { kind := .resource, reason := "tool_execution_already_in_progress" } }

def stringList? : Json → Option (List String)
  | .arr items => items.mapM fun
      | .str text => some text
      | _ => none
  | _ => none

def member? (key : String) : Json → Option Json
  | .obj members => Dict.get? members key
  | _ => none

def extractArtifactRefs (outcome : ToolOutcome) : List String :=
  (((member? "artifact_refs" outcome.result).bind stringList?).or
    ((outcome.metadata.get? "artifact_refs").bind stringList?)).getD []

def boundedStrings : Option Json → List String
  | some (.arr items) => (items.take 20).filterMap fun
      | .str text => if text = "" then none else some text
      | _ => none
  | _ => []

/-- `StructuredOutcomeKind` -/
inductive OutcomeKind where
  | completed
  | waiting
  | blocked
deriving DecidableEq

/-- `StructuredToolOutcome` -/
structure StructuredOutcome where
  kind : OutcomeKind
  reviewRequirements : List String := []
  blockingCodes : List String := []
  reviewBindingSha256 : Option String := none

def reviewBinding : Option Json → Option String
  | some (.str text) => if text.length = 64 then some text else none
  | _ => none

/-- `classify_structured_tool_outcome` -/
def classifyOutcome (result : Json) : StructuredOutcome :=
  match member? "artifact_created" result with
  | some (.bool false) =>
      let reviewRequirements := boundedStrings (member? "review_requirements" result)
      let blockingCodes := boundedStrings (member? "blocking_codes" result)
      let reviewBindingSha256 := reviewBinding (member? "review_binding_sha256" result)
      if blockingCodes ≠ [] then
        ⟨.blocked, reviewRequirements, blockingCodes, reviewBindingSha256⟩
      else if reviewRequirements ≠ [] then
        ⟨.waiting, reviewRequirements, [], reviewBindingSha256⟩
      else { kind := .completed }
  | _ => { kind := .completed }

def orElse (value : Option Json) (other : Json) : Json :=
  match value with
  | some value => if value.truthy then value else other
  | none => other

def executionMetadata (request : ToolRequest) (outcome : ToolOutcome) (snapshot : Dict) : Dict :=
  [("tool_name", .str outcome.toolName), ("tool_type", .str outcome.toolType),
    ("execution_time", outcome.executionTime),
    ("tool_source",
      orElse (outcome.metadata.get? "tool_source") ((snapshot.get? "source_type").getD .null)),
    ("ledger_episode_id", .str request.episodeId)]

def mapExecutionResult (request : ToolRequest) (outcome : ToolOutcome) (snapshot : Dict) :
    Result :=
  let metadata := executionMetadata request outcome snapshot
  if outcome.success then
    let structured := classifyOutcome outcome.result
    match structured.kind with
    | .waiting => { toolResult request .waiting with
        waitState := some
          { kind := .humanApproval, reason := "artifact_disclosure_review_required" }
        metadata := metadata ++
          [("review_binding_sha256", (structured.reviewBindingSha256.map .str).getD .null),
            ("review_requirements", .arr (structured.reviewRequirements.map .str))] }
    | .blocked =>
        { failureResult request "artifact_disclosure_blocked"
            "Artifact disclosure was blocked." with
          metadata := metadata ++
            [("blocking_codes", .arr (structured.blockingCodes.map .str))] }
    | .completed => { toolResult request .succeeded with
        outputArtifactRefs := extractArtifactRefs outcome
        metadata := metadata }
  else
    let message := outcome.error.getD ""
    { failureResult request "tool_execution_failed"
        (if message = "" then "Tool execution failed." else message) with
      outputArtifactRefs := extractArtifactRefs outcome
      metadata := metadata }

/-! ### Results of a workflow -/

def workflowResult (request : WorkflowRequest) (status : Status) : Result where
  runId := request.runId
  harnessKind := .durableWorkflow
  status := status
  outputArtifactRefs := []
  failure := none
  score := none
  nextAction := none
  waitState := none
  traceRefs := [{ traceId := request.envelope.traceId }]
  metadata := [("ledger_episode_id", .str request.episodeId)]

/-- `_selection_escalation_result` -/
def workflowSelectionResult (request : WorkflowRequest) (selection : Selection) : Result :=
  { workflowResult request .escalated with
    harnessKind := selection.harnessKind
    nextAction := some
      { disposition := .queueMeeting
        reason := "run_harness_selection_not_durable_workflow" }
    metadata :=
      [("ledger_episode_id", .str request.episodeId),
        ("selected_harness_kind", .str selection.harnessKind.value)] }

/-- `_running_duplicate_result` -/
def workflowDuplicateResult (request : WorkflowRequest) : Result :=
  { workflowResult request .waiting with
    waitState := some
      { kind := .resource, reason := "workflow_execution_already_in_progress" } }

def mapInitialResult (request : WorkflowRequest) (outcome : WorkflowOutcome) : Result :=
  let statusText := outcome.status.toLower
  let executionId := if outcome.executionId = "" then request.runId else outcome.executionId
  let metadata : Dict :=
    [("ledger_episode_id", .str request.episodeId), ("source_execution_id", .str executionId)]
  if statusText = "error" ∨ statusText = "failed" then
    let message := outcome.error.getD ""
    { workflowResult request .failed with
      runId := executionId
      failure := some
        { code := "workflow_execution_failed"
          message := if message = "" then "Workflow execution failed." else message }
      metadata := metadata }
  else
    { workflowResult request .waiting with
      runId := executionId
      waitState := some { kind := .resource, reason := "workflow_execution_running" }
      metadata := metadata ++
        [("runtime_status", .str (if statusText = "" then "running" else statusText))] }

end MindscapeLocalCore.RunHarness.Contracts
