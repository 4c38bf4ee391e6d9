import Mathlib.Logic.Function.Basic
import MindscapeLocalCore.Library.Json
import MindscapeLocalCore.Library.NumberText

/-!
When the result of an execution is followed up by another task, and what that task is given.
-/

namespace MindscapeLocalCore.Governance.RemediationPolicy

open Library Library.Json

/-- `EvalResult`, without its checks. -/
structure EvalResult where
  passed : Bool
  qualityScore : Number
  reasons : List String

structure FollowUpContext where
  remediationRound : ℤ
  originalExecutionId : String
  originalArtifactId : Option String
  playbookCode : Option String
  evalReasons : List String
  evalQualityScore : Number
  acceptanceTests : Option Json
  idempotencyKey : String
  taskIrId : Option Json
  originalMessageId : Option String

inductive Reason where
  | evalPassed
  | maxRoundsReached (maxRounds : ℤ)
  | closeEnough (qualityScore minQualityScore : Number)
  | belowThreshold (qualityScore : Number) (failingChecks : ℕ)

/-- `RemediationDecision` -/
structure Decision where
  shouldFollowUp : Bool
  reason : Reason
  remediationRound : ℤ
  followUpContext : Option FollowUpContext

/-- `RemediationPolicy` -/
structure Policy where
  maxRounds : ℤ
  minQualityScore : Number

def defaultPolicy : Policy where
  maxRounds := 2
  minQualityScore := .float false 5 (-1)

def idempotencyKey (executionId : String) (round : ℤ) : String :=
  "followup:" ++ executionId ++ ":" ++ round.repr

/-- `RemediationPolicy.decide` -/
def decide (policy : Policy) (evalResult : EvalResult) (currentRound : ℤ) (executionId : String)
    (artifactId playbookCode : Option String) (acceptanceTests : Option Json) : Decision :=
  let nextRound := currentRound + 1
  if evalResult.passed then
    ⟨false, .evalPassed, currentRound, none⟩
  else if policy.maxRounds ≤ currentRound then
    ⟨false, .maxRoundsReached policy.maxRounds, currentRound, none⟩
  else if policy.minQualityScore.valueLe evalResult.qualityScore then
    ⟨false, .closeEnough evalResult.qualityScore policy.minQualityScore, currentRound, none⟩
  else
    ⟨true, .belowThreshold evalResult.qualityScore evalResult.reasons.length, nextRound,
      some
        { remediationRound := nextRound
          originalExecutionId := executionId
          originalArtifactId := artifactId
          playbookCode := playbookCode
          evalReasons := evalResult.reasons
          evalQualityScore := evalResult.qualityScore
          acceptanceTests := acceptanceTests
          idempotencyKey := idempotencyKey executionId nextRound
          taskIrId := none
          originalMessageId := none }⟩

/-! ### Keys -/

variable {executionId executionId' : String} {round round' : ℤ}

theorem colon_notMem_repr (n : ℤ) : ':' ∉ n.repr.toList := by
  intro hmem
  rcases NumberText.isDigit_of_mem_intRepr hmem with hsign | hdigit
  · exact absurd hsign (by decide)
  · exact absurd hdigit (by decide)

theorem idempotencyKey_inj :
    idempotencyKey executionId round = idempotencyKey executionId' round' ↔
      executionId = executionId' ∧ round = round' := by
  constructor
  · intro h
    have hlist := congrArg String.toList h
    simp only [idempotencyKey, String.toList_append, List.append_assoc] at hlist
    obtain ⟨hid, hround⟩ := NumberText.append_cons_inj (colon_notMem_repr round)
      (colon_notMem_repr round') (List.append_cancel_left hlist)
    exact ⟨String.toList_inj.mp hid, NumberText.intRepr_inj (String.toList_inj.mp hround)⟩
  · rintro ⟨rfl, rfl⟩
    rfl

theorem idempotencyKey_ne_empty : idempotencyKey executionId round ≠ "" := by
  intro h
  have hlist := congrArg String.toList h
  simp only [idempotencyKey, String.toList_append, List.append_assoc] at hlist
  exact absurd hlist (by simp)

end MindscapeLocalCore.Governance.RemediationPolicy

/-!
Completions whose result is evaluated as failing: each looks its task up, decides, registers the
attempt and creates the follow-up task, one store call at a time.
-/

namespace MindscapeLocalCore.Governance.FollowUps

open Library.Json RemediationPolicy

/-- A row of `handoff_registry`. -/
structure HandoffRow where
  idempotencyKey : String
  taskIrId : Json
  phaseId : String
  attemptNumber : ℕ
  status : String

structure Task where
  id : String
  workspaceId : String
  messageId : String
  executionId : Option String
  packId : String
  taskType : String
  status : String
  params : Dict
  executionContext : Dict

/-- What a call of `process_completion` brings to the follow-up: its own arguments, the artifact
that was landed and the evaluation of the result. -/
structure Completion where
  workspaceId : String
  executionId : String
  artifactId : Option String
  playbookCode : Option String
  evalResult : EvalResult

/-! ### Looking the task up -/

/-- `get_task_by_execution_id`, of tasks that are listed newest first. -/
def getTaskByExecutionId (executionId : String) (tasks : List Task) : Option Task :=
  (tasks.find? fun task => task.executionId = some executionId).or
    (tasks.find? fun task => task.id = executionId)

/-- `context.get("remediation_round", 0)`, where one can be added to it. -/
def currentRound (context : Dict) : Option ℤ :=
  match context.get? "remediation_round" with
  | none => some 0
  | some (.num (.int round)) => some round
  | some (.bool true) => some 1
  | some (.bool false) => some 0
  | some _ => none

def governancePayloadFields : List String :=
  ["acceptance_tests", "trace_id", "governance_constraints", "requested_output_type",
    "human_instructions", "context_attachments"]

def present? : Option Json → Option Json
  | some .null => none
  | value => value

def extractGovernancePayload : Option Json → Option Dict
  | some (.obj (member :: members)) =>
      let data : Dict := member :: members
      match data.get? "governance" with
      | some (.obj (first :: rest)) => some (first :: rest)
      | _ =>
          let extracted : Dict := governancePayloadFields.filterMap fun field =>
            (present? (data.get? field)).map fun value => (field, value)
          if extracted = [] then none else some extracted
  | _ => none

/-- `resolve_governance_payload`, of the context of a task. -/
def resolveGovernancePayload (context : Dict) : Option Dict :=
  (extractGovernancePayload
      (some (.obj [("governance", (context.get? "governance").getD .null)]))).or
    ((extractGovernancePayload (context.get? "execution_metadata")).or
      (extractGovernancePayload (context.get? "inputs")))

/-- `trigger_follow_up`, up to the creation of a task: the context of the follow-up, if one is
due. A round that cannot be counted on raises. -/
def followUpContextOf (call : Completion) (task : Option Task) : Option FollowUpContext :=
  let context := (task.map Task.executionContext).getD []
  (currentRound context).bind fun round =>
    let decision := decide defaultPolicy call.evalResult round call.executionId call.artifactId
      call.playbookCode ((resolveGovernancePayload context).bind fun governance =>
        governance.get? "acceptance_tests")
    if decision.shouldFollowUp then
      decision.followUpContext.map fun followUp =>
        { followUp with
          taskIrId := context.get? "task_ir_id"
          originalMessageId := task.map Task.messageId }
    else none

/-! ### Creating the follow-up -/

/-- `follow_up_context.get("task_ir_id") or ""` -/
def taskIrIdOf (followUp : FollowUpContext) : Json :=
  match followUp.taskIrId with
  | some id => if id.truthy then id else .str ""
  | none => .str ""

def attemptRow (followUp : FollowUpContext) : HandoffRow where
  idempotencyKey := followUp.idempotencyKey
  taskIrId := taskIrIdOf followUp
  phaseId := "remediation-" ++ followUp.remediationRound.repr
  attemptNumber := 1
  status := "dispatched"

/-- `HandoffRegistryStore.register_attempt`: no answer where the registry is not available. -/
def registerAttempt (available : Bool) (row : HandoffRow) (registry : List HandoffRow) :
    Option Bool × List HandoffRow :=
  if available then
    if ∃ old ∈ registry, old.idempotencyKey = row.idempotencyKey then (some false, registry)
    else (some true, registry ++ [row])
  else (none, registry)

def optionText (value : Option String) : Json := (value.map .str).getD .null

def followUpExecutionContext (followUp : FollowUpContext) (playbookCode : Option String) : Dict :=
  let governance : Dict :=
    (present? followUp.acceptanceTests).toList.map fun tests => ("acceptance_tests", tests)
  [("remediation_round", .num (.int followUp.remediationRound)),
    ("original_execution_id", .str followUp.originalExecutionId),
    ("original_artifact_id", optionText followUp.originalArtifactId),
    ("eval_reasons", .arr (followUp.evalReasons.map .str)),
    ("eval_quality_score", .num followUp.evalQualityScore),
    ("task_ir_id", taskIrIdOf followUp),
    ("playbook_code", optionText playbookCode)] ++
    if governance = [] then []
    else
      [("governance", .obj governance),
        ("execution_metadata", .obj [("governance", .obj governance)])]

/-- The task that `create_follow_up_task` creates, under a new id. -/
def followUpTask (call : Completion) (followUp : FollowUpContext) (id : String) : Task where
  id := id
  workspaceId := call.workspaceId
  messageId :=
    let fallback := "remediation-" ++ followUp.originalExecutionId ++ "-r" ++
      followUp.remediationRound.repr
    match followUp.originalMessageId with
    | some messageId => if messageId = "" then fallback else messageId
    | none => fallback
  executionId := none
  packId :=
    match call.playbookCode with
    | some code => if code = "" then "meeting_dispatch" else code
    | none => "meeting_dispatch"
  taskType := "playbook_execution"
  status := "pending"
  params := [("remediation", .bool true), ("playbook_code", optionText call.playbookCode)]
  executionContext := followUpExecutionContext followUp call.playbookCode

/-! ### Calls, one store call at a time -/

/-- What came of a call: the follow-up that was due, what the registry answered when it was
asked, and the task that was created, if the creation was tried and did not fail. -/
structure Outcome where
  followUp : Option FollowUpContext
  registered : Option (Option Bool)
  creation : Option (Option String)

inductive Phase where
  | absent
  /-- the task is looked up next -/
  | reading (call : Completion)
  /-- the attempt is registered next -/
  | registering (call : Completion) (followUp : FollowUpContext)
  /-- the task is created next -/
  | creating (call : Completion) (followUp : FollowUpContext) (registered : Option (Option Bool))
  | done (call : Completion) (outcome : Outcome)

structure State where
  registry : List HandoffRow
  tasks : List Task
  calls : ℕ → Phase

structure Input where
  registryAvailable : Bool
  createSucceeds : Bool
  newId : String

inductive Event where
  | call (i : ℕ) (call : Completion)
  | step (i : ℕ) (input : Input)

def State.enter (s : State) (i : ℕ) (phase : Phase) : State :=
  { s with calls := Function.update s.calls i phase }

def begin (call : Completion) : Phase :=
  if call.evalResult.passed then .done call ⟨none, none, none⟩ else .reading call

def decided (call : Completion) : Option FollowUpContext → Phase
  | none => .done call ⟨none, none, none⟩
  | some followUp =>
      if followUp.idempotencyKey = "" then .creating call followUp none
      else .registering call followUp

/-- After the registration: `if not ok: return`. -/
def registeredPhase (call : Completion) (followUp : FollowUpContext) : Option Bool → Phase
  | some true => .creating call followUp (some (some true))
  | answer => .done call ⟨some followUp, some answer, none⟩

def step (s : State) (i : ℕ) (input : Input) : State :=
  match s.calls i with
  | .reading call =>
      s.enter i <| decided call <|
        followUpContextOf call (getTaskByExecutionId call.executionId s.tasks)
  | .registering call followUp =>
      let (answer, registry) :=
        registerAttempt input.registryAvailable (attemptRow followUp) s.registry
      State.enter { s with registry := registry } i (registeredPhase call followUp answer)
  | .creating call followUp registered =>
      if input.createSucceeds then
        State.enter { s with tasks := followUpTask call followUp input.newId :: s.tasks } i
          (.done call ⟨some followUp, registered, some (some input.newId)⟩)
      else s.enter i (.done call ⟨some followUp, registered, some none⟩)
  | _ => s

def next (s : State) : Event → State
  | .call i call =>
      match s.calls i with
      | .absent => s.enter i (begin call)
      | _ => s
  | .step i input => step s i input

end MindscapeLocalCore.Governance.FollowUps
