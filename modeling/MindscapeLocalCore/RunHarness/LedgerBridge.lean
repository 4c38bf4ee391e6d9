import MindscapeLocalCore.Library.PythonText
import MindscapeLocalCore.RunHarness.Execution

/-!
The bridge through which a workflow that runs records its life in the ledger of its episode.
-/

namespace MindscapeLocalCore.RunHarness.LedgerBridge

open Library Library.Json Contracts EpisodeLedger Execution

structure RuntimeResult where
  status : Option String
  error : Option String
  outputs : Option Dict
  hasCheckpoint : Bool

def bridgeResult (episodeId executionId : String) (status : Status) : Result where
  runId := executionId
  harnessKind := .durableWorkflow
  status := status
  outputArtifactRefs := []
  failure := none
  score := none
  nextAction := none
  waitState := none
  traceRefs := []
  metadata := [("ledger_episode_id", .str episodeId), ("source_execution_id", .str executionId)]

/-- `str(value).strip()` is not empty, of a plain value. -/
def isFilled : Json → Bool
  | .str text => PythonText.strip text ≠ ""
  | .num _ => true
  | .bool _ => true
  | _ => false

def checkpointSummary (checkpoint : Option Dict) : Dict :=
  ["checkpoint_ref", "resume_token", "pause_mode", "step_id", "error_type"].filterMap fun key =>
    ((checkpoint.getD []).get? key).bind fun value => if isFilled value then some (key, value) else none

def textOf? : Option Json → Option String
  | some (.str text) => some text
  | _ => none

/-- The result of `record_pending`, unless the resume token of the checkpoint is no text. -/
def pendingResult (episodeId executionId : String) (checkpoint : Option Dict) : Option Result :=
  let summary := checkpointSummary checkpoint
  let resumeToken := textOf? (summary.get? "resume_token")
  let base := bridgeResult episodeId executionId .waiting
  if (summary.get? "resume_token").isSome ∧ resumeToken = none then none
  else some
    { base with
      waitState := some <|
        if textOf? (summary.get? "pause_mode") = some "user_reserved" then
          { kind := .humanApproval
            reason := "Workflow runtime paused at a resumable checkpoint."
            resumeToken := resumeToken }
        else
          { kind := .resource
            reason := "workflow_checkpoint_wait"
            resumeToken := resumeToken }
      metadata := base.metadata ++ [("checkpoint_available", .bool (summary ≠ []))] }

/-- `compact_result.get("workflow_failed") is True` -/
def workflowFailed (compactResult : Dict) : Bool :=
  match compactResult.get? "workflow_failed" with
  | some (.bool true) => true
  | _ => false

def runtimeFailed (runtimeResult : RuntimeResult) (compactResult : Dict) : Bool :=
  if workflowFailed compactResult then true
  else
    let own := (runtimeResult.status.filter (· ≠ ""))
    let status := ((own.or (textOf? (compactResult.get? "status"))).getD "").toLower
    decide (status = "failed" ∨ status = "error")

def runtimeErrorMessage (runtimeResult : RuntimeResult) (compactResult : Dict) : String :=
  let own := (runtimeResult.error.filter (· ≠ ""))
  match (own.or (textOf? (compactResult.get? "error"))).filter fun error => isFilled (.str error) with
  | some error => error
  | none =>
      if workflowFailed compactResult then "Workflow completed with step errors"
      else "Workflow execution failed."

/-- `_extract_artifact_refs`: the first of the candidates that is a list of strings. -/
def runtimeArtifactRefs (runtimeResult : RuntimeResult) (compactResult : Dict) : List String :=
  let candidates :=
    [compactResult.get? "artifact_refs", compactResult.get? "output_artifact_refs",
      runtimeResult.outputs.bind fun outputs => outputs.get? "artifact_refs",
      (compactResult.get? "outputs").bind (member? "artifact_refs")]
  (candidates.findSome? fun candidate => candidate.bind stringList?).getD []

/-- The result of `record_terminal`. -/
def terminalResult (episodeId executionId : String) (runtimeResult : RuntimeResult)
    (compactResult : Dict) : Result :=
  let failed := runtimeFailed runtimeResult compactResult
  let base := bridgeResult episodeId executionId (if failed then .failed else .succeeded)
  { base with
    outputArtifactRefs := runtimeArtifactRefs runtimeResult compactResult
    failure :=
      if failed then
        some
          { code := "workflow_execution_failed"
            message := runtimeErrorMessage runtimeResult compactResult }
      else none
    metadata := base.metadata ++
      [("runtime_status", (runtimeResult.status.map Json.str).getD .null),
        ("checkpoint_available", .bool runtimeResult.hasCheckpoint)] }

/-- The result of `record_failed`, unless the error has no text. -/
def failedResult (episodeId executionId error : String) : Option Result :=
  if error = "" then none
  else some
    { bridgeResult episodeId executionId .failed with
      failure := some { code := "workflow_execution_failed", message := error } }

def recordStarted : Run Unit := do
  let _ ← ledgerCall (.appendEvent workflowStarted .running)

def record (eventType : String) : Option Result → Run Unit
  | none => pure ()
  | some result => do
      let _ ← recordTerminalResult (some eventType) result

def recordPending (episodeId executionId : String) (checkpoint : Option Dict) : Run Unit :=
  record "workflow_execution_pending" (pendingResult episodeId executionId checkpoint)

def recordTerminal (episodeId executionId : String) (runtimeResult : RuntimeResult)
    (compactResult : Dict) : Run Unit :=
  let result := terminalResult episodeId executionId runtimeResult compactResult
  record
    (if result.status = .failed then "workflow_execution_failed"
      else "workflow_execution_completed")
    (some result)

def recordFailed (episodeId executionId error : String) : Run Unit :=
  record "workflow_execution_failed" (failedResult episodeId executionId error)

end MindscapeLocalCore.RunHarness.LedgerBridge
