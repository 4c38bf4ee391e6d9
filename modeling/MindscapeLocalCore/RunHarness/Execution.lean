import MindscapeLocalCore.RunHarness.EpisodeLedger

/-!
The two services that run an episode: each looks at the ledger first, and records that it has
started before it starts its tool or its workflow.
-/

namespace MindscapeLocalCore.RunHarness.Execution

open Library.Interaction Library.Interaction.Program Library.Json Contracts EpisodeLedger

abbrev Run (α : Type) : Type := Program Op Answer α

/-- `_ledger_call`, and what a call asks of others. -/
def ledgerCall (o : Op) : Run (Answer o) := ask o

def recordTerminalResult (eventType : Option String) (result : Result) : Run Result := do
  match eventType with
  | some eventType =>
      let _ ← ledgerCall (.appendEvent eventType result.status)
      ledgerCall (.upsertResult result)
  | none => ledgerCall (.upsertResult result)

/-- `_create_episode`, where no observation was found. -/
def createIfMissing (runId : String) (selection : Selection) :
    Option Observation → Run Unit
  | none => ledgerCall (.createEpisode runId selection.harnessKind)
  | some _ => pure ()

def unlessDone (startedEvent : String) (duplicate : Result)
    (next : Option Observation → Run Result) : Run Result := do
  let terminal : Option Result ← ledgerCall .getTerminalResult
  match terminal with
  | some result => pure result
  | none =>
      let observation : Option Observation ← ledgerCall .getObservation
      if hasStarted startedEvent observation then pure duplicate
      else next observation

/-! ### Tools -/

def toolStarted : String := "tool_execution_started"

def completionEvent (result : Result) : String :=
  match result.status with
  | .succeeded => "tool_execution_completed"
  | .waiting => "tool_execution_waiting"
  | _ => "tool_execution_failed"

/-- The part of `execute` after the tool was admitted. -/
def runTool (request : ToolRequest) : Run Result := do
  let found : Option Dict ← ledgerCall (.resolveSnapshot request.toolRef)
  match found with
  | none =>
      recordTerminalResult (some "tool_execution_failed") <|
        failureResult request "tool_metadata_snapshot_missing"
          "Tool metadata snapshot is required before execution."
  | some snapshot =>
      let _ ← ledgerCall (.appendEvent toolStarted .running)
      let outcome : ToolOutcome ← ledgerCall (.startTool request.toolRef)
      let result := mapExecutionResult request outcome snapshot
      let _ ← ledgerCall (.appendEvent (completionEvent result) result.status)
      recordTerminalResult none result

def admissionStatus : AdmissionDecision → Status
  | .allow => .running
  | .wait => .waiting
  | .deny => .failed
  | .escalate => .escalated

/-- The part of `execute` after the episode was created. -/
def admitTool (request : ToolRequest) (selection : Selection) : Run Result := do
  if selection.harnessKind = .deterministicTool then
    let _ ← ledgerCall (.appendEvent "tool_execution_requested" .pending)
    let admission := evaluate request
    let _ ← ledgerCall (.appendEvent "tool_admission_evaluated" (admissionStatus admission.decision))
    match admission.decision with
    | .wait =>
        recordTerminalResult (some "tool_execution_waiting") (waitResult request admission)
    | .deny =>
        recordTerminalResult (some "tool_execution_denied") <|
          failureResult request "tool_admission_denied" (firstReason admission)
    | .escalate =>
        recordTerminalResult (some "tool_execution_escalated") <|
          escalatedResult request (firstReason admission)
    | .allow => runTool request
  else
    recordTerminalResult (some "tool_execution_rejected_by_selection")
      (toolSelectionResult request selection)

/-- `RunHarnessToolExecutionService.execute` -/
def execute (request : ToolRequest) : Run Result :=
  unlessDone toolStarted (runningDuplicateResult request) fun observation => do
    let selection := select request.envelope
    let _ ← createIfMissing request.runId selection observation
    admitTool request selection

/-! ### Workflows -/

def workflowStarted : String := "workflow_execution_started"

/-- The part of `start` after the episode was created. -/
def runWorkflow (request : WorkflowRequest) (selection : Selection) : Run Result := do
  if selection.harnessKind = .durableWorkflow then
    let _ ← ledgerCall (.appendEvent "workflow_execution_requested" .pending)
    let _ ← ledgerCall (.appendEvent workflowStarted .running)
    let outcome : WorkflowOutcome ← ledgerCall (.startWorkflow request.playbookCode)
    recordTerminalResult none (mapInitialResult request outcome)
  else
    recordTerminalResult (some "workflow_execution_rejected_by_selection")
      (workflowSelectionResult request selection)

/-- `RunHarnessWorkflowExecutionService.start` -/
def start (request : WorkflowRequest) : Run Result :=
  unlessDone workflowStarted (workflowDuplicateResult request) fun observation => do
    let selection := select request.envelope
    let _ ← createIfMissing request.runId selection observation
    runWorkflow request selection

/-! ### Order of mark and start -/

inductive Service where
  | tool
  | workflow
deriving DecidableEq

def Service.startedEvent : Service → String
  | .tool => toolStarted
  | .workflow => workflowStarted

def Service.records (service : Service) : Op → Bool
  | .appendEvent eventType _ => eventType = service.startedEvent
  | _ => false

def Service.starts : Service → Op → Bool
  | .tool, .startTool _ => true
  | .workflow, .startWorkflow _ => true
  | _, _ => false

def Service.Quiet (service : Service) (o : Op) : Prop :=
  ¬ (service.records o = true ∨ service.starts o = true)

variable {service : Service}

theorem quiet_appendEvent {eventType : String} (status : Status)
    (h : eventType ≠ service.startedEvent) : service.Quiet (.appendEvent eventType status) := by
  rintro (hrecords | hstarts)
  · exact h (of_decide_eq_true hrecords)
  · cases service with
    | tool => cases hstarts
    | workflow => cases hstarts

theorem quiet_of_answers {o : Op} (hrecords : service.records o = false)
    (hstarts : service.starts o = false) : service.Quiet o := by
  rw [Service.Quiet, hrecords, hstarts]
  decide

def Silent (service : Service) (p : Run Result) : Prop :=
  p.Avoids fun o => service.records o = true ∨ service.starts o = true

def RecordsFirst (service : Service) (p : Run Result) : Prop :=
  p.MarksFirst (fun o => service.records o = true) fun o => service.starts o = true

theorem quiet_upsertResult (result : Result) : service.Quiet (.upsertResult result) := by
  cases service with
  | tool => exact quiet_of_answers rfl rfl
  | workflow => exact quiet_of_answers rfl rfl

theorem silent_recordTerminalResult {eventType : Option String} {result : Result}
    (h : ∀ name, eventType = some name → name ≠ service.startedEvent) :
    Silent service (recordTerminalResult eventType result) := by
  cases eventType with
  | none => exact ⟨quiet_upsertResult result, fun _ => trivial⟩
  | some name =>
      exact ⟨quiet_appendEvent _ (h name rfl), fun _ => ⟨quiet_upsertResult result, fun _ => trivial⟩⟩

theorem recordsFirst_bind {o : Op} {next : Answer o → Run Result} (hquiet : service.Quiet o)
    (h : ∀ a, RecordsFirst service (next a)) : RecordsFirst service (ledgerCall o >>= next) :=
  ⟨fun hstarts => hquiet (.inr hstarts), .inr ⟨fun hrecords => hquiet (.inl hrecords), h⟩⟩

theorem silent_bind {o : Op} {next : Answer o → Run Result} (hquiet : service.Quiet o)
    (h : ∀ a, Silent service (next a)) : Silent service (ledgerCall o >>= next) := ⟨hquiet, h⟩

theorem recordsFirst_of_silent {p : Run Result} (h : Silent service p) :
    RecordsFirst service p := marksFirst_of_avoids h

theorem recordsFirst_createIfMissing {runId : String} {selection : Selection}
    {observation : Option Observation} {next : Unit → Run Result}
    (h : ∀ a, RecordsFirst service (next a)) :
    RecordsFirst service (createIfMissing runId selection observation >>= next) := by
  cases observation with
  | none =>
      refine recordsFirst_bind ?_ h
      cases service with
      | tool => exact quiet_of_answers rfl rfl
      | workflow => exact quiet_of_answers rfl rfl
  | some _ => exact h ()

theorem recordsFirst_recordTerminalResult {name : String} {result : Result}
    (h : name ≠ service.startedEvent) :
    RecordsFirst service (recordTerminalResult (some name) result) := by
  refine recordsFirst_of_silent (silent_recordTerminalResult ?_)
  rintro _ ⟨rfl⟩
  exact h

theorem recordsFirst_runTool (request : ToolRequest) : RecordsFirst .tool (runTool request) := by
  refine recordsFirst_bind (quiet_of_answers rfl rfl) fun (found : Option Dict) => ?_
  cases found with
  | none =>
      exact recordsFirst_recordTerminalResult (by decide)
  | some snapshot =>
      -- the start is recorded, and the tool runs
      have hrecords : Service.tool.records (.appendEvent toolStarted .running) = true := by
        decide
      refine ⟨Bool.false_ne_true, .inl ⟨hrecords, fun _ => ?_⟩⟩
      refine ⟨Bool.false_ne_true, .inl ⟨rfl, fun (outcome : ToolOutcome) => ?_⟩⟩
      refine silent_bind (quiet_appendEvent _ ?_) fun _ => silent_recordTerminalResult ?_
      · rw [completionEvent]
        split
        · decide
        · decide
        · decide
      · intro name h
        cases h

theorem recordsFirst_admitTool (request : ToolRequest) (selection : Selection) :
    RecordsFirst .tool (admitTool request selection) := by
  rw [admitTool]
  split
  · refine recordsFirst_bind (quiet_appendEvent _ (by decide)) fun _ =>
      recordsFirst_bind (quiet_appendEvent _ (by decide)) fun _ => ?_
    split
    · exact recordsFirst_recordTerminalResult (by decide)
    · exact recordsFirst_recordTerminalResult (by decide)
    · exact recordsFirst_recordTerminalResult (by decide)
    · exact recordsFirst_runTool request
  · exact recordsFirst_recordTerminalResult (by decide)

theorem recordsFirst_runWorkflow (request : WorkflowRequest) (selection : Selection) :
    RecordsFirst .workflow (runWorkflow request selection) := by
  rw [runWorkflow]
  split
  · refine recordsFirst_bind (quiet_appendEvent _ (by decide)) fun _ => ?_
    -- the start is recorded, and the workflow starts
    have hrecords : Service.workflow.records (.appendEvent workflowStarted .running) = true := by
      decide
    refine ⟨Bool.false_ne_true, .inl ⟨hrecords, fun _ => ?_⟩⟩
    refine ⟨Bool.false_ne_true, .inl ⟨rfl, fun (outcome : WorkflowOutcome) => ?_⟩⟩
    have hsilent : Silent .workflow
        (recordTerminalResult none (mapInitialResult request outcome)) := by
      refine silent_recordTerminalResult ?_
      intro name h
      cases h
    exact hsilent
  · exact recordsFirst_recordTerminalResult (by decide)

theorem recordsFirst_unlessDone {startedEvent : String} {duplicate : Result}
    {next : Option Observation → Run Result}
    (h : ∀ observation, RecordsFirst service (next observation)) :
    RecordsFirst service (unlessDone startedEvent duplicate next) := by
  have hquiet : service.Quiet .getTerminalResult ∧ service.Quiet .getObservation := by
    cases service with
    | tool => exact ⟨quiet_of_answers rfl rfl, quiet_of_answers rfl rfl⟩
    | workflow => exact ⟨quiet_of_answers rfl rfl, quiet_of_answers rfl rfl⟩
  refine recordsFirst_bind hquiet.1 fun (terminal : Option Result) => ?_
  cases terminal with
  | some _ => trivial
  | none =>
      refine recordsFirst_bind hquiet.2 fun (observation : Option Observation) => ?_
      split
      · trivial
      · exact h observation

theorem recordsFirst_execute (request : ToolRequest) : RecordsFirst .tool (execute request) :=
  recordsFirst_unlessDone fun _ => recordsFirst_createIfMissing fun _ =>
    recordsFirst_admitTool request _

theorem recordsFirst_start (request : WorkflowRequest) :
    RecordsFirst .workflow (start request) :=
  recordsFirst_unlessDone fun _ => recordsFirst_createIfMissing fun _ =>
    recordsFirst_runWorkflow request _

/-! ### Answers -/

/-- What a call returns is the terminal result that it found, or the answer of a duplicate
because it found a started event, or the result that it stored. -/
def Warrants (service : Service) (duplicate : Result) : (o : Op) → Answer o → Result → Prop
  | .getTerminalResult, terminal, result => terminal = some result
  | .getObservation, observation, result =>
      hasStarted service.startedEvent observation = true ∧ result = duplicate
  | .upsertResult _, stored, result => result = stored
  | _, _, _ => False

def ReturnsWarranted (service : Service) (duplicate : Result) (p : Run Result) : Prop :=
  p.Returns (Warrants service duplicate)

variable {duplicate : Result}

theorem bind_ne_done {o : Op} {next : Answer o → Run Result} {result : Result} :
    ledgerCall o >>= next ≠ .done result := by
  intro h
  cases h

theorem returns_bind {o : Op} {next : Answer o → Run Result}
    (hwaits : ∀ a result, next a ≠ .done result)
    (h : ∀ a, ReturnsWarranted service duplicate (next a)) :
    ReturnsWarranted service duplicate (ledgerCall o >>= next) :=
  fun a => ⟨fun result hdone => absurd hdone (hwaits a result), h a⟩

theorem recordTerminalResult_ne_done {eventType : Option String} {result other : Result} :
    recordTerminalResult eventType result ≠ .done other := by
  cases eventType with
  | none =>
      intro h
      cases h
  | some _ => exact bind_ne_done

theorem returns_recordTerminalResult (eventType : Option String) (result : Result) :
    ReturnsWarranted service duplicate (recordTerminalResult eventType result) := by
  have hupsert : ReturnsWarranted service duplicate (ledgerCall (.upsertResult result)) := by
    intro stored
    refine ⟨?_, trivial⟩
    rintro _ ⟨rfl⟩
    rfl
  cases eventType with
  | none => exact hupsert
  | some name =>
      refine returns_bind (fun _ other h => ?_) fun _ => hupsert
      cases h

theorem returns_createIfMissing {runId : String} {selection : Selection}
    {observation : Option Observation} {next : Unit → Run Result}
    (hwaits : ∀ result, next () ≠ .done result)
    (h : ReturnsWarranted service duplicate (next ())) :
    ReturnsWarranted service duplicate (createIfMissing runId selection observation >>= next) := by
  cases observation with
  | none => exact returns_bind (fun _ => hwaits) fun _ => h
  | some _ => exact h

theorem createIfMissing_ne_done {runId : String} {selection : Selection}
    {observation : Option Observation} {next : Unit → Run Result} {result : Result}
    (hwaits : ∀ result, next () ≠ .done result) :
    createIfMissing runId selection observation >>= next ≠ .done result := by
  cases observation with
  | none => exact bind_ne_done
  | some _ => exact hwaits result

theorem returns_unlessDone {next : Option Observation → Run Result}
    (hwaits : ∀ observation result, next observation ≠ .done result)
    (h : ∀ observation, ReturnsWarranted service duplicate (next observation)) :
    ReturnsWarranted service duplicate (unlessDone service.startedEvent duplicate next) := by
  intro (terminal : Option Result)
  cases terminal with
  | some result =>
      refine ⟨?_, trivial⟩
      rintro _ ⟨rfl⟩
      rfl
  | none =>
      refine ⟨fun result hdone => absurd hdone bind_ne_done, ?_⟩
      intro (observation : Option Observation)
      show (∀ result, (if hasStarted service.startedEvent observation = true then pure duplicate
          else next observation) = Program.done result → _) ∧
        Program.Returns _ (if hasStarted service.startedEvent observation = true then
          pure duplicate else next observation)
      split
      · rename_i hstarted
        refine ⟨?_, trivial⟩
        rintro _ ⟨rfl⟩
        exact ⟨hstarted, rfl⟩
      · exact ⟨fun result hdone => absurd hdone (hwaits observation result), h observation⟩

theorem returns_runTool (request : ToolRequest) :
    ReturnsWarranted service duplicate (runTool request) := by
  refine returns_bind ?_ ?_
  · intro (found : Option Dict) result
    cases found with
    | none => exact recordTerminalResult_ne_done
    | some _ => exact bind_ne_done
  · intro (found : Option Dict)
    cases found with
    | none => exact returns_recordTerminalResult _ _
    | some _ =>
        refine returns_bind (fun _ _ => bind_ne_done) fun _ => ?_
        refine returns_bind (fun _ _ => bind_ne_done) fun _ => ?_
        exact returns_bind (fun _ _ => recordTerminalResult_ne_done) fun _ =>
          returns_recordTerminalResult _ _

theorem admitTool_ne_done {request : ToolRequest} {selection : Selection} (result : Result) :
    admitTool request selection ≠ .done result := by
  rw [admitTool]
  split
  · exact bind_ne_done
  · exact recordTerminalResult_ne_done

theorem returns_admitTool (request : ToolRequest) (selection : Selection) :
    ReturnsWarranted service duplicate (admitTool request selection) := by
  rw [admitTool]
  split
  · refine returns_bind (fun _ _ => bind_ne_done) fun _ => returns_bind (fun _ _ => ?_) fun _ => ?_
    · split
      · exact recordTerminalResult_ne_done
      · exact recordTerminalResult_ne_done
      · exact recordTerminalResult_ne_done
      · exact bind_ne_done
    · split
      · exact returns_recordTerminalResult _ _
      · exact returns_recordTerminalResult _ _
      · exact returns_recordTerminalResult _ _
      · exact returns_runTool request
  · exact returns_recordTerminalResult _ _

theorem runWorkflow_ne_done {request : WorkflowRequest} {selection : Selection} (result : Result) :
    runWorkflow request selection ≠ .done result := by
  rw [runWorkflow]
  split
  · exact bind_ne_done
  · exact recordTerminalResult_ne_done

theorem returns_runWorkflow (request : WorkflowRequest) (selection : Selection) :
    ReturnsWarranted service duplicate (runWorkflow request selection) := by
  rw [runWorkflow]
  split
  · refine returns_bind (fun _ _ => bind_ne_done) fun _ => ?_
    refine returns_bind (fun _ _ => bind_ne_done) fun _ => ?_
    exact returns_bind (fun _ _ => recordTerminalResult_ne_done) fun _ =>
      returns_recordTerminalResult _ _
  · exact returns_recordTerminalResult _ _

theorem returns_execute (request : ToolRequest) :
    ReturnsWarranted .tool (runningDuplicateResult request) (execute request) :=
  returns_unlessDone (fun _ _ => createIfMissing_ne_done admitTool_ne_done) fun _ =>
    returns_createIfMissing admitTool_ne_done (returns_admitTool request _)

theorem returns_start (request : WorkflowRequest) :
    ReturnsWarranted .workflow (workflowDuplicateResult request) (start request) :=
  returns_unlessDone (fun _ _ => createIfMissing_ne_done runWorkflow_ne_done) fun _ =>
    returns_createIfMissing runWorkflow_ne_done (returns_runWorkflow request _)

end MindscapeLocalCore.RunHarness.Execution
