import MindscapeLocalCore.Library.Interaction
import MindscapeLocalCore.Library.ItemDict
import MindscapeLocalCore.RunHarness.Contracts

/-!
The ledger of one episode: its row, its events and its result, and the methods of the store,
each of which is one transaction.
-/

namespace MindscapeLocalCore.RunHarness.EpisodeLedger

open Library Library.Json Contracts

/-- `run_harness_episodes` -/
structure EpisodeRow where
  runId : String
  harnessKind : HarnessKind
  status : Status
  terminal : Bool
deriving DecidableEq

/-- `run_harness_episode_events` -/
structure EventRow where
  runId : String
  attemptId : Option String
  sequenceNo : ℕ
  eventType : String
  status : Status
deriving DecidableEq

structure Ledger where
  episode : Option EpisodeRow
  events : List EventRow
  result : Option Result

/-- `create_episode`: an episode that is there is written over. -/
def createEpisode (runId : String) (kind : HarnessKind) (ledger : Ledger) : Ledger :=
  { ledger with
    episode := some
      { runId := runId
        harnessKind := kind
        status := .pending
        terminal := (ledger.episode.map EpisodeRow.terminal).getD false } }

def touchEpisode (status : Status) (row : EpisodeRow) : EpisodeRow :=
  { row with
    status := status
    terminal := row.terminal || decide (status ∈ terminalStatuses) }

def nextSequenceNo (events : List EventRow) : ℕ :=
  (events.map EventRow.sequenceNo).foldl max 0 + 1

/-- `append_event`, unless there is no episode. -/
def appendEvent (eventType : String) (status : Status) (ledger : Ledger) : Option (ℕ × Ledger) :=
  ledger.episode.map fun row =>
    let sequenceNo := nextSequenceNo ledger.events
    (sequenceNo,
      { ledger with
        episode := some (touchEpisode status row)
        events := ledger.events ++
          [{ runId := row.runId
             attemptId := none
             sequenceNo := sequenceNo
             eventType := eventType
             status := status }] })

/-- `upsert_result`, unless the foreign key of the episode keeps the row out. -/
def upsertResult (result : Result) (ledger : Ledger) : Option (Result × Ledger) :=
  ledger.episode.map fun row =>
    (result,
      { ledger with
        episode := some (touchEpisode result.status row)
        result := some result })

/-- `RunHarnessStepEvent` -/
structure StepEvent where
  eventType : String
  status : Status
deriving DecidableEq

/-- `RunHarnessAttempt` -/
structure Attempt where
  attemptId : String
  status : Status
  stepEvents : List StepEvent
deriving DecidableEq

def defaultAttempt : String := "run-harness-attempt:1"

/-- `first_non_empty`, for the attempt of an event. -/
def attemptIdOf (row : EventRow) : String :=
  match row.attemptId with
  | some id => if id = "" then defaultAttempt else id
  | none => defaultAttempt

def addToAttempts (attempts : List (String × Attempt)) (row : EventRow) :
    List (String × Attempt) :=
  let id := attemptIdOf row
  let attempt := (ItemDict.getItem id attempts).getD ⟨id, row.status, []⟩
  ItemDict.setItem id
    { attempt with
      status := row.status
      stepEvents := attempt.stepEvents ++ [⟨row.eventType, row.status⟩] } attempts

/-- `RunHarnessObservation`: the episode with its attempts. -/
structure Observation where
  status : Status
  attempts : List Attempt
deriving DecidableEq

def getObservation (ledger : Ledger) : Option Observation :=
  ledger.episode.map fun row =>
    { status := row.status
      attempts := (ledger.events.foldl addToAttempts []).map Prod.snd }

def getTerminalResult (ledger : Ledger) : Option Result :=
  ledger.result.filter fun result => result.status ∈ terminalStatuses

/-- `_has_started_without_terminal`, for one kind of event. -/
def hasStarted (startedEvent : String) : Option Observation → Bool
  | none => false
  | some observation =>
      observation.attempts.any fun attempt =>
        attempt.stepEvents.any fun event => event.eventType = startedEvent

/-! ### Operations -/

/-- What a call does one at a time: the methods of the store, and what it asks of others. -/
inductive Op where
  | getTerminalResult
  | getObservation
  | createEpisode (runId : String) (kind : HarnessKind)
  | appendEvent (eventType : String) (status : Status)
  | upsertResult (result : Result)
  /-- `_resolve_tool_metadata_snapshot` -/
  | resolveSnapshot (toolRef : String)
  /-- `_execute_tool` -/
  | startTool (toolRef : String)
  /-- the workflow starter, or the dispatch to a remote one -/
  | startWorkflow (playbookCode : String)

def Answer : Op → Type
  | .getTerminalResult => Option Result
  | .getObservation => Option Observation
  | .createEpisode _ _ => Unit
  | .appendEvent _ _ => ℕ
  | .upsertResult _ => Result
  | .resolveSnapshot _ => Option Dict
  | .startTool _ => ToolOutcome
  | .startWorkflow _ => WorkflowOutcome

/-- What the surroundings answer, where an operation is not one on the ledger. -/
structure Input where
  snapshot : Option (Option Dict)
  toolOutcome : Option ToolOutcome
  workflowOutcome : Option WorkflowOutcome

def perform (ledger : Ledger) : (o : Op) → Input → Option (Answer o × Ledger)
  | .getTerminalResult, _ => some (getTerminalResult ledger, ledger)
  | .getObservation, _ => some (getObservation ledger, ledger)
  | .createEpisode runId kind, _ => some ((), createEpisode runId kind ledger)
  | .appendEvent eventType status, _ => appendEvent eventType status ledger
  | .upsertResult result, _ => upsertResult result ledger
  | .resolveSnapshot _, input => input.snapshot.map fun found => (found, ledger)
  | .startTool _, input => input.toolOutcome.map fun outcome => (outcome, ledger)
  | .startWorkflow _, input => input.workflowOutcome.map fun outcome => (outcome, ledger)

/-! ### Started events -/

variable {ledger : Ledger} {startedEvent : String}

end MindscapeLocalCore.RunHarness.EpisodeLedger
