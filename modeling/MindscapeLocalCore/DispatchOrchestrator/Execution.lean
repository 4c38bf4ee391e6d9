import Mathlib.Data.Finset.Card
import Mathlib.Logic.Function.Basic
import MindscapeLocalCore.Library.Table
import MindscapeLocalCore.Library.Trace

/-!
The walk over the phases of a task: `execute_task_ir` and the helpers it calls for
skips and attempts. A wave dispatches every ready phase and then releases, result
by result, the phases that waited for them.
-/

namespace MindscapeLocalCore.DispatchOrchestrator.Execution

open Library

inductive PhaseStatus where
  | pending
  | running
  | completed
  | failed
  | skipped
deriving DecidableEq

/-- The fields of `PhaseIR` that the walk reads. -/
structure PhaseIR where
  id : String
  status : PhaseStatus
  dependsOn : Option (List String)
  rollbackStrategy : Option String
deriving DecidableEq

/-- `phase.depends_on or []`. -/
def PhaseIR.dependencies (phase : PhaseIR) : List String := phase.dependsOn.getD []

/-- `AttemptStatus`, less the states that no modelled function sets. -/
inductive AttemptStatus where
  | pending
  | dispatched
  | completed
  | failed
  | skipped
deriving DecidableEq

/-- The fields of `PhaseAttempt` that tell one attempt from another. -/
structure PhaseAttempt where
  phaseId : String
  attemptNumber : ℕ
  status : AttemptStatus
  error : Option String
deriving DecidableEq

/-- `PhaseAttempt.mark_skipped`. -/
def PhaseAttempt.markSkipped (attempt : PhaseAttempt) (reason : String) : PhaseAttempt :=
  { attempt with status := .skipped, error := some reason }

/-- What `gather` returns for a phase: an exception or the `status` of the result. -/
inductive DispatchResult where
  | raised
  | returned (status : String)
deriving DecidableEq

/-- A dispatch as `_dispatch_phase` leaves it: the result and the attempt it marked. -/
structure Dispatched where
  result : DispatchResult
  attemptStatus : AttemptStatus
  attemptError : Option String

/-- What happened to a phase, in the order in which it happened. -/
inductive Event where
  | dispatched (phase : String)
  | finished (phase : String) (status : PhaseStatus)
deriving DecidableEq

/-- The local variables of `execute_task_ir`, the statuses written to the phases, the
attempts (newest first) and the history of the walk. -/
structure Run where
  phases : List PhaseIR
  phaseStatus : String → PhaseStatus
  dependents : String → List String
  inDegree : String → ℤ
  ready : List String
  nextReady : List String
  completedPhases : Finset String
  failedPhases : Finset String
  skippedPhases : Finset String
  attempts : List PhaseAttempt
  history : List Event

/-- `phase_map.get(id)`. -/
def Run.phaseMap (s : Run) (id : String) : Option PhaseIR :=
  Table.lookup PhaseIR.id id s.phases

/-- The keys of `phase_map`. -/
def Run.ids (s : Run) : Finset String := (s.phases.map PhaseIR.id).toFinset

def Run.finished (s : Run) : Finset String :=
  s.completedPhases ∪ s.failedPhases ∪ s.skippedPhases

/-- `getattr(phase, "rollback_strategy", None) or "skip"`. -/
def PhaseIR.strategy (phase : PhaseIR) : String :=
  match phase.rollbackStrategy with
  | none => "skip"
  | some text => if text = "" then "skip" else text

/-- `dep and dep.status in (PhaseStatus.FAILED, PhaseStatus.SKIPPED)`. -/
def Run.upstreamFailed (s : Run) (dep : String) : Bool :=
  (s.phaseMap dep).isSome && (s.phaseStatus dep = .failed || s.phaseStatus dep = .skipped)

/-- `should_skip`: the first failed dependency decides. -/
def shouldSkip (skipPolicy : String) (s : Run) (phaseId : String) : Bool :=
  if skipPolicy = "continue_on_dep_failure" then false
  else match s.phaseMap phaseId with
    | none => false
    | some phase =>
        match phase.dependencies.find? s.upstreamFailed with
        | none => false
        | some _ => phase.strategy ≠ "retry"

def createAttempt (s : Run) (phaseId : String) : PhaseAttempt :=
  { phaseId := phaseId
    attemptNumber :=
      match s.attempts.find? (·.phaseId = phaseId) with
      | none => 1
      | some existing => existing.attemptNumber + 1
    status := .pending
    error := none }

/-- One edge of the graph: `dependents[dep_id].append(..)` and `in_degree[..] += 1`,
for a dependency that is a phase. -/
def register (phaseId : String) (s : Run) (dep : String) : Run :=
  if (s.phaseMap dep).isSome then
    { s with
      dependents := Function.update s.dependents dep (s.dependents dep ++ [phaseId])
      inDegree := Function.update s.inDegree phaseId (s.inDegree phaseId + 1) }
  else s

def registerPhase (s : Run) (phase : PhaseIR) : Run :=
  phase.dependencies.foldl (register phase.id) s

/-- The graph before the first wave, as long as no edge is in it. -/
def unlinked (phases : List PhaseIR) : Run :=
  { phases := phases
    phaseStatus := fun id =>
      ((Table.lookup PhaseIR.id id phases).map PhaseIR.status).getD .pending
    dependents := fun _ => []
    inDegree := fun _ => 0
    ready := []
    nextReady := []
    completedPhases := ∅
    failedPhases := ∅
    skippedPhases := ∅
    attempts := []
    history := [] }

def linked (phases : List PhaseIR) : Run := phases.foldl registerPhase (unlinked phases)

def start (phases : List PhaseIR) : Run :=
  { linked phases with
    ready := (phases.map PhaseIR.id).filter fun pid => (linked phases).inDegree pid = 0 }

/-- `_dispatch_phase` creates an attempt, and leaves it as the outcome says. -/
def dispatch (outcome : String → Dispatched) (s : Run) (pid : String) : Run :=
  { s with
    attempts :=
      { createAttempt s pid with
        status := (outcome pid).attemptStatus
        error := (outcome pid).attemptError } :: s.attempts
    history := s.history ++ [.dispatched pid] }

def complete (s : Run) (pid : String) : Run :=
  { s with
    completedPhases := insert pid s.completedPhases
    phaseStatus := Function.update s.phaseStatus pid .completed
    history := s.history ++ [.finished pid .completed] }

def fail (s : Run) (pid : String) : Run :=
  { s with
    failedPhases := insert pid s.failedPhases
    phaseStatus := Function.update s.phaseStatus pid .failed
    history := s.history ++ [.finished pid .failed] }

def skip (s : Run) (pid : String) : Run :=
  { s with
    skippedPhases := insert pid s.skippedPhases
    phaseStatus := Function.update s.phaseStatus pid .skipped
    history := s.history ++ [.finished pid .skipped] }

/-- The branches of the loop over `zip(ready, results)`. -/
def recordResult (s : Run) (pid : String) : DispatchResult → Run
  | .raised => fail s pid
  | .returned status =>
      if status = "completed" then complete s pid
      else if status = "skipped" then skip s pid
      else fail s pid

/-- `in_degree[pid] -= 1`. -/
def decrement (s : Run) (pid : String) : Run :=
  { s with inDegree := Function.update s.inDegree pid (s.inDegree pid - 1) }

def pushReady (s : Run) (pid : String) : Run :=
  { s with nextReady := s.nextReady ++ [pid] }

def releaseSub (s : Run) (sub : String) : Run :=
  if (decrement s sub).inDegree sub = 0 then pushReady (decrement s sub) sub
  else decrement s sub

def skipUpstream (s : Run) (pid : String) : Run :=
  { skip s pid with
    attempts := (createAttempt s pid).markSkipped "upstream_dependency_failed" :: s.attempts }

variable (skipPolicy : String)

def releaseDependent (s : Run) (pid : String) : Run :=
  if (decrement s pid).inDegree pid = 0 then
    if shouldSkip skipPolicy (decrement s pid) pid then
      ((decrement s pid).dependents pid).foldl releaseSub (skipUpstream (decrement s pid) pid)
    else pushReady (decrement s pid) pid
  else decrement s pid

def settle (outcome : String → Dispatched) (s : Run) (pid : String) : Run :=
  (s.dependents pid).foldl (releaseDependent skipPolicy)
    (recordResult s pid (outcome pid).result)

/-- All dispatches of a wave are started before the first result is read. -/
def launch (outcome : String → Dispatched) (s : Run) : Run :=
  s.ready.foldl (dispatch outcome) { s with nextReady := [] }

def wave (outcome : String → Dispatched) (s : Run) : Run :=
  let settled := s.ready.foldl (settle skipPolicy outcome) (launch outcome s)
  { settled with ready := settled.nextReady, nextReady := [] }

/-- `phase_map[new_phase.id] = new_phase` and `in_degree[new_phase.id] = 0`. -/
def appendPhase (s : Run) (phase : PhaseIR) : Run :=
  { s with
    phases := s.phases ++ [phase]
    phaseStatus := Function.update s.phaseStatus phase.id phase.status
    inDegree := Function.update s.inDegree phase.id 0 }

def addPhase (s : Run) (phase : PhaseIR) : Run :=
  if (s.phaseMap phase.id).isSome then s
  else
    let added := registerPhase (appendPhase s phase) phase
    if added.inDegree phase.id = 0 then { added with ready := added.ready ++ [phase.id] }
    else added

/-- `_on_wave_complete` is called while phases are ready. -/
def supervise (injected : List PhaseIR) (s : Run) : Run :=
  if s.ready = [] then s else injected.foldl addPhase s

/-- What the surroundings answer in each wave: the outcomes of the dispatches and the
phases that the supervisor injects. -/
structure Surroundings where
  outcome : ℕ → String → Dispatched
  injected : ℕ → List PhaseIR

variable (env : Surroundings)

/-- One turn of `while ready`. -/
def turn (s : Run) (k : ℕ) : Run :=
  if s.ready = [] then s else supervise (env.injected k) (wave skipPolicy (env.outcome k) s)

/-- The state after `n` turns. -/
def after (phases : List PhaseIR) (n : ℕ) : Run :=
  Trace.stateAfter (turn skipPolicy env) (start phases) (List.range n)

/-- The loop ends within `n` turns. -/
def Returns (phases : List PhaseIR) (n : ℕ) : Prop := (after skipPolicy env phases n).ready = []

instance (phases : List PhaseIR) (n : ℕ) : Decidable (Returns skipPolicy env phases n) :=
  inferInstanceAs (Decidable ((after skipPolicy env phases n).ready = []))

structure Summary where
  status : String
  total : ℕ
  succeeded : ℕ
  failed : ℕ
  skipped : ℕ
  phaseResults : List (String × String)
deriving DecidableEq

def aggStatus (succeeded failed skipped : ℕ) : String :=
  if failed = 0 ∧ skipped = 0 then "ok"
  else if succeeded = 0 then "all_failed"
  else "partial_failure"

def phaseResult (s : Run) (pid : String) : String :=
  if pid ∈ s.completedPhases then "completed"
  else if pid ∈ s.failedPhases then "failed"
  else "skipped"

def summarize (s : Run) : Summary :=
  { status := aggStatus s.completedPhases.card s.failedPhases.card s.skippedPhases.card
    total := s.phases.length
    succeeded := s.completedPhases.card
    failed := s.failedPhases.card
    skipped := s.skippedPhases.card
    phaseResults := s.phases.map fun phase => (phase.id, phaseResult s phase.id) }

/-- `execute_task_ir` within `n` turns of its loop. The summary for an empty task has
no count of skips, which reads as 0 here. -/
def executeTaskIr (phases : List PhaseIR) (n : ℕ) : Option Summary :=
  if phases = [] then some ⟨"empty", 0, 0, 0, 0, []⟩
  else if (after skipPolicy env phases n).ready = [] then
    some (summarize (after skipPolicy env phases n))
  else none

end MindscapeLocalCore.DispatchOrchestrator.Execution
