import Mathlib
import MindscapeLocalCore.Library.ItemDict
import MindscapeLocalCore.Library.Json
import MindscapeLocalCore.Library.PythonText

/-!
The steps of a handoff plan and the dependencies that `build_dependency_graph` reads off
their inputs.
-/

namespace MindscapeLocalCore.Workflow.HandoffPlan

open Library Library.Json

inductive ErrorHandlingStrategy where
  | stopWorkflow
  | continueOnError
  | skipStep
  | retryThenStop
  | retryThenContinue
deriving DecidableEq

/-- The fields of `WorkflowStep` that the workflow reads itself. -/
structure WorkflowStep where
  playbookCode : String
  inputs : Dict
  inputMapping : List (String × String)
  condition : Option String
  errorHandling : ErrorHandlingStrategy

/-- `parts[1]` of a text that starts with `$previous.`. -/
def referencedCode (text : String) : Option String :=
  if PythonText.startsWith "$previous." text then (PythonText.split '.' text)[1]? else none

/-- The texts among the values of `inputs` and `input_mapping`. -/
def referencingTexts (step : WorkflowStep) : List String :=
  step.inputs.filterMap (fun input => input.2.str?) ++ step.inputMapping.map Prod.snd

/-- The dependencies of one step: the codes that its texts name first, as far as the plan has
them. -/
def dependencies (plan : List WorkflowStep) (step : WorkflowStep) : Finset String :=
  (((referencingTexts step).filterMap referencedCode).filter fun code =>
    code ∈ plan.map WorkflowStep.playbookCode).toFinset

/-- `build_dependency_graph`; a code that it does not have gives the empty set. -/
def buildDependencyGraph (plan : List WorkflowStep) : String → Finset String :=
  plan.foldl (fun graph step => Function.update graph step.playbookCode (dependencies plan step))
    fun _ => ∅

structure Entry where
  position : ℕ
  step : WorkflowStep

def entries (plan : List WorkflowStep) : List (String × Entry) :=
  plan.zipIdx.map fun numbered =>
    (numbered.1.playbookCode, { position := numbered.2, step := numbered.1 })

/-- `{step.playbook_code: step for step in handoff_plan.steps}`: of steps with one code the
last is kept. -/
def pendingSteps (plan : List WorkflowStep) : List (String × Entry) :=
  ItemDict.updateItems (entries plan) []

variable {plan : List WorkflowStep} {item other : String × Entry}

theorem mem_entries : item ∈ entries plan ↔
    plan[item.2.position]? = some item.2.step ∧ item.1 = item.2.step.playbookCode := by
  rw [entries, List.mem_map]
  constructor
  · rintro ⟨⟨step, position⟩, hmem, rfl⟩
    exact ⟨List.mem_zipIdx_iff_getElem?.mp hmem, rfl⟩
  · rintro ⟨hstep, hcode⟩
    exact ⟨(item.2.step, item.2.position), List.mem_zipIdx_iff_getElem?.mpr hstep,
      Prod.ext hcode.symm rfl⟩

theorem map_fst_entries : (entries plan).map Prod.fst = plan.map WorkflowStep.playbookCode := by
  rw [entries, List.map_map]
  show plan.zipIdx.map (WorkflowStep.playbookCode ∘ Prod.fst) = _
  rw [← List.map_map, List.zipIdx_map_fst]

theorem mem_entries_of_pending (h : item ∈ pendingSteps plan) : item ∈ entries plan := by
  rcases ItemDict.mem_updateItems h with hnew | ⟨hold, -⟩
  · exact hnew
  · cases hold

theorem nodup_pendingSteps : ((pendingSteps plan).map Prod.fst).Nodup :=
  ItemDict.nodup_updateItems List.nodup_nil

theorem eq_of_code_eq (h : item ∈ pendingSteps plan) (hother : other ∈ pendingSteps plan)
    (hcode : item.1 = other.1) : item = other :=
  List.inj_on_of_nodup_map nodup_pendingSteps h hother hcode

theorem eq_of_position_eq (h : item ∈ pendingSteps plan) (hother : other ∈ pendingSteps plan)
    (hposition : item.2.position = other.2.position) : item = other := by
  obtain ⟨hstep, hcode⟩ := mem_entries.mp (mem_entries_of_pending h)
  obtain ⟨hstep', hcode'⟩ := mem_entries.mp (mem_entries_of_pending hother)
  rw [hposition, hstep'] at hstep
  refine eq_of_code_eq h hother ?_
  rw [hcode, hcode', Option.some.inj hstep]

theorem entries_pending_iff :
    (∀ item ∈ entries plan, item ∈ pendingSteps plan) ↔
      (plan.map WorkflowStep.playbookCode).Nodup := by
  rw [← map_fst_entries]
  constructor
  · intro h
    refine List.Nodup.map_on (fun item hitem other hother hcode => ?_) ?_
    · exact eq_of_code_eq (h item hitem) (h other hother) hcode
    · refine List.Nodup.of_map (fun item => item.2.position) ?_
      rw [entries, List.map_map]
      show (plan.zipIdx.map Prod.snd).Nodup
      rw [List.zipIdx_map_snd]
      exact List.nodup_range'
  · intro h item hitem
    rw [pendingSteps, ItemDict.updateItems_nil_of_nodup h]
    exact hitem

theorem buildDependencyGraph_eq (h : item ∈ pendingSteps plan) :
    buildDependencyGraph plan item.1 = dependencies plan item.2.step := by
  have hfold : ∀ steps : List (String × Entry), ∀ item ∈ ItemDict.updateItems steps [],
      (steps.foldl (fun (graph : String → Finset String) item =>
        Function.update graph item.1 (dependencies plan item.2.step)) fun _ => ∅) item.1 =
          dependencies plan item.2.step := by
    intro steps
    induction steps using List.reverseRecOn with
    | nil => nofun
    | append_singleton steps last ih =>
        intro item hitem
        rw [ItemDict.updateItems_append_singleton] at hitem
        rw [List.foldl_append, List.foldl_cons, List.foldl_nil]
        rcases ItemDict.mem_setItem hitem with rfl | ⟨hold, hne⟩
        · exact Function.update_self ..
        · rw [Function.update_of_ne hne]
          exact ih item hold
  have hentries : buildDependencyGraph plan = (entries plan).foldl (fun graph item =>
      Function.update graph item.1 (dependencies plan item.2.step)) fun _ => ∅ := by
    have hsteps : plan.zipIdx.map Prod.fst = plan := List.zipIdx_map_fst 0 plan
    rw [entries, List.foldl_map, buildDependencyGraph]
    conv_lhs => enter [3]; rw [← hsteps]
    rw [List.foldl_map]
  rw [hentries]
  exact hfold (entries plan) item h

theorem exists_pending_of_dependency {step : WorkflowStep} {dep : String}
    (h : dep ∈ dependencies plan step) : ∃ item ∈ pendingSteps plan, item.1 = dep := by
  rw [dependencies, List.mem_toFinset, List.mem_filter, decide_eq_true_iff,
    ← map_fst_entries] at h
  exact List.mem_map.mp (ItemDict.mem_map_fst_updateItems.mpr (.inl h.2))

end MindscapeLocalCore.Workflow.HandoffPlan

/-!
`execute_handoff_workflow`: the steps of a plan in waves. The steps of a wave run
concurrently; what they return and how their runs interleave is left to the surroundings.
-/

namespace MindscapeLocalCore.Workflow.HandoffExecution

open HandoffPlan Library Library.Json

structure StepResult where
  status : Json
  outputs : Dict
  retriesExhausted : Bool
  details : Dict

/-- `result.get("status") == text`. -/
def StepResult.hasStatus (result : StepResult) (text : String) : Bool :=
  result.status.str? = some text

inductive Outcome where
  | returned (result : StepResult)
  | raised (message : String)

local instance lawfulBEq_text : LawfulBEq (List Char) := inferInstance

/-- `_is_error_status`. No value but a text prints as one of the two words. -/
def isErrorStatus : Json → Bool
  | .str text =>
      (PythonText.strip text).toList.map Char.toLower ∈ ["error".toList, "failed".toList]
  | _ => false

def normalizeParallelStepResult : Outcome → StepResult
  | .returned result => result
  | .raised message =>
      { status := .str "error"
        outputs := []
        retriesExhausted := false
        details := [("error", .str message), ("error_type", .str "exception")] }

def skippedResult : StepResult :=
  { status := .str "skipped"
    outputs := []
    retriesExhausted := false
    details := [("reason", .str "condition_not_met")] }

def shouldStopWorkflowAfterError (step : WorkflowStep) (result : StepResult) : Bool :=
  isErrorStatus result.status &&
    match step.errorHandling with
    | .stopWorkflow => true
    | .continueOnError => false
    | .skipStep => false
    | .retryThenStop => result.retriesExhausted
    | .retryThenContinue => false

/-- What happened, with the position of the step in the plan. -/
inductive Event where
  | started (position : ℕ)
  | finished (position : ℕ) (result : StepResult)
  /-- The dependencies are completed and the condition is false. -/
  | refused (position : ℕ)
  | skipped (position : ℕ)

/-- The result of the workflow; `pause` holds `checkpoint`, `paused_step`, `pause_reason`. -/
structure Returned where
  status : String
  steps : String → Option StepResult
  context : Dict
  pause : Option (Json × String × Json)

structure Run where
  pending : List (String × Entry)
  completed : Finset String
  results : String → Option StepResult
  context : Dict
  history : List Event
  returned : Option Returned

/-- What is asked of the executor, of the conditions and of the event loop. -/
structure Surroundings where
  evaluateCondition : WorkflowStep → (String → Option StepResult) → Bool
  execute : Run → Entry → Outcome
  /-- How the steps of a wave start and finish. -/
  interleave : Run → List Entry → List Event
  interleave_perm : ∀ s ready, (interleave s ready).Perm
    (ready.map (fun entry => .started entry.position) ++ ready.map fun entry =>
      .finished entry.position (normalizeParallelStepResult (execute s entry)))

variable (env : Surroundings) (graph : String → Finset String)

/-- `step.condition` is absent or empty, or evaluates to true. -/
def holds (step : WorkflowStep) (results : String → Option StepResult) : Bool :=
  match step.condition with
  | none => true
  | some text => text = "" || env.evaluateCondition step results

def isCompleted (results : String → Option StepResult) (code : String) : Bool :=
  match results code with
  | none => false
  | some result => result.hasStatus "completed"

def dependenciesMet (s : Run) (code : String) : Bool :=
  ∀ dep ∈ graph code, dep ∈ s.completed ∧ isCompleted s.results dep

def refuse (s : Run) (entry : Entry) : Run :=
  { s with history := s.history ++ [.refused entry.position] }

def skip (s : Run) (code : String) (entry : Entry) : Run :=
  { s with
    completed := insert code s.completed
    results := Function.update s.results code (some skippedResult)
    pending := s.pending.filter fun item => item.1 ≠ code
    history := s.history ++ [.refused entry.position, .skipped entry.position] }

/-- One turn of the loop in `get_ready_steps_for_parallel`. -/
def visit (s : Run) (item : String × Entry) : Run :=
  if item.1 ∈ s.completed then s
  else if graph item.1 = ∅ then
    if holds env item.2.step s.results then s else refuse s item.2
  else if dependenciesMet graph s item.1 then
    if holds env item.2.step s.results then s else skip s item.1 item.2
  else s

def isReady (s : Run) (item : String × Entry) : Bool :=
  item.1 ∉ s.completed && dependenciesMet graph s item.1 && holds env item.2.step s.results

/-- `get_ready_steps_for_parallel`, over a copy of the pending items. -/
def getReadySteps : List (String × Entry) → Run → List (String × Entry) × Run
  | [], s => ([], s)
  | item :: rest, s =>
      let scanned := getReadySteps rest (visit env graph s item)
      (if isReady env graph s item then item :: scanned.1 else scanned.1, scanned.2)

/-- `results[code] = ...`, `completed_steps.add` and `del pending_steps[code]`. -/
def record (s : Run) (code : String) (result : StepResult) : Run :=
  { s with
    results := Function.update s.results code (some result)
    completed := insert code s.completed
    pending := s.pending.filter fun item => item.1 ≠ code }

def applyStepResultToContext (s : Run) (result : StepResult) : Run :=
  if result.hasStatus "completed" then { s with context := s.context.update result.outputs }
  else s

def buildPausedWorkflowResult (s : Run) (code : String) (result : StepResult) : Returned :=
  { status := "paused"
    steps := s.results
    context := s.context
    pause := some ((result.details.get? "checkpoint").getD .null, code,
      (result.details.get? "pause_reason").getD (.str "waiting_gate")) }

def completedResult (s : Run) : Returned :=
  { status := "completed"
    steps := s.results
    context := s.context
    pause := none }

/-- The loop over the gathered results. After `pending_steps.clear()` and `break` the outer
loop ends, too. -/
def processResults (result : String × Entry → StepResult) : List (String × Entry) → Run → Run
  | [], s => s
  | item :: rest, s =>
      let recorded := record s item.1 (result item)
      if (result item).hasStatus "paused" then
        { recorded with returned := some (buildPausedWorkflowResult recorded item.1 (result item)) }
      else
        let applied := applyStepResultToContext recorded (result item)
        if shouldStopWorkflowAfterError item.2.step (result item) then
          { applied with pending := [], returned := some (completedResult applied) }
        else processResults result rest applied

def executeWave (s : Run) (ready : List (String × Entry)) : Run :=
  { s with history := s.history ++ env.interleave s (ready.map Prod.snd) }

def resultOf (s : Run) (item : String × Entry) : StepResult :=
  normalizeParallelStepResult (env.execute s item.2)

/-- One turn of `while pending_steps`. -/
def turn (s : Run) : Run :=
  match s.returned with
  | some _ => s
  | none =>
      if s.pending = [] then { s with returned := some (completedResult s) }
      else
        let scanned := getReadySteps env graph s.pending s
        if scanned.1 = [] then
          { scanned.2 with returned := some (completedResult scanned.2) }
        else
          processResults (resultOf env scanned.2) scanned.1 (executeWave env scanned.2 scanned.1)

def start (plan : List WorkflowStep) (context : Dict) : Run :=
  { pending := pendingSteps plan
    completed := ∅
    results := fun _ => none
    context := context
    history := []
    returned := none }

end MindscapeLocalCore.Workflow.HandoffExecution
