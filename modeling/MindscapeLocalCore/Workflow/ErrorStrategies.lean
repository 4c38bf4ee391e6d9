import MindscapeLocalCore.Workflow.RetryExecution

/-!
What the error handling of a step decides after its attempts: whether the workflow ends at it.
-/

namespace MindscapeLocalCore.Workflow.ErrorStrategies

open HandoffExecution HandoffHistory HandoffPlan RetryExecution

def isPausedOutcome : Outcome → Bool
  | .returned result => result.hasStatus "paused"
  | .raised _ => false

def isFailedOutcome : Outcome → Bool
  | .returned result => isErrorStatus result.status
  | .raised _ => true

structure Attempts where
  outcome : ℕ → Outcome
  kinds : ∀ attempt, isCompletedOutcome (outcome attempt) = true ∨
    isPausedOutcome (outcome attempt) = true ∨ isFailedOutcome (outcome attempt) = true

def Stops (errorHandling : ErrorHandlingStrategy) : Prop :=
  errorHandling = .stopWorkflow ∨ errorHandling = .retryThenStop

/-- The loop over the results of a wave comes to a step, with its result, and returns there or
goes on: whatever wave it is in, after results that neither pause nor stop the workflow. -/
def ReturnsAt (step : WorkflowStep) (result : StepResult) (returns : Prop) : Prop :=
  ∀ (results : String × Entry → StepResult) (before : List (String × Entry))
    (item : String × Entry) (s : Run), s.returned = none → item.2.step = step →
      results item = result → (∀ other ∈ before, GoesOn results other) →
        ((processResults results (before ++ [item]) s).returned.isSome = true ↔ returns)

variable (step : WorkflowStep) (policy : RetryPolicy) (attempts : Attempts)

structure DecidesAsDeclared : Prop where
  atMost : (executeStepWithRetry policy attempts.outcome).attempts ≤ policy.maxRetries + 1
  noneAfter : ∀ attempt < (executeStepWithRetry policy attempts.outcome).attempts,
    isCompletedOutcome (attempts.outcome attempt) = true ∨
      isPausedOutcome (attempts.outcome attempt) = true ∨
        refusesOutcome policy (attempts.outcome attempt) = true →
    (executeStepWithRetry policy attempts.outcome).attempts = attempt + 1
  paused : ∀ attempt < (executeStepWithRetry policy attempts.outcome).attempts,
    isPausedOutcome (attempts.outcome attempt) = true →
      attempts.outcome attempt = .returned (executeStepWithRetry policy attempts.outcome).result
  failed : isErrorStatus (executeStepWithRetry policy attempts.outcome).result.status = true →
    ReturnsAt step (executeStepWithRetry policy attempts.outcome).result
      (Stops step.errorHandling)

/-- An attempt that is paused is refused for a text, and under `RETRY_THEN_STOP` a result that is
refused says that its retries are exhausted. -/
def EndsDeclared : Prop :=
  ∀ attempt, Reached policy attempts.outcome attempt →
    (isPausedOutcome (attempts.outcome attempt) = true →
      refusesOutcome policy (attempts.outcome attempt) = true ∧
        HasErrorText (attempts.outcome attempt)) ∧
    (step.errorHandling = .retryThenStop → isFailedOutcome (attempts.outcome attempt) = true →
      refusesOutcome policy (attempts.outcome attempt) = true →
        HasErrorText (attempts.outcome attempt) ∧ ∃ result,
          attempts.outcome attempt = .returned result ∧ result.retriesExhausted = true)

variable {step policy attempts} {result : StepResult} {outcome : Outcome} {retried : Retried}
  {last attempt : ℕ}

/-! ### The decision -/

theorem not_paused_of_error (h : isErrorStatus result.status = true) :
    result.hasStatus "paused" = false := by
  rw [StepResult.hasStatus]
  cases hstatus : result.status with
  | str text =>
      rw [hstatus] at h
      refine decide_eq_false fun hpaused => ?_
      obtain rfl := Option.some.inj hpaused
      exact absurd h (by decide +kernel)
  | _ => rfl

theorem not_completed_of_error (h : isErrorStatus result.status = true) :
    result.hasStatus "completed" = false := by
  rw [StepResult.hasStatus]
  cases hstatus : result.status with
  | str text =>
      rw [hstatus] at h
      refine decide_eq_false fun hcompleted => ?_
      obtain rfl := Option.some.inj hcompleted
      exact absurd h (by decide +kernel)
  | _ => rfl

theorem returned_settle {results : String × Entry → StepResult} {items : List (String × Entry)}
    {s : Run} : (items.foldl (settle results) s).returned = s.returned := by
  induction items generalizing s with
  | nil => rfl
  | cons item rest ih =>
      rw [List.foldl_cons, ih, settle, applyStepResultToContext]
      split <;> rfl

theorem returnsAt_iff (h : isErrorStatus result.status = true) :
    ReturnsAt step result (shouldStopWorkflowAfterError step result = true) := by
  intro results before item s hrunning hstep hresult hbefore
  have hpaused := not_paused_of_error h
  rw [processResults_append hbefore, processResults, hresult, if_neg (by rw [hpaused]; decide),
    hstep]
  dsimp only
  by_cases hstop : shouldStopWorkflowAfterError step result = true
  · rw [if_pos hstop]
    exact iff_of_true rfl hstop
  · rw [if_neg hstop, processResults]
    refine iff_of_false ?_ hstop
    have hreturned : (applyStepResultToContext
        (record (before.foldl (settle results) s) item.1 result) result).returned = none := by
      rw [applyStepResultToContext]
      split
      · exact returned_settle.trans hrunning
      · exact returned_settle.trans hrunning
    rw [hreturned]
    exact Bool.false_ne_true

theorem shouldStop_iff (h : isErrorStatus result.status = true)
    (hflag : step.errorHandling = .retryThenStop → result.retriesExhausted = true) :
    shouldStopWorkflowAfterError step result = true ↔ Stops step.errorHandling := by
  rw [shouldStopWorkflowAfterError, h, Bool.true_and, Stops]
  cases hstrategy : step.errorHandling with
  | stopWorkflow => exact iff_of_true rfl (.inl rfl)
  | continueOnError => exact iff_of_false Bool.false_ne_true (by rintro (h | h) <;> cases h)
  | skipStep => exact iff_of_false Bool.false_ne_true (by rintro (h | h) <;> cases h)
  | retryThenStop => exact iff_of_true (hflag hstrategy) (.inr rfl)
  | retryThenContinue => exact iff_of_false Bool.false_ne_true (by rintro (h | h) <;> cases h)

theorem returnsAt_stops (h : isErrorStatus result.status = true)
    (hflag : step.errorHandling = .retryThenStop → result.retriesExhausted = true) :
    ReturnsAt step result (Stops step.errorHandling) := by
  intro results before item s hrunning hstep hresult hbefore
  rw [returnsAt_iff h results before item s hrunning hstep hresult hbefore]
  exact shouldStop_iff h hflag

theorem flagged_of_returnsAt (h : isErrorStatus result.status = true)
    (hstrategy : step.errorHandling = .retryThenStop)
    (hreturns : ReturnsAt step result (Stops step.errorHandling)) :
    result.retriesExhausted = true := by
  have hiff := hreturns (fun _ => result) [] (step.playbookCode, ⟨0, step⟩) (start [] []) rfl rfl rfl
    fun _ hmem => absurd hmem List.not_mem_nil
  rw [returnsAt_iff h (fun _ => result) [] (step.playbookCode, ⟨0, step⟩) (start [] []) rfl rfl rfl
    fun _ hmem => absurd hmem List.not_mem_nil] at hiff
  have hstop := hiff.mpr (.inr hstrategy)
  rw [shouldStopWorkflowAfterError, hstrategy, Bool.and_eq_true] at hstop
  exact hstop.2

/-! ### The attempts -/

theorem not_completed_of_paused (h : isPausedOutcome outcome = true) :
    isCompletedOutcome outcome = false := by
  cases outcome with
  | raised message => rfl
  | returned result =>
      rw [isPausedOutcome, StepResult.hasStatus, decide_eq_true_eq] at h
      rw [isCompletedOutcome, StepResult.hasStatus, h]
      decide

theorem not_completed_of_failed (h : isFailedOutcome outcome = true) :
    isCompletedOutcome outcome = false := by
  cases outcome with
  | raised message => rfl
  | returned result => exact not_completed_of_error h

theorem isErrorStatus_raisedResult (attempt : ℕ) (message : String) (flag : Bool) :
    isErrorStatus (raisedResult attempt message flag).status = true := by
  show isErrorStatus (.str "error") = true
  decide +kernel

theorem EndsDeclared.not_paused (h : EndsDeclared step policy attempts)
    (hends : EndsAt policy attempts.outcome last retried) (hless : attempt < last) :
    isPausedOutcome (attempts.outcome attempt) = false := by
  refine Bool.eq_false_iff.mpr fun hpaused => ?_
  have hreached : Reached policy attempts.outcome attempt :=
    ⟨by have := hends.reached.1; omega,
      fun earlier hearlier => hends.reached.2 earlier (hearlier.trans hless)⟩
  have hrefuses := ((h attempt hreached).1 hpaused).1
  rw [(hends.reached.2 attempt hless).2] at hrefuses
  cases hrefuses

def pausedResult : StepResult where
  status := .str "paused"
  outputs := []
  retriesExhausted := false
  details := [("pause_reason", .str "waiting_gate")]

def pausedAttempts : Attempts where
  outcome := fun _ => .returned pausedResult
  kinds := fun _ => .inr (.inl (by decide))

def sampleStep : WorkflowStep where
  playbookCode := "review"
  inputs := []
  inputMapping := []
  condition := none
  errorHandling := .retryThenStop

end MindscapeLocalCore.Workflow.ErrorStrategies
