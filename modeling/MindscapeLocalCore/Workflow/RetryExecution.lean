import MindscapeLocalCore.Workflow.HandoffHistory

/-!
`execute_step_with_retry`: the attempts at a step of a handoff plan under its retry policy. Which
attempts are made again is read off their outcomes.
-/

namespace MindscapeLocalCore.Workflow.RetryExecution

open HandoffExecution Library.TextScan

/-- `RetryPolicy`, without the fields of the delay. -/
structure RetryPolicy where
  maxRetries : ℕ
  retryableErrors : List String

/-! ### Error types -/

def errorWords : List (List String × String) :=
  [(["timeout", "timed out"], "timeout"), (["network", "connection"], "network"),
    (["rate limit", "quota"], "rate_limit"), (["not found", "missing"], "not_found"),
    (["permission", "unauthorized"], "permission"), (["validation", "invalid"], "validation")]

def classifyError (error : String) : String :=
  let errorLower := String.ofList (error.toList.flatMap lowerChar)
  ((errorWords.find? fun entry =>
    entry.1.any fun word => occurs (· == ·) (literal word) errorLower).map Prod.snd).getD "unknown"

/-- The message of the `AttributeError` for `lower` of a value that is no text. -/
def noLower (typeName : String) : String := "'" ++ typeName ++ "' object has no attribute 'lower'"

def resultError (result : StepResult) : Except String String :=
  match result.details.get? "error" with
  | none => .ok "Unknown error"
  | some (.str text) => .ok text
  | some .null => .error (noLower "NoneType")
  | some (.bool _) => .error (noLower "bool")
  | some (.num (.int _)) => .error (noLower "int")
  | some (.num (.float ..)) => .error (noLower "float")
  | some (.arr _) => .error (noLower "list")
  | some (.obj _) => .error (noLower "dict")

/-! ### Attempts -/

variable (policy : RetryPolicy)

def refuses (errorType : String) : Bool :=
  policy.retryableErrors ≠ [] ∧ errorType ∉ policy.retryableErrors

def raisedResult (attempt : ℕ) (message : String) (retriesExhausted : Bool) : StepResult where
  status := .str "error"
  outputs := []
  retriesExhausted := retriesExhausted
  details := [("attempts", .nat (attempt + 1)), ("error", .str message),
    ("error_type", .str (classifyError message))]

def exhaustedResult (lastError : Option String) : StepResult where
  status := .str "error"
  outputs := []
  retriesExhausted := true
  details := [("attempts", .nat (policy.maxRetries + 1)),
    ("error", .str (match lastError with
      | some text => if text = "" then "Unknown error" else text
      | none => "Unknown error"))]

/-- The branch of `except Exception`: no result where the attempt is made again. -/
def afterException (attempt : ℕ) (message : String) : Option StepResult :=
  if refuses policy (classifyError message) then some (raisedResult attempt message false)
  else if attempt < policy.maxRetries then none
  else some (raisedResult attempt message true)

def afterAttempt (attempt : ℕ) : Outcome → Option StepResult
  | .returned result =>
      if result.hasStatus "completed" then some result
      else
        match resultError result with
        | .ok text => if refuses policy (classifyError text) then some result else none
        | .error message => afterException policy attempt message
  | .raised message => afterException policy attempt message

/-- `last_error` of an attempt that the loop goes on after. -/
def errorText : Outcome → String
  | .returned result =>
      match resultError result with
      | .ok text => text
      | .error message => message
  | .raised message => message

/-- The result of the step, and how many attempts were made. -/
structure Retried where
  result : StepResult
  attempts : ℕ

variable (outcomes : ℕ → Outcome)

def attemptsFrom : ℕ → ℕ → Option String → Retried
  | 0, attempt, lastError => ⟨exhaustedResult policy lastError, attempt⟩
  | left + 1, attempt, _ =>
      match afterAttempt policy attempt (outcomes attempt) with
      | some result => ⟨result, attempt + 1⟩
      | none => attemptsFrom left (attempt + 1) (some (errorText (outcomes attempt)))

def executeStepWithRetry : Retried := attemptsFrom policy outcomes (policy.maxRetries + 1) 0 none

/-! ### The attempt that ends the loop -/

/-- The policy lists no such error: the loop makes no further attempt. -/
def refusesOutcome (outcome : Outcome) : Bool := refuses policy (classifyError (errorText outcome))

def isCompletedOutcome : Outcome → Bool
  | .returned result => result.hasStatus "completed"
  | .raised _ => false

/-- An attempt that is made again while attempts are left. -/
def Admitted (outcome : Outcome) : Prop :=
  isCompletedOutcome outcome = false ∧ refusesOutcome policy outcome = false

def Reached (attempt : ℕ) : Prop :=
  attempt ≤ policy.maxRetries ∧ ∀ earlier < attempt, Admitted policy (outcomes earlier)

def HasErrorText : Outcome → Prop
  | .returned result => ∃ text, resultError result = .ok text
  | .raised _ => False

variable {policy outcomes} {attempt : ℕ} {outcome : Outcome} {result : StepResult}

theorem afterAttempt_cases (policy : RetryPolicy) (attempt : ℕ) (outcome : Outcome) :
    (Admitted policy outcome ∧ (afterAttempt policy attempt outcome = none ∨
        (policy.maxRetries ≤ attempt ∧ afterAttempt policy attempt outcome =
          some (raisedResult attempt (errorText outcome) true)))) ∨
      (isCompletedOutcome outcome = true ∧ ∃ result, outcome = .returned result ∧
        afterAttempt policy attempt outcome = some result) ∨
      (isCompletedOutcome outcome = false ∧ refusesOutcome policy outcome = true ∧
        ((HasErrorText outcome ∧ ∃ result, outcome = .returned result ∧
            afterAttempt policy attempt outcome = some result) ∨
          (¬ HasErrorText outcome ∧ afterAttempt policy attempt outcome =
            some (raisedResult attempt (errorText outcome) false)))) := by
  have hexception : ∀ message, errorText outcome = message → isCompletedOutcome outcome = false →
      ¬ HasErrorText outcome →
      afterAttempt policy attempt outcome = afterException policy attempt message →
      (Admitted policy outcome ∧ (afterAttempt policy attempt outcome = none ∨
        (policy.maxRetries ≤ attempt ∧ afterAttempt policy attempt outcome =
          some (raisedResult attempt (errorText outcome) true)))) ∨
      (refusesOutcome policy outcome = true ∧ afterAttempt policy attempt outcome =
            some (raisedResult attempt (errorText outcome) false)) := by
    intro message htext hcompleted _ hafter
    rw [hafter, htext, afterException]
    by_cases hrefuses : refuses policy (classifyError message) = true
    · rw [if_pos hrefuses]
      exact .inr ⟨by rw [refusesOutcome, htext]; exact hrefuses, rfl⟩
    · rw [if_neg hrefuses]
      refine .inl ⟨⟨hcompleted, ?_⟩, ?_⟩
      · rw [refusesOutcome, htext]
        exact Bool.eq_false_iff.mpr hrefuses
      · by_cases hleft : attempt < policy.maxRetries
        · exact .inl (if_pos hleft)
        · exact .inr ⟨not_lt.mp hleft, if_neg hleft⟩
  cases outcome with
  | raised message =>
      rcases hexception message rfl rfl (fun h => h) rfl with h | ⟨hrefuses, hafter⟩
      · exact .inl h
      · exact .inr (.inr ⟨rfl, hrefuses, .inr ⟨fun h => h, hafter⟩⟩)
  | returned result =>
      by_cases hcompleted : result.hasStatus "completed" = true
      · exact .inr (.inl ⟨hcompleted, result, rfl, if_pos hcompleted⟩)
      · have hnot : isCompletedOutcome (.returned result) = false :=
          Bool.eq_false_iff.mpr hcompleted
        cases herror : resultError result with
        | error message =>
            have htext : errorText (.returned result) = message := by
              rw [errorText, herror]
            have hnone : ¬ HasErrorText (.returned result) := by
              rintro ⟨text, hok⟩
              rw [herror] at hok
              cases hok
            have hafter : afterAttempt policy attempt (.returned result) =
                afterException policy attempt message := by
              rw [afterAttempt, if_neg hcompleted, herror]
            rcases hexception message htext hnot hnone hafter with h | ⟨hrefuses, hresult⟩
            · exact .inl h
            · exact .inr (.inr ⟨hnot, hrefuses, .inr ⟨hnone, hresult⟩⟩)
        | ok text =>
            have htext : errorText (.returned result) = text := by
              rw [errorText, herror]
            rw [afterAttempt, if_neg hcompleted, herror]
            dsimp only
            by_cases hrefuses : refuses policy (classifyError text) = true
            · rw [if_pos hrefuses]
              exact .inr (.inr ⟨hnot, by rw [refusesOutcome, htext]; exact hrefuses,
                .inl ⟨⟨text, herror⟩, result, rfl, rfl⟩⟩)
            · rw [if_neg hrefuses]
              exact .inl ⟨⟨hnot, by
                rw [refusesOutcome, htext]
                exact Bool.eq_false_iff.mpr hrefuses⟩, .inl rfl⟩

structure EndsAt (policy : RetryPolicy) (outcomes : ℕ → Outcome) (attempt : ℕ)
    (retried : Retried) : Prop where
  reached : Reached policy outcomes attempt
  attempts : retried.attempts = attempt + 1
  ending : (Admitted policy (outcomes attempt) ∧ attempt = policy.maxRetries ∧
      retried.result.status = .str "error" ∧ retried.result.retriesExhausted = true) ∨
    (isCompletedOutcome (outcomes attempt) = true ∧
      outcomes attempt = .returned retried.result) ∨
    (isCompletedOutcome (outcomes attempt) = false ∧
      refusesOutcome policy (outcomes attempt) = true ∧
        ((HasErrorText (outcomes attempt) ∧ outcomes attempt = .returned retried.result) ∨
          (¬ HasErrorText (outcomes attempt) ∧ retried.result =
            raisedResult attempt (errorText (outcomes attempt)) false)))

theorem attemptsFrom_endsAt {left : ℕ} {lastError : Option String}
    (hleft : attempt + (left + 1) = policy.maxRetries + 1)
    (hbefore : ∀ earlier < attempt, Admitted policy (outcomes earlier)) :
    ∃ last, EndsAt policy outcomes last (attemptsFrom policy outcomes (left + 1) attempt lastError) := by
  have hreached : Reached policy outcomes attempt := ⟨by omega, hbefore⟩
  induction left generalizing attempt lastError with
  | zero =>
      rw [attemptsFrom]
      rcases afterAttempt_cases policy attempt (outcomes attempt) with
        ⟨hadmitted, hnone | ⟨hmax, hexhausted⟩⟩ | ⟨hcompleted, result, hresult, hsome⟩ |
          ⟨hnot, hrefuses, ⟨htext, result, hresult, hsome⟩ | ⟨hnone, hsome⟩⟩
      · rw [hnone]
        exact ⟨attempt, hreached, rfl, .inl ⟨hadmitted, by omega, rfl, rfl⟩⟩
      · rw [hexhausted]
        exact ⟨attempt, hreached, rfl, .inl ⟨hadmitted, by omega, rfl, rfl⟩⟩
      · rw [hsome]
        exact ⟨attempt, hreached, rfl, .inr (.inl ⟨hcompleted, hresult⟩)⟩
      · rw [hsome]
        exact ⟨attempt, hreached, rfl, .inr (.inr ⟨hnot, hrefuses, .inl ⟨htext, hresult⟩⟩)⟩
      · rw [hsome]
        exact ⟨attempt, hreached, rfl, .inr (.inr ⟨hnot, hrefuses, .inr ⟨hnone, rfl⟩⟩)⟩
  | succ left ih =>
      rw [attemptsFrom]
      rcases afterAttempt_cases policy attempt (outcomes attempt) with
        ⟨hadmitted, hnone | ⟨hmax, hexhausted⟩⟩ | ⟨hcompleted, result, hresult, hsome⟩ |
          ⟨hnot, hrefuses, ⟨htext, result, hresult, hsome⟩ | ⟨hnone, hsome⟩⟩
      · rw [hnone]
        have hearlier : ∀ earlier < attempt + 1, Admitted policy (outcomes earlier) := by
          intro earlier hless
          rcases Nat.lt_succ_iff_lt_or_eq.mp hless with hless | rfl
          · exact hbefore earlier hless
          · exact hadmitted
        exact ih (by omega) hearlier ⟨by omega, hearlier⟩
      · omega
      · rw [hsome]
        exact ⟨attempt, hreached, rfl, .inr (.inl ⟨hcompleted, hresult⟩)⟩
      · rw [hsome]
        exact ⟨attempt, hreached, rfl, .inr (.inr ⟨hnot, hrefuses, .inl ⟨htext, hresult⟩⟩)⟩
      · rw [hsome]
        exact ⟨attempt, hreached, rfl, .inr (.inr ⟨hnot, hrefuses, .inr ⟨hnone, rfl⟩⟩)⟩

theorem executeStepWithRetry_endsAt (policy : RetryPolicy) (outcomes : ℕ → Outcome) :
    ∃ last, EndsAt policy outcomes last (executeStepWithRetry policy outcomes) :=
  attemptsFrom_endsAt (Nat.zero_add _) fun _ h => absurd h (Nat.not_lt_zero _)

variable {retried : Retried} {last : ℕ}

theorem EndsAt.le (h : EndsAt policy outcomes last retried)
    (hreached : Reached policy outcomes attempt) : attempt ≤ last := by
  by_contra hlater
  have hadmitted := hreached.2 last (not_le.mp hlater)
  rcases h.ending with ⟨-, hmax, -⟩ | ⟨hcompleted, -⟩ | ⟨-, hrefuses, -⟩
  · have := hreached.1
    omega
  · rw [hadmitted.1] at hcompleted
    cases hcompleted
  · rw [hadmitted.2] at hrefuses
    cases hrefuses

end MindscapeLocalCore.Workflow.RetryExecution
