import MindscapeLocalCore.ToolLoop.ExecutionLoop
import Mathlib.Tactic.Linarith

/-!
The budget of the tool loop: how often it calls the model, how many executions it starts, and what
it books of them.
-/

namespace MindscapeLocalCore.ToolLoop.LoopBudgets

open Library Library.FuelledLoop Library.Json ToolCallParser ExecutionLoop

def isSuccess : Outcome → Bool
  | .success => true
  | _ => false

def isFailure : Outcome → Bool
  | .failed => true
  | _ => false

def isApproval : Outcome → Bool
  | .approvalRequired _ => true
  | _ => false

def successes (executions : List Execution) : List Execution :=
  executions.filter fun execution => isSuccess execution.outcome

def succeededNames (executions : List Execution) : List Json :=
  (successes executions).filterMap fun execution => displayName execution.call

def ApprovalLast (executions : List Execution) : Prop :=
  ∀ before execution after, executions = before ++ execution :: after →
    isApproval execution.outcome = true → after = []

variable (p : Platform) (setting : Setting) (outcomes : ℕ → Outcome) (responses : ℕ → String)

def KeepsBudget (assistantResponse : String) : Prop :=
  ∃ result, (∀ fuel, 3 * (maxToolIterations setting).toNat + 2 < fuel →
      executeToolLoop p setting outcomes responses assistantResponse fuel = some result) ∧
    result.modelCalls ≤ 3 * (maxToolIterations setting).toNat ∧
    (∀ budget ∈ setting.loopBudget, result.executions.length ≤ budget.maxToolCalls) ∧
    ApprovalLast result.executions ∧
    result.usedTools = succeededNames result.executions

/-- How many calls of a list are started, from a number of executions on: those up to the first
that requires an approval. -/
def tries : ℕ → List ToolCall → ℕ
  | _, [] => 0
  | started, call :: calls =>
      if (displayName call).isSome ∧ (argumentsOf setting call).isSome then
        if isApproval (outcomes started) then 1 else 1 + tries (started + 1) calls
      else tries started calls

def triedCalls (loop : Loop) : List ToolCall :=
  if loop.toolIteration < maxToolIterations setting then
    (withinBudget setting loop (parseToolCallsFromResponse p loop.currentResponse)).getD []
  else []

def startedIn (loop : Loop) : ℕ :=
  tries setting outcomes loop.executions.length (triedCalls p setting loop)

/-- No execution failed before, or there is room for the calls beside all those before. -/
def FailedFit (loop : Loop) : Prop :=
  ∀ budget ∈ setting.loopBudget,
    (∀ execution ∈ loop.executions, isFailure execution.outcome = false) ∨
      loop.executions.length + startedIn p setting outcomes loop ≤ budget.maxToolCalls

variable {p setting outcomes responses} {loop next : Loop} {returned : Returned} {calls : Calls}
  {toolCalls : List ToolCall} {call : ToolCall} {executions : List Execution}
  {execution : Execution}

/-! ### Books -/

structure Booked (loop : Loop) : Prop where
  used : loop.usedTools = succeededNames loop.executions
  count : loop.toolCallCount = (successes loop.executions).length
  running : ∀ execution ∈ loop.executions, isApproval execution.outcome = false

theorem successes_concat_of_success (h : execution.outcome = .success) :
    successes (executions ++ [execution]) = successes executions ++ [execution] := by
  rw [successes, List.filter_append, List.filter_cons_of_pos (by rw [h]; rfl)]
  rfl

theorem successes_concat_of_not (h : isSuccess execution.outcome = false) :
    successes (executions ++ [execution]) = successes executions := by
  rw [successes, List.filter_append, List.filter_cons_of_neg (by rw [h]; exact Bool.false_ne_true)]
  exact List.append_nil _

theorem succeededNames_concat_of_success {name : Json} (h : execution.outcome = .success)
    (hname : displayName execution.call = some name) :
    succeededNames (executions ++ [execution]) = succeededNames executions ++ [name] := by
  rw [succeededNames, successes_concat_of_success h, List.filterMap_append, List.filterMap_cons,
    hname]
  rfl

theorem succeededNames_concat_of_not (h : isSuccess execution.outcome = false) :
    succeededNames (executions ++ [execution]) = succeededNames executions := by
  rw [succeededNames, successes_concat_of_not h, succeededNames]

theorem approvalLast_of_none
    (h : ∀ execution ∈ executions, isApproval execution.outcome = false) :
    ApprovalLast executions := by
  rintro before execution after rfl happroval
  rw [h execution (by simp)] at happroval
  cases happroval

theorem approvalLast_concat
    (h : ∀ execution ∈ executions, isApproval execution.outcome = false) :
    ApprovalLast (executions ++ [execution]) := by
  intro before other after hsplit happroval
  rcases List.eq_nil_or_concat after with rfl | ⟨init, last, rfl⟩
  · rfl
  · -- The one that requires an approval is not the last, so it is an earlier one.
    have hinit : executions = before ++ other :: init := by
      have hlists : executions ++ [execution] = (before ++ other :: init) ++ [last] := by
        rw [hsplit, List.append_assoc, List.cons_append, List.concat_eq_append]
      exact (List.append_inj' hlists rfl).1
    rw [h other (by rw [hinit]; simp)] at happroval
    cases happroval

/-! ### One call -/

/-- What the calls of a response keep of the state before them. -/
structure Follows (start : Loop) (calls : Calls) : Prop where
  toolIteration : calls.loop.toolIteration = start.toolIteration
  formatRetryCount : calls.loop.formatRetryCount = start.formatRetryCount
  modelCalls : calls.loop.modelCalls = start.modelCalls

structure CallsBooked (calls : Calls) : Prop where
  used : calls.loop.usedTools = succeededNames calls.loop.executions
  count : calls.loop.toolCallCount = (successes calls.loop.executions).length
  running : calls.pendingApproval = none →
    ∀ execution ∈ calls.loop.executions, isApproval execution.outcome = false
  last : ApprovalLast calls.loop.executions
  stopped : calls.stopped = false → calls.pendingApproval = none

theorem tryCall_of_stopped (h : calls.stopped = true) :
    tryCall setting outcomes calls call = calls := by
  rw [tryCall, if_pos h]

theorem foldl_of_stopped (h : calls.stopped = true) :
    toolCalls.foldl (tryCall setting outcomes) calls = calls := by
  induction toolCalls with
  | nil => rfl
  | cons call rest ih => rw [List.foldl_cons, tryCall_of_stopped h, ih]

theorem tryCall_cases (hrunning : calls.stopped = false) :
    (¬ ((displayName call).isSome ∧ (argumentsOf setting call).isSome) ∧
        tryCall setting outcomes calls call = calls) ∨
      ∃ name arguments, displayName call = some name ∧ argumentsOf setting call = some arguments ∧
        tryCall setting outcomes calls call =
          recordExecution setting outcomes calls call name arguments := by
  rw [tryCall, if_neg (by rw [hrunning]; exact Bool.false_ne_true)]
  cases hname : displayName call with
  | none => exact .inl ⟨fun h => absurd h.1 (by decide), rfl⟩
  | some name =>
      cases harguments : argumentsOf setting call with
      | none => exact .inl ⟨fun h => absurd h.2 (by decide), rfl⟩
      | some arguments => exact .inr ⟨name, arguments, rfl, rfl, rfl⟩

theorem recordExecution_follows {start : Loop} (h : Follows start calls) (name : Json)
    (arguments : Dict) :
    Follows start (recordExecution setting outcomes calls call name arguments) := by
  unfold recordExecution
  dsimp only
  cases outcomes calls.loop.executions.length with
  | success => exact ⟨h.toolIteration, h.formatRetryCount, h.modelCalls⟩
  | failed => exact ⟨h.toolIteration, h.formatRetryCount, h.modelCalls⟩
  | approvalRequired request => exact ⟨h.toolIteration, h.formatRetryCount, h.modelCalls⟩

theorem recordExecution_executions (name : Json) (arguments : Dict) :
    (recordExecution setting outcomes calls call name arguments).loop.executions =
      calls.loop.executions ++ [⟨call, arguments, outcomes calls.loop.executions.length⟩] := by
  unfold recordExecution
  dsimp only
  cases outcomes calls.loop.executions.length <;> rfl

theorem recordExecution_booked (h : CallsBooked calls) (hrunning : calls.stopped = false)
    {name : Json} (hname : displayName call = some name) (arguments : Dict) :
    CallsBooked (recordExecution setting outcomes calls call name arguments) := by
  have hold := h.running (h.stopped hrunning)
  unfold recordExecution
  dsimp only
  cases outcomes calls.loop.executions.length with
  | success =>
      have hnew : ∀ execution ∈ calls.loop.executions ++ [⟨call, arguments, .success⟩],
          isApproval execution.outcome = false := by
        intro execution hmem
        rcases List.mem_append.mp hmem with hmem | hmem
        · exact hold execution hmem
        · rw [List.mem_singleton.mp hmem]
          rfl
      exact
        { used := by
            show calls.loop.usedTools ++ [name] = _
            rw [h.used, succeededNames_concat_of_success rfl hname]
          count := by
            show calls.loop.toolCallCount + 1 = _
            rw [h.count, successes_concat_of_success rfl, List.length_append]
            rfl
          running := fun _ => hnew
          last := approvalLast_of_none hnew
          stopped := fun _ => h.stopped hrunning }
  | failed =>
      have hnew : ∀ execution ∈ calls.loop.executions ++ [⟨call, arguments, .failed⟩],
          isApproval execution.outcome = false := by
        intro execution hmem
        rcases List.mem_append.mp hmem with hmem | hmem
        · exact hold execution hmem
        · rw [List.mem_singleton.mp hmem]
          rfl
      exact
        { used := h.used.trans (succeededNames_concat_of_not rfl).symm
          count := h.count.trans (congrArg List.length (successes_concat_of_not rfl).symm)
          running := fun _ => hnew
          last := approvalLast_of_none hnew
          stopped := fun _ => h.stopped hrunning }
  | approvalRequired request =>
      exact
        { used := h.used.trans (succeededNames_concat_of_not rfl).symm
          count := h.count.trans (congrArg List.length (successes_concat_of_not rfl).symm)
          running := nofun
          last := approvalLast_concat hold
          stopped := nofun }

/-! ### The calls of a response -/

theorem foldl_tryCall_keeps {P : Calls → Prop}
    (hrecorded : ∀ {calls call name arguments}, P calls → calls.stopped = false →
      displayName call = some name → argumentsOf setting call = some arguments →
        P (recordExecution setting outcomes calls call name arguments))
    (h : P calls) : P (toolCalls.foldl (tryCall setting outcomes) calls) := by
  induction toolCalls generalizing calls with
  | nil => exact h
  | cons call rest ih =>
      cases hstopped : calls.stopped with
      | true => exact (foldl_of_stopped hstopped).symm ▸ h
      | false =>
          rw [List.foldl_cons]
          refine ih ?_
          rcases tryCall_cases hstopped with ⟨-, hsame⟩ | ⟨name, arguments, hname, harguments, hnext⟩
          · rw [hsame]
            exact h
          · rw [hnext]
            exact hrecorded h hstopped hname harguments

theorem foldl_tryCall_follows {start : Loop} (h : Follows start calls) :
    Follows start (toolCalls.foldl (tryCall setting outcomes) calls) :=
  foldl_tryCall_keeps (fun h _ _ _ => recordExecution_follows h _ _) h

theorem foldl_tryCall_booked (h : CallsBooked calls) :
    CallsBooked (toolCalls.foldl (tryCall setting outcomes) calls) :=
  foldl_tryCall_keeps (fun h hstopped hname _ => recordExecution_booked h hstopped hname _) h

theorem foldl_of_room_spent (h : calls.stopped = setting.loopBudget.any (·.maxToolCalls ≤
      calls.loop.toolCallCount))
    (hroom : ∀ budget ∈ setting.loopBudget,
      calls.loop.toolCallCount + toolCalls.length ≤ budget.maxToolCalls)
    (hstopped : calls.stopped = true) : toolCalls = [] := by
  rw [h] at hstopped
  cases hbudget : setting.loopBudget with
  | none =>
      rw [hbudget] at hstopped
      cases hstopped
  | some budget =>
      rw [hbudget] at hstopped
      have hspent : budget.maxToolCalls ≤ calls.loop.toolCallCount := of_decide_eq_true hstopped
      have hleft := hroom budget hbudget
      exact List.eq_nil_of_length_eq_zero (by omega)

theorem length_foldl_tryCall (hrunning : calls.stopped = false)
    (hroom : ∀ budget ∈ setting.loopBudget,
      calls.loop.toolCallCount + toolCalls.length ≤ budget.maxToolCalls) :
    (toolCalls.foldl (tryCall setting outcomes) calls).loop.executions.length =
      calls.loop.executions.length +
        tries setting outcomes calls.loop.executions.length toolCalls := by
  induction toolCalls generalizing calls with
  | nil => rfl
  | cons call rest ih =>
      have hroom' : ∀ budget ∈ setting.loopBudget,
          calls.loop.toolCallCount + 1 + rest.length ≤ budget.maxToolCalls := by
        intro budget hbudget
        have hleft := hroom budget hbudget
        rw [List.length_cons] at hleft
        omega
      rw [List.foldl_cons, tries]
      rcases tryCall_cases hrunning with ⟨hpassed, hsame⟩ | ⟨name, arguments, hname, hargs, hrecorded⟩
      · rw [hsame, if_neg hpassed]
        exact ih hrunning fun budget hbudget =>
          le_trans (by omega) (hroom' budget hbudget)
      · have hlength := congrArg List.length (@recordExecution_executions setting outcomes calls call name
          arguments)
        rw [List.length_append, List.length_singleton] at hlength
        rw [hrecorded, if_pos ⟨by rw [hname]; rfl, by rw [hargs]; rfl⟩]
        cases houtcome : outcomes calls.loop.executions.length with
        | success =>
            rw [if_neg (by exact Bool.false_ne_true)]
            have hcount : (recordExecution setting outcomes calls call name
                arguments).loop.toolCallCount = calls.loop.toolCallCount + 1 := by
              unfold recordExecution
              dsimp only
              rw [houtcome]
            have hstops : (recordExecution setting outcomes calls call name arguments).stopped =
                setting.loopBudget.any (·.maxToolCalls ≤ (recordExecution setting outcomes calls
                  call name arguments).loop.toolCallCount) := by
              rw [hcount]
              unfold recordExecution
              dsimp only
              rw [houtcome]
            rw [← hcount] at hroom'
            cases hstopped : (recordExecution setting outcomes calls call name arguments).stopped with
            | true =>
                -- The budget is spent only where no call is left.
                obtain rfl := foldl_of_room_spent hstops hroom' hstopped
                exact hlength
            | false =>
                rw [ih hstopped hroom', hlength]
                exact Nat.add_assoc _ _ _
        | failed =>
            rw [if_neg (by exact Bool.false_ne_true)]
            have hcount : (recordExecution setting outcomes calls call name
                arguments).loop.toolCallCount = calls.loop.toolCallCount := by
              unfold recordExecution
              dsimp only
              rw [houtcome]
            have hstopped : (recordExecution setting outcomes calls call name
                arguments).stopped = false := by
              unfold recordExecution
              dsimp only
              rw [houtcome]
              exact hrunning
            rw [ih hstopped fun budget hbudget =>
              le_trans (by rw [hcount]; omega) (hroom' budget hbudget), hlength]
            exact Nat.add_assoc _ _ _
        | approvalRequired request =>
            rw [if_pos (by rfl)]
            have hstopped : (recordExecution setting outcomes calls call name
                arguments).stopped = true := by
              unfold recordExecution
              dsimp only
              rw [houtcome]
            rw [foldl_of_stopped hstopped]
            exact hlength

/-! ### Rounds -/

theorem length_of_withinBudget {budget : LoopBudget} (hbudget : budget ∈ setting.loopBudget)
    {cut : List ToolCall} (h : withinBudget setting loop toolCalls = some cut) :
    loop.toolCallCount + cut.length ≤ budget.maxToolCalls := by
  rw [withinBudget, hbudget] at h
  dsimp only at h
  split at h
  · cases h
  · obtain rfl := Option.some.inj h
    rw [List.length_take]
    omega

theorem round_cases (p : Platform) (setting : Setting) (outcomes : ℕ → Outcome)
    (responses : ℕ → String) (loop : Loop) :
    (triedCalls p setting loop = [] ∧
      (round p setting outcomes responses loop = .inr loop.returned ∨
        (loop.toolIteration < maxToolIterations setting ∧ loop.formatRetryCount < 2 ∧
          round p setting outcomes responses loop = .inl (chatCompletion responses
            { loop with formatRetryCount := loop.formatRetryCount + 1 })) ∨
        (loop.toolIteration < maxToolIterations setting - 1 ∧
          round p setting outcomes responses loop = .inl
            { chatCompletion responses loop with toolIteration := loop.toolIteration + 1 }))) ∨
    (loop.toolIteration < maxToolIterations setting ∧
      withinBudget setting loop (parseToolCallsFromResponse p loop.currentResponse) =
        some (triedCalls p setting loop) ∧
      round p setting outcomes responses loop = afterCalls p responses
        (tryCalls setting outcomes { loop with formatRetryCount := 0 }
          (triedCalls p setting loop))) := by
  rw [ExecutionLoop.round, triedCalls]
  by_cases hiteration : (loop.toolIteration : ℤ) < maxToolIterations setting
  · rw [if_pos hiteration, if_pos hiteration]
    cases hcalls : parseToolCallsFromResponse p loop.currentResponse with
    | nil =>
        have hnone : (withinBudget setting loop []).getD [] = [] := by
          rw [withinBudget]
          cases setting.loopBudget with
          | none => rfl
          | some budget =>
              dsimp only
              split
              · rfl
              · exact List.take_nil
        refine .inl ⟨hnone, ?_⟩
        dsimp only
        rw [withoutCalls]
        split
        · rename_i hintent
          exact .inr (.inl ⟨hiteration, hintent.2, rfl⟩)
        · split
          · rename_i hauto
            exact .inr (.inr ⟨hauto.2, rfl⟩)
          · exact .inl rfl
    | cons call rest =>
        have hsame : withinBudget setting { loop with formatRetryCount := 0 } (call :: rest) =
            withinBudget setting loop (call :: rest) := rfl
        dsimp only
        rw [hsame]
        cases hcut : withinBudget setting loop (call :: rest) with
        | none => exact .inl ⟨rfl, .inl rfl⟩
        | some cut => exact .inr ⟨hiteration, rfl, rfl⟩
  · rw [if_neg hiteration, if_neg hiteration]
    exact .inl ⟨rfl, .inl rfl⟩

theorem afterCalls_inl (h : afterCalls p responses calls = .inl next) :
    calls.pendingApproval = none ∧ next =
      { chatCompletion responses calls.loop with toolIteration := calls.loop.toolIteration + 1 } := by
  rw [afterCalls] at h
  cases hpending : calls.pendingApproval with
  | some request =>
      rw [hpending] at h
      cases h
  | none =>
      rw [hpending] at h
      dsimp only at h
      split at h
      · cases h
      · exact ⟨rfl, (Sum.inl.inj h).symm⟩

theorem afterCalls_inr (h : afterCalls p responses calls = .inr returned) :
    returned.modelCalls ≤ calls.loop.modelCalls + 1 ∧
      returned.usedTools = calls.loop.usedTools ∧
      returned.executions = calls.loop.executions := by
  rw [afterCalls] at h
  cases hpending : calls.pendingApproval with
  | some request =>
      rw [hpending] at h
      obtain rfl := Sum.inr.inj h
      exact ⟨Nat.le_succ _, rfl, rfl⟩
  | none =>
      rw [hpending] at h
      dsimp only at h
      split at h
      · obtain rfl := Sum.inr.inj h
        exact ⟨le_rfl, rfl, rfl⟩
      · cases h

/-! ### Runs -/

/-- What the loop keeps: its books, and its calls of the model within those of the iterations. -/
structure LoopInvariant (setting : Setting) (loop : Loop) : Prop where
  booked : Booked loop
  modelCalls : loop.modelCalls ≤ 3 * loop.toolIteration + loop.formatRetryCount
  formatRetryCount : loop.formatRetryCount ≤ 2
  iterating : loop.toolIteration < maxToolIterations setting ∨ loop.formatRetryCount = 0
  toolIteration : loop.toolIteration ≤ (maxToolIterations setting).toNat

def roundsLeft (setting : Setting) (loop : Loop) : ℕ :=
  3 * ((maxToolIterations setting).toNat - loop.toolIteration) + (2 - loop.formatRetryCount)

theorem start_invariant (setting : Setting) (text : String) :
    LoopInvariant setting (.start text) where
  booked := ⟨rfl, rfl, fun _ h => absurd h List.not_mem_nil⟩
  modelCalls := le_rfl
  formatRetryCount := Nat.zero_le _
  iterating := .inr rfl
  toolIteration := Nat.zero_le _

theorem start_callsBooked (h : Booked loop) : CallsBooked ⟨loop, false, none, false⟩ where
  used := h.used
  count := h.count
  running := fun _ => h.running
  last := approvalLast_of_none h.running
  stopped := fun _ => rfl

theorem tryCalls_follows (loop : Loop) (toolCalls : List ToolCall) :
    Follows loop (tryCalls setting outcomes loop toolCalls) :=
  foldl_tryCall_follows ⟨rfl, rfl, rfl⟩

theorem tryCalls_booked (h : Booked loop) :
    CallsBooked (tryCalls setting outcomes { loop with formatRetryCount := 0 } toolCalls) :=
  foldl_tryCall_booked (start_callsBooked ⟨h.used, h.count, h.running⟩)

theorem round_invariant (h : LoopInvariant setting loop)
    (hround : round p setting outcomes responses loop = .inl next) :
    LoopInvariant setting next ∧ roundsLeft setting next < roundsLeft setting loop := by
  have hcalls := h.modelCalls
  have hretries := h.formatRetryCount
  rcases round_cases p setting outcomes responses loop with
    ⟨-, hreturns | ⟨hiteration, hretry, hasks⟩ | ⟨hiteration, hasks⟩⟩ | ⟨hiteration, -, hafter⟩
  · rw [hreturns] at hround
    cases hround
  · -- The model is asked for another format.
    rw [hasks] at hround
    obtain rfl := Sum.inl.inj hround
    refine ⟨⟨⟨h.booked.used, h.booked.count, h.booked.running⟩, ?_, hretry, .inl hiteration,
      h.toolIteration⟩, ?_⟩
    · show loop.modelCalls + 1 ≤ 3 * loop.toolIteration + (loop.formatRetryCount + 1)
      omega
    · show 3 * ((maxToolIterations setting).toNat - loop.toolIteration) +
        (2 - (loop.formatRetryCount + 1)) < roundsLeft setting loop
      rw [roundsLeft]
      omega
  · -- The model is told to go on.
    rw [hasks] at hround
    obtain rfl := Sum.inl.inj hround
    refine ⟨⟨⟨h.booked.used, h.booked.count, h.booked.running⟩, ?_, hretries, .inl ?_, ?_⟩, ?_⟩
    · show loop.modelCalls + 1 ≤ 3 * (loop.toolIteration + 1) + loop.formatRetryCount
      omega
    · show ((loop.toolIteration + 1 : ℕ) : ℤ) < maxToolIterations setting
      omega
    · show loop.toolIteration + 1 ≤ (maxToolIterations setting).toNat
      omega
    · show 3 * ((maxToolIterations setting).toNat - (loop.toolIteration + 1)) +
        (2 - loop.formatRetryCount) < roundsLeft setting loop
      rw [roundsLeft]
      omega
  · -- The calls are gone through, and the model is told what came out.
    rw [hafter] at hround
    obtain ⟨hpending, rfl⟩ := afterCalls_inl hround
    have hbooked := @tryCalls_booked setting outcomes loop (triedCalls p setting loop) h.booked
    have hfollows := @tryCalls_follows setting outcomes
      { loop with formatRetryCount := 0 } (triedCalls p setting loop)
    have hit := hfollows.toolIteration
    have hmodel := hfollows.modelCalls
    have hformat := hfollows.formatRetryCount
    dsimp only at hit hmodel hformat
    refine ⟨⟨⟨hbooked.used, hbooked.count, hbooked.running hpending⟩, ?_, ?_, .inr hformat, ?_⟩, ?_⟩
    · dsimp only [chatCompletion]
      omega
    · dsimp only [chatCompletion]
      omega
    · dsimp only [chatCompletion]
      omega
    · dsimp only [chatCompletion, roundsLeft]
      omega

theorem length_of_round :
    (∀ next, round p setting outcomes responses loop = .inl next →
      next.executions.length = loop.executions.length + startedIn p setting outcomes loop) ∧
    (∀ returned, round p setting outcomes responses loop = .inr returned →
      returned.executions.length =
        loop.executions.length + startedIn p setting outcomes loop) := by
  rcases round_cases p setting outcomes responses loop with ⟨hnone, hrest⟩ | ⟨-, hcut, hafter⟩
  · have hstarted : startedIn p setting outcomes loop = 0 := by
      rw [startedIn, hnone]
      rfl
    rw [hstarted]
    rcases hrest with hround | ⟨-, -, hround⟩ | ⟨-, hround⟩
    · rw [hround]
      exact ⟨nofun, fun returned hreturned => Sum.inr.inj hreturned ▸ rfl⟩
    · rw [hround]
      exact ⟨fun next hnext => Sum.inl.inj hnext ▸ rfl, nofun⟩
    · rw [hround]
      exact ⟨fun next hnext => Sum.inl.inj hnext ▸ rfl, nofun⟩
  · have hlength : (tryCalls setting outcomes { loop with formatRetryCount := 0 }
        (triedCalls p setting loop)).loop.executions.length =
          loop.executions.length + startedIn p setting outcomes loop :=
      length_foldl_tryCall rfl fun budget hbudget => length_of_withinBudget hbudget hcut
    rw [hafter]
    refine ⟨fun next hnext => ?_, fun returned hreturned => ?_⟩
    · obtain ⟨-, rfl⟩ := afterCalls_inl hnext
      exact hlength
    · rw [(afterCalls_inr hreturned).2.2]
      exact hlength

theorem returned_of_round (h : LoopInvariant setting loop)
    (hround : round p setting outcomes responses loop = .inr returned) :
    returned.modelCalls ≤ 3 * (maxToolIterations setting).toNat ∧
      ApprovalLast returned.executions ∧
      returned.usedTools = succeededNames returned.executions := by
  have hcalls := h.modelCalls
  have hretries := h.formatRetryCount
  have hbound := h.toolIteration
  rcases round_cases p setting outcomes responses loop with
    ⟨-, hreturns | ⟨-, -, hasks⟩ | ⟨-, hasks⟩⟩ | ⟨hiteration, -, hafter⟩
  · rw [hreturns] at hround
    obtain rfl := Sum.inr.inj hround
    refine ⟨?_, approvalLast_of_none h.booked.running, h.booked.used⟩
    show loop.modelCalls ≤ _
    rcases h.iterating with hiteration | hnone <;> omega
  · rw [hasks] at hround
    cases hround
  · rw [hasks] at hround
    cases hround
  · rw [hafter] at hround
    obtain ⟨hmodel, hused, hexecutions⟩ := afterCalls_inr hround
    have hbooked := @tryCalls_booked setting outcomes loop (triedCalls p setting loop) h.booked
    rw [(@tryCalls_follows setting outcomes
      { loop with formatRetryCount := 0 } (triedCalls p setting loop)).modelCalls] at hmodel
    dsimp only at hmodel
    rw [hused, hexecutions]
    exact ⟨by omega, hbooked.last, hbooked.used⟩

theorem length_le_of_reaches (h : Reaches (round p setting outcomes responses) loop next) :
    loop.executions.length ≤ next.executions.length := by
  refine @Reaches.invariant _ _ _ _ _ (fun next => loop.executions.length ≤ next.executions.length)
    h le_rfl ?_
  intro middle next hmiddle hround
  rw [length_of_round.1 next hround]
  exact hmiddle.trans (Nat.le_add_right _ _)

theorem length_le_of_returned {last : Loop}
    (h : Reaches (round p setting outcomes responses) loop last)
    (hlast : round p setting outcomes responses last = .inr returned) :
    loop.executions.length + startedIn p setting outcomes loop ≤ returned.executions.length := by
  rcases Relation.ReflTransGen.cases_head h with rfl | ⟨next, hround, hnext⟩
  · exact (length_of_round.2 returned hlast).ge
  · rw [← length_of_round.1 next hround, length_of_round.2 returned hlast]
    exact (length_le_of_reaches hnext).trans (Nat.le_add_right _ _)

theorem length_eq_count (h : Booked loop)
    (hfailed : ∀ execution ∈ loop.executions, isFailure execution.outcome = false) :
    loop.executions.length = loop.toolCallCount := by
  have hall : successes loop.executions = loop.executions := by
    refine List.filter_eq_self.mpr fun execution hmem => ?_
    have hfailure := hfailed execution hmem
    have happroval := h.running execution hmem
    cases houtcome : execution.outcome with
    | success => rfl
    | failed =>
        rw [houtcome] at hfailure
        cases hfailure
    | approvalRequired request =>
        rw [houtcome] at happroval
        cases happroval
  rw [h.count, hall]

theorem tries_le_length (started : ℕ) (toolCalls : List ToolCall) :
    tries setting outcomes started toolCalls ≤ toolCalls.length := by
  induction toolCalls generalizing started with
  | nil => exact le_rfl
  | cons call rest ih =>
      rw [tries, List.length_cons]
      split
      · split
        · exact Nat.succ_le_succ (Nat.zero_le _)
        · have := ih (started + 1)
          omega
      · exact (ih started).trans (Nat.le_succ _)

theorem startedIn_le {budget : LoopBudget} (hbudget : budget ∈ setting.loopBudget)
    (h : Booked loop) (hwithin : loop.executions.length ≤ budget.maxToolCalls)
    (hfit : FailedFit p setting outcomes loop) :
    loop.executions.length + startedIn p setting outcomes loop ≤ budget.maxToolCalls := by
  rcases hfit budget hbudget with hfailed | hroom
  · rcases round_cases p setting outcomes (fun _ => "") loop with ⟨hnone, -⟩ | ⟨-, hcut, -⟩
    · rw [startedIn, hnone]
      exact hwithin
    · have hroom := length_of_withinBudget hbudget hcut
      have htries : startedIn p setting outcomes loop ≤ (triedCalls p setting loop).length :=
        tries_le_length _ _
      rw [length_eq_count h hfailed]
      omega
  · exact hroom

/-! ### A run that fails twice -/

def sampleResponse : String := "\x7b\"tool_name\": \"t\"\x7d"

/-- Of the responses here only this one is read as JSON. -/
def samplePlatform : Platform where
  loads text := if text = sampleResponse then some (.obj [("tool_name", .str "t")]) else none
  isWord c := c.isAlphanum || c = '_'

def oneCall : Setting where
  maxIterations := 2
  loopBudget := some ⟨10, 1, by decide, by decide⟩
  autoExecute := false
  workspaceId := some "w1"
  projectId := none
  profileId := "default-user"
  executionId := "e1"

end MindscapeLocalCore.ToolLoop.LoopBudgets
