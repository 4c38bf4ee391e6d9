import Mathlib.Data.Finset.Card
import Mathlib.Data.Finset.Insert
import Mathlib.Logic.Function.Basic
import MindscapeLocalCore.Library.Trace

/-!
The steps of a playbook, executed one after the other: `get_ready_steps` and
`execute_playbook_steps`. What a step returns and how a condition evaluates is left to
the surroundings.
-/

namespace MindscapeLocalCore.Workflow.PlaybookExecution

/-- The fields of `PlaybookStep` that the execution reads. -/
structure PlaybookStep where
  id : String
  dependsOn : List String
  condition : Option String
  /-- `gate and getattr(gate, "required", False)` -/
  gateRequired : Bool
deriving DecidableEq

inductive Event (α : Type) where
  | ready (step : String)
  | executed (step : String) (output : α)
  | skipped (step : String)
deriving DecidableEq

/-- `completed_steps`, `step_outputs` and the history of the execution. -/
structure Progress (α : Type) where
  completed : Finset String
  outputs : String → Option α
  history : List (Event α)

/-- What a step, a condition and a gate decision are asked of. A step may depend on
everything that happened before. -/
structure Surroundings (α : Type) where
  evaluateCondition : PlaybookStep → Finset String → (String → Option α) → Bool
  executeStep : Progress α → PlaybookStep → Except String α
  gateAction : String → Option String
  /-- `{"status": "skipped", "reason": "condition_not_met"}` -/
  skipOutput : α

variable {α : Type} (env : Surroundings α)

/-- `step.condition` is there and not empty. -/
def PlaybookStep.isConditional (step : PlaybookStep) : Bool :=
  match step.condition with
  | none => false
  | some text => text ≠ ""

def holds (step : PlaybookStep) (completed : Finset String) (outputs : String → Option α) :
    Bool :=
  !step.isConditional || env.evaluateCondition step completed outputs

def markReady (s : Progress α) (step : PlaybookStep) : Progress α :=
  { s with history := s.history ++ [.ready step.id] }

def skip (s : Progress α) (step : PlaybookStep) : Progress α :=
  { completed := insert step.id s.completed
    outputs := Function.update s.outputs step.id (some env.skipOutput)
    history := s.history ++ [.skipped step.id] }

/-- `get_ready_steps`: the scan also skips, and sees its own skips. -/
def getReadySteps : List PlaybookStep → Progress α → List PlaybookStep × Progress α
  | [], s => ([], s)
  | step :: rest, s =>
      if step.id ∈ s.completed then getReadySteps rest s
      else if ∀ dep ∈ step.dependsOn, dep ∈ s.completed then
        if holds env step s.completed s.outputs then
          let scanned := getReadySteps rest (markReady s step)
          (step :: scanned.1, scanned.2)
        else getReadySteps rest (skip env s step)
      else getReadySteps rest s

def record (s : Progress α) (step : PlaybookStep) (output : α) : Progress α :=
  { s with
    outputs := Function.update s.outputs step.id (some output)
    history := s.history ++ [.executed step.id output] }

def complete (s : Progress α) (step : PlaybookStep) : Progress α :=
  { s with completed := insert step.id s.completed }

inductive Flow (α : Type) where
  | next (s : Progress α)
  | raised (message : String) (s : Progress α)
  | paused (step : String) (s : Progress α)

def Flow.progress : Flow α → Progress α
  | .next s => s
  | .raised _ s => s
  | .paused _ s => s

def runStep (s : Progress α) (step : PlaybookStep) : Flow α :=
  match env.executeStep s step with
  | .error message => .raised message s
  | .ok output =>
      if step.gateRequired then
        if env.gateAction step.id = some "rejected" then
          .raised ("Gate rejected for step " ++ step.id) (record s step output)
        else if env.gateAction step.id = some "approved" then
          .next (complete (record s step output) step)
        else .paused step.id (record s step output)
      else .next (complete (record s step output) step)

def runSteps : List PlaybookStep → Progress α → Flow α
  | [], s => .next s
  | step :: rest, s =>
      match runStep env s step with
      | .next s' => runSteps rest s'
      | .raised message s' => .raised message s'
      | .paused stopped s' => .paused stopped s'

/-- What `execute_playbook_steps` returns or raises. -/
inductive Result (α : Type) where
  | completed (s : Progress α)
  | paused (step : String) (s : Progress α)
  | raised (message : String) (s : Progress α)
  | unfinished (s : Progress α)

variable (steps : List PlaybookStep)

/-- `while len(completed_steps) < len(playbook_json.steps)`, for `fuel` turns at most. -/
def loop : ℕ → Progress α → Result α
  | fuel, s =>
      if s.completed.card < steps.length then
        match fuel with
        | 0 => .unfinished s
        | fuel + 1 =>
            let scanned := getReadySteps env steps s
            if scanned.1 = [] then
              .raised "Circular dependency or missing dependencies detected" scanned.2
            else
              match runSteps env scanned.1 scanned.2 with
              | .next s' => loop fuel s'
              | .raised message s' => .raised message s'
              | .paused stopped s' => .paused stopped s'
      else .completed s

def initial : Progress α :=
  { completed := ∅
    outputs := fun _ => none
    history := [] }

def turn (s : Progress α) : Progress α :=
  (runSteps env (getReadySteps env steps s).1 (getReadySteps env steps s).2).progress

end MindscapeLocalCore.Workflow.PlaybookExecution

/-!
The history of an execution determines its progress, and every event fits the progress
that it finds.
-/

namespace MindscapeLocalCore.Workflow.StepHistory

open PlaybookExecution Library

variable {α : Type} (env : Surroundings α) (steps : List PlaybookStep)

/-- The step that the event completes, and what it leaves in the outputs. -/
def outcome : Event α → Option (String × α)
  | .ready _ => none
  | .executed x output => some (x, output)
  | .skipped x => some (x, env.skipOutput)

def apply (s : Progress α) (event : Event α) : Progress α :=
  match outcome env event with
  | none => { s with history := s.history ++ [event] }
  | some (x, output) =>
      { completed := insert x s.completed
        outputs := Function.update s.outputs x (some output)
        history := s.history ++ [event] }

def replay (history : List (Event α)) : Progress α :=
  Trace.stateAfter (apply env) initial history

/-- The step is not done and all that it depends on is. -/
def Free (s : Progress α) (step : PlaybookStep) : Prop :=
  step.id ∉ s.completed ∧ ∀ dep ∈ step.dependsOn, dep ∈ s.completed

instance (s : Progress α) (step : PlaybookStep) : Decidable (Free s step) :=
  inferInstanceAs (Decidable (_ ∧ _))

/-- The event may happen now. Whether a free step runs is decided once, by its condition. -/
def Fits (s : Progress α) : Event α → Prop
  | .ready x => ∃ step ∈ steps, step.id = x ∧ Free s step ∧ .ready x ∉ s.history ∧
      holds env step s.completed s.outputs = true
  | .executed x _ => x ∉ s.completed ∧ .ready x ∈ s.history
  | .skipped x => ∃ step ∈ steps, step.id = x ∧ Free s step ∧ .ready x ∉ s.history ∧
      holds env step s.completed s.outputs = false

/-- The progress is the one that its history tells of. -/
def Sound (s : Progress α) : Prop :=
  s = replay env s.history ∧ Trace.Along (apply env) (Fits env steps) initial s.history

variable {env steps}

@[simp] theorem history_apply (s : Progress α) (event : Event α) :
    (apply env s event).history = s.history ++ [event] := by
  cases event <;> rfl

theorem mem_completed_apply {s : Progress α} {event : Event α} {x : String} :
    x ∈ (apply env s event).completed ↔
      x ∈ s.completed ∨ ∃ output, outcome env event = some (x, output) := by
  rw [apply]
  cases hevent : outcome env event with
  | none => simp
  | some concluded =>
      obtain ⟨y, output⟩ := concluded
      simp only [Finset.mem_insert, Option.some.injEq, Prod.mk.injEq, exists_and_left,
        exists_eq', and_true]
      rw [or_comm, eq_comm]

theorem outputs_apply_self {s : Progress α} {event : Event α} {x : String} {output : α}
    (h : outcome env event = some (x, output)) :
    (apply env s event).outputs x = some output := by
  rw [apply, h]
  exact Function.update_self x (some output) s.outputs

theorem outputs_apply_of_ne {s : Progress α} {event : Event α} {x : String}
    (h : ∀ output, outcome env event ≠ some (x, output)) :
    (apply env s event).outputs x = s.outputs x := by
  rw [apply]
  cases hevent : outcome env event with
  | none => rfl
  | some concluded =>
      obtain ⟨y, output⟩ := concluded
      have hne : x ≠ y := by
        rintro rfl
        exact h output hevent
      exact Function.update_of_ne hne (some output) s.outputs

@[simp] theorem history_replay (history : List (Event α)) :
    (replay env history).history = history := by
  induction history using List.reverseRecOn with
  | nil => rfl
  | append_singleton history event ih =>
      rw [replay, Trace.stateAfter_append_singleton, history_apply]
      exact congrArg (· ++ [event]) ih

theorem Fits.not_completed {s : Progress α} {event : Event α} {x : String} {output : α}
    (h : Fits env steps s event) (hevent : outcome env event = some (x, output)) :
    x ∉ s.completed := by
  cases event with
  | ready => cases hevent
  | executed =>
      cases hevent
      exact h.1
  | skipped =>
      cases hevent
      obtain ⟨step, -, rfl, hfree, -⟩ := h
      exact hfree.1

theorem sound_initial : Sound env steps (initial : Progress α) := ⟨rfl, trivial⟩

theorem Sound.apply {s : Progress α} (h : Sound env steps s) (event : Event α)
    (hfits : Fits env steps s event) : Sound env steps (apply env s event) := by
  have hreplay : Trace.stateAfter (StepHistory.apply env) initial s.history = s := h.1.symm
  refine ⟨?_, ?_⟩
  · rw [history_apply, replay, Trace.stateAfter_append_singleton, hreplay]
  · rw [history_apply, Trace.along_append_singleton, hreplay]
    exact ⟨h.2, hfits⟩

theorem Sound.invariant {s : Progress α} (h : Sound env steps s) (kept : Progress α → Prop)
    (hstart : kept initial)
    (hstep : ∀ s event, kept s → Fits env steps s event → kept (StepHistory.apply env s event)) :
    kept s := by
  rw [h.1]
  exact Trace.invariant_of_along hstart hstep h.2

theorem Sound.before {s : Progress α} (h : Sound env steps s) {before after : List (Event α)}
    (hsplit : s.history = before ++ after) : Sound env steps (replay env before) := by
  have halong := h.2
  rw [hsplit] at halong
  refine ⟨by rw [history_replay], ?_⟩
  rw [history_replay]
  exact (Trace.along_append.mp halong).1

theorem Sound.fits {s : Progress α} (h : Sound env steps s) {before after : List (Event α)}
    {event : Event α} (hsplit : s.history = before ++ event :: after) :
    Fits env steps (replay env before) event := by
  have halong := h.2
  rw [hsplit] at halong
  exact Trace.ok_of_along _ halong

theorem Sound.mem_completed {s : Progress α} (h : Sound env steps s) {x : String} :
    x ∈ s.completed ↔ ∃ event ∈ s.history, ∃ output, outcome env event = some (x, output) := by
  refine h.invariant (fun s => x ∈ s.completed ↔
    ∃ event ∈ s.history, ∃ output, outcome env event = some (x, output)) ?_ ?_
  · constructor
    · exact fun hx => absurd hx (Finset.notMem_empty x)
    · rintro ⟨event, hevent, -⟩
      cases hevent
  · intro s event ih _
    rw [mem_completed_apply, ih, history_apply]
    simp only [List.mem_append, List.mem_singleton, or_and_right, exists_or, exists_eq_left]

theorem Sound.outputs_eq {s : Progress α} (h : Sound env steps s) {x : String} {output : α}
    {event : Event α} (hmem : event ∈ s.history) (hevent : outcome env event = some (x, output)) :
    s.outputs x = some output := by
  have hkept : ∀ event ∈ s.history, outcome env event = some (x, output) →
      x ∈ s.completed ∧ s.outputs x = some output := by
    refine h.invariant (fun s => ∀ event ∈ s.history, outcome env event = some (x, output) →
      x ∈ s.completed ∧ s.outputs x = some output) nofun ?_
    intro s last ih hfits event hevent hout
    rw [history_apply] at hevent
    rcases List.mem_append.mp hevent with hold | hnew
    · obtain ⟨hcompleted, houtput⟩ := ih event hold hout
      refine ⟨mem_completed_apply.mpr (.inl hcompleted), ?_⟩
      rw [outputs_apply_of_ne fun _ hlast => hfits.not_completed hlast hcompleted, houtput]
    · rw [List.mem_singleton.mp hnew] at hout
      exact ⟨mem_completed_apply.mpr (.inr ⟨output, hout⟩), outputs_apply_self hout⟩
  exact (hkept event hmem hevent).2

theorem Sound.concluded_once {s : Progress α} (h : Sound env steps s)
    {before after : List (Event α)} {event other : Event α} {x : String} {output output' : α}
    (hsplit : s.history = before ++ event :: after)
    (hevent : outcome env event = some (x, output)) (hother : other ∈ before ++ after) :
    outcome env other ≠ some (x, output') := by
  intro hsame
  rcases List.mem_append.mp hother with hbefore | hafter
  · refine (h.fits hsplit).not_completed hevent ?_
    rw [(h.before hsplit).mem_completed, history_replay]
    exact ⟨other, hbefore, output', hsame⟩
  · obtain ⟨between, last, rfl⟩ := List.append_of_mem hafter
    have hlater : s.history = (before ++ event :: between) ++ other :: last := by
      rw [hsplit, List.append_assoc, List.cons_append]
    refine (h.fits hlater).not_completed hsame ?_
    rw [(h.before hlater).mem_completed, history_replay]
    exact ⟨event, List.mem_append_right before List.mem_cons_self, output, hevent⟩

end MindscapeLocalCore.Workflow.StepHistory
