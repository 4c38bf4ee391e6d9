import MindscapeLocalCore.RunHarness.Execution

/-!
Calls that use one episode, in any order of their operations: the tool or the workflow is
started once at most where no call records its start after another has done so.
-/

namespace MindscapeLocalCore.RunHarness.SingleStart

open Library Library.Interaction Contracts EpisodeLedger Execution

def Request : Service → Type
  | .tool => ToolRequest
  | .workflow => WorkflowRequest

def program : (service : Service) → Request service → Run Result
  | .tool, request => execute request
  | .workflow, request => start request

/-- The answer to a call that finds its episode started. -/
def duplicateOf : (service : Service) → Request service → Result
  | .tool, request => runningDuplicateResult request
  | .workflow, request => workflowDuplicateResult request

/-- What a workflow that runs records through the bridge. -/
inductive RuntimeEvent where
  | pending
  | completed
  | failed
deriving DecidableEq

def RuntimeEvent.eventType : RuntimeEvent → String
  | .pending => "workflow_execution_pending"
  | .completed => "workflow_execution_completed"
  | .failed => "workflow_execution_failed"

abbrev Calls : Type := Pool Op Answer Result Ledger

inductive Event (service : Service) where
  | call (i : ℕ) (request : Request service)
  | step (i : ℕ) (input : Input)
  /-- an operation raises, or the process ends -/
  | interrupt (i : ℕ)
  | runtimeEvent (event : RuntimeEvent) (status : Status)
  | runtimeResult (result : Result)

variable {service : Service}

def next (calls : Calls) : Event service → Calls
  | .call i request => calls.call i (program service request)
  | .step i input => calls.step perform i input
  | .interrupt i => calls.interrupt i
  | .runtimeEvent event status =>
      { calls with
        shared := ((appendEvent event.eventType status calls.shared).map Prod.snd).getD
          calls.shared }
  | .runtimeResult result =>
      { calls with shared := ((upsertResult result calls.shared).map Prod.snd).getD calls.shared }

structure Initial (calls : Calls) : Prop where
  absent : ∀ i, calls.processes i = .absent
  log : calls.log = []

def Started (service : Service) (ledger : Ledger) : Prop :=
  ∃ row ∈ ledger.events, row.eventType = service.startedEvent

/-- A call records its start only where the ledger has none: what it read still holds. -/
def RecordsAlone (service : Service) (calls : Calls) : Event service → Prop
  | .step i _ =>
      match calls.processes i with
      | .running (.perform o _) => service.records o = true → ¬ Started service calls.shared
      | _ => True
  | _ => True

def startCount (service : Service) (calls : Calls) : ℕ :=
  Pool.count (fun o => service.starts o = true) calls.log

/-- A call returned the terminal result that it found, or the answer of a duplicate because it
found the episode started, or the result that it stored. -/
def Answers (service : Service) : (o : Op) → Answer o → Result → Prop
  | .getTerminalResult, terminal, result => terminal = some result
  | .getObservation, observation, result =>
      hasStarted service.startedEvent observation = true ∧
        ∃ request, result = duplicateOf service request
  | .upsertResult _, stored, result => result = stored
  | _, _, _ => False

/-! ### The programs -/

theorem recordsFirst_program (request : Request service) :
    RecordsFirst service (program service request) := by
  cases service with
  | tool => exact recordsFirst_execute request
  | workflow => exact recordsFirst_start request

theorem returns_program (request : Request service) :
    (program service request).Returns (Answers service) := by
  have hwarranted : ReturnsWarranted service (duplicateOf service request)
      (program service request) := by
    cases service with
    | tool => exact returns_execute request
    | workflow => exact returns_start request
  refine Program.returns_mono hwarranted fun o a result h => ?_
  cases o with
  | getTerminalResult => exact h
  | getObservation => exact ⟨h.1, request, h.2⟩
  | upsertResult _ => exact h
  | createEpisode _ _ => exact h
  | appendEvent _ _ => exact h
  | resolveSnapshot _ => exact h
  | startTool _ => exact h
  | startWorkflow _ => exact h

theorem program_ne_done (request : Request service) (result : Result) :
    program service request ≠ .done result := by
  cases service with
  | tool => exact bind_ne_done
  | workflow => exact bind_ne_done

/-! ### The ledger -/

variable {ledger ledger' : Ledger} {calls : Calls}

theorem events_of_appendEvent {eventType : String} {status : Status} {n : ℕ}
    (h : appendEvent eventType status ledger = some (n, ledger')) :
    ledger.events ⊆ ledger'.events ∧ ∃ row ∈ ledger'.events, row.eventType = eventType := by
  obtain ⟨row, -, hrow⟩ := Option.map_eq_some_iff.mp h
  obtain ⟨-, rfl⟩ := Prod.mk.inj hrow
  exact ⟨List.subset_append_left _ _, _, List.mem_append_right _ (List.mem_singleton_self _), rfl⟩

theorem events_of_upsertResult {result stored : Result}
    (h : upsertResult result ledger = some (stored, ledger')) : ledger'.events = ledger.events := by
  obtain ⟨row, -, hrow⟩ := Option.map_eq_some_iff.mp h
  obtain ⟨-, rfl⟩ := Prod.mk.inj hrow
  rfl

theorem started_of_perform {o : Op} {input : Input} {a : Answer o}
    (h : perform ledger o input = some (a, ledger')) :
    (Started service ledger → Started service ledger') ∧
      (service.records o = true → Started service ledger') := by
  cases o with
  | appendEvent eventType status =>
      obtain ⟨hkept, row, hrow, htype⟩ := events_of_appendEvent h
      refine ⟨?_, fun hrecords => ⟨row, hrow, htype.trans (of_decide_eq_true hrecords)⟩⟩
      rintro ⟨old, hold, hstarted⟩
      exact ⟨old, hkept hold, hstarted⟩
  | upsertResult result =>
      have hsame := events_of_upsertResult h
      rw [Started, Started, hsame]
      exact ⟨id, fun hrecords => absurd hrecords Bool.false_ne_true⟩
  | getTerminalResult =>
      obtain ⟨-, rfl⟩ := Prod.mk.inj (Option.some.inj h)
      exact ⟨id, fun hrecords => absurd hrecords Bool.false_ne_true⟩
  | getObservation =>
      obtain ⟨-, rfl⟩ := Prod.mk.inj (Option.some.inj h)
      exact ⟨id, fun hrecords => absurd hrecords Bool.false_ne_true⟩
  | createEpisode runId kind =>
      obtain ⟨-, rfl⟩ := Prod.mk.inj (Option.some.inj h)
      exact ⟨id, fun hrecords => absurd hrecords Bool.false_ne_true⟩
  | resolveSnapshot toolRef =>
      obtain ⟨_, -, hsame⟩ := Option.map_eq_some_iff.mp h
      obtain ⟨-, rfl⟩ := Prod.mk.inj hsame
      exact ⟨id, fun hrecords => absurd hrecords Bool.false_ne_true⟩
  | startTool toolRef =>
      obtain ⟨_, -, hsame⟩ := Option.map_eq_some_iff.mp h
      obtain ⟨-, rfl⟩ := Prod.mk.inj hsame
      exact ⟨id, fun hrecords => absurd hrecords Bool.false_ne_true⟩
  | startWorkflow playbookCode =>
      obtain ⟨_, -, hsame⟩ := Option.map_eq_some_iff.mp h
      obtain ⟨-, rfl⟩ := Prod.mk.inj hsame
      exact ⟨id, fun hrecords => absurd hrecords Bool.false_ne_true⟩

/-! ### Runs -/

def recordCount (service : Service) (calls : Calls) : ℕ :=
  Pool.count (fun o => service.records o = true) calls.log

def RecordedOnce (service : Service) (calls : Calls) : Prop :=
  recordCount service calls ≤ 1 ∧
    (0 < recordCount service calls → Started service calls.shared)

/-- What every run keeps in which a start is recorded alone. -/
structure Kept (service : Service) (calls : Calls) : Prop where
  orderly : Pool.Orderly (fun o => service.records o = true) (fun o => service.starts o = true) calls
  warranted : Pool.Warranted (Answers service) calls
  recorded : RecordedOnce service calls

theorem kept_initial (h : Initial calls) : Kept service calls where
  orderly i := by
    rw [h.log, h.absent i]
    refine .open rfl rfl fun p hp => ?_
    cases hp
  warranted := by
    constructor
    · intro i p hp
      rw [h.absent i] at hp
      cases hp
    · intro i result hresult
      rw [h.absent i] at hresult
      cases hresult
  recorded := by
    rw [RecordedOnce, recordCount, h.log]
    exact ⟨Nat.zero_le _, fun hpos => absurd hpos (Nat.lt_irrefl 0)⟩

theorem recordedOnce_of_log {calls' : Calls} (h : RecordedOnce service calls)
    (hlog : calls'.log = calls.log)
    (hstarted : Started service calls.shared → Started service calls'.shared) :
    RecordedOnce service calls' := by
  rw [RecordedOnce, recordCount, hlog]
  exact ⟨h.1, fun hpos => hstarted (h.2 hpos)⟩

theorem recordedOnce_of_perform {calls' : Calls} {i : ℕ} {o : Op} {a : Answer o} {input : Input}
    (h : RecordedOnce service calls)
    (halone : service.records o = true → ¬ Started service calls.shared)
    (hperform : perform calls.shared o input = some (a, calls'.shared))
    (hlog : calls'.log = calls.log ++ [(i, ⟨o, a⟩)]) : RecordedOnce service calls' := by
  have hstarted : (Started service calls.shared → Started service calls'.shared) ∧
      (service.records o = true → Started service calls'.shared) := started_of_perform hperform
  obtain ⟨hkept, hnew⟩ := hstarted
  have hcount : recordCount service calls' =
      recordCount service calls + if service.records o = true then 1 else 0 := by
    rw [recordCount, Pool.count, hlog, List.countP_append, List.countP_singleton]
    simp only [decide_eq_true_eq]
    rfl
  rw [RecordedOnce, hcount]
  by_cases hrecords : service.records o = true
  · -- no start was recorded before this one
    have hzero : recordCount service calls = 0 := by
      by_contra hne
      exact halone hrecords (h.2 (Nat.pos_of_ne_zero hne))
    rw [hzero, if_pos hrecords]
    exact ⟨Nat.le_refl _, fun _ => hnew hrecords⟩
  · rw [if_neg hrecords]
    exact ⟨h.1, fun hpos => hkept (h.2 hpos)⟩

theorem recordedOnce_next {event : Event service} (h : RecordedOnce service calls)
    (halone : RecordsAlone service calls event) : RecordedOnce service (next calls event) := by
  cases event with
  | call i request =>
      obtain ⟨hshared, hlog⟩ := Pool.call_shared i calls (program service request)
      refine recordedOnce_of_log h hlog fun hstarted => ?_
      rw [next, hshared]
      exact hstarted
  | interrupt i =>
      obtain ⟨hshared, hlog⟩ := Pool.interrupt_shared i calls
      refine recordedOnce_of_log h hlog fun hstarted => ?_
      rw [next, hshared]
      exact hstarted
  | step i input =>
      rcases Pool.step_shared i calls perform input with ⟨hshared, hlog⟩ | ⟨o, rest, a, hrunning, hperform, hlog⟩
      · refine recordedOnce_of_log h hlog fun hstarted => ?_
        rw [next, hshared]
        exact hstarted
      · rw [RecordsAlone, hrunning] at halone
        exact recordedOnce_of_perform h halone hperform hlog
  | runtimeEvent event status =>
      refine recordedOnce_of_log h rfl fun hstarted => ?_
      show Started service (((appendEvent event.eventType status calls.shared).map Prod.snd).getD _)
      cases happend : appendEvent event.eventType status calls.shared with
      | none => exact hstarted
      | some written =>
          obtain ⟨row, hrow, htype⟩ := hstarted
          exact ⟨row, (events_of_appendEvent happend).1 hrow, htype⟩
  | runtimeResult result =>
      refine recordedOnce_of_log h rfl fun hstarted => ?_
      show Started service (((upsertResult result calls.shared).map Prod.snd).getD _)
      cases hupsert : upsertResult result calls.shared with
      | none => exact hstarted
      | some written =>
          show Started service written.2
          rw [Started, events_of_upsertResult hupsert]
          exact hstarted

theorem kept_next {event : Event service} (h : Kept service calls)
    (halone : RecordsAlone service calls event) : Kept service (next calls event) := by
  have hrecorded := recordedOnce_next h.recorded halone
  cases event with
  | call i request =>
      exact ⟨Pool.orderly_call h.orderly (recordsFirst_program request),
        Pool.warranted_call h.warranted (returns_program request) (program_ne_done request),
        hrecorded⟩
  | interrupt i =>
      exact ⟨Pool.orderly_interrupt h.orderly, Pool.warranted_interrupt h.warranted, hrecorded⟩
  | step i input =>
      exact ⟨Pool.orderly_step h.orderly, Pool.warranted_step h.warranted, hrecorded⟩
  | runtimeEvent _ _ => exact ⟨h.orderly, ⟨h.warranted.running, h.warranted.returned⟩, hrecorded⟩
  | runtimeResult _ => exact ⟨h.orderly, ⟨h.warranted.running, h.warranted.returned⟩, hrecorded⟩

/-- In a run of calls on one episode in which no call records its start after another has done
so, the tool or the workflow is started once at most; and every call that returns does so with
what it found in the ledger or stored there. -/
theorem starts_once (service : Service) {calls : Calls} (hinitial : Initial calls)
    (events : List (Event service))
    (halone : Trace.Along next (RecordsAlone service) calls events) :
    startCount service (Trace.stateAfter next calls events) ≤ 1 ∧
      ∀ i result, (Trace.stateAfter next calls events).processes i = .returned result →
        ∃ entry ∈ (Trace.stateAfter next calls events).log,
          entry.1 = i ∧ Answers service entry.2.1 entry.2.2 result := by
  have hkept : Kept service (Trace.stateAfter next calls events) :=
    Trace.invariant_of_along (kept_initial hinitial) (fun _ _ h => kept_next h) halone
  refine ⟨?_, hkept.warranted.returned⟩
  exact Pool.count_act_le_one (fun i => (Pool.keeps_le (hkept.orderly i)).1) hkept.recorded.1

section Sample

instance (service : Service) (ledger : Ledger) : Decidable (Started service ledger) :=
  inferInstanceAs (Decidable (∃ row ∈ ledger.events, row.eventType = service.startedEvent))

instance (service : Service) (calls : Calls) :
    ∀ event : Event service, Decidable (RecordsAlone service calls event)
  | .step i _ =>
      show Decidable (match calls.processes i with
        | .running (.perform o _) => service.records o = true → ¬ Started service calls.shared
        | _ => True) from
        match calls.processes i with
        | .running (.perform _ _) => inferInstance
        | .running (.done _) => .isTrue trivial
        | .absent => .isTrue trivial
        | .returned _ => .isTrue trivial
        | .raised => .isTrue trivial
  | .call _ _ => .isTrue trivial
  | .interrupt _ => .isTrue trivial
  | .runtimeEvent _ _ => .isTrue trivial
  | .runtimeResult _ => .isTrue trivial

def sampleRequest : ToolRequest where
  runId := "run"
  episodeId := "episode"
  envelope :=
    { originSurface := .toolRail
      requestedSideEffects := [.readonly]
      traceId := "trace"
      preferredHarness := none
      riskClass := .low }
  toolRef := "tool"
  sideEffect := .readonly
  policy :=
    { allowedToolRefs := ["tool"]
      deniedToolRefs := []
      allowedSideEffects := [.none, .readonly]
      requireApprovalFor := [.softWrite, .externalWrite, .destructive]
      rollbackPlanRef := none }
  approvalGranted := false
  rollbackAvailable := false

def sampleInput : Input where
  snapshot := some (some [])
  toolOutcome := some
    { success := true
      toolName := "tool"
      toolType := "builtin"
      result := .null
      error := none
      executionTime := .null
      metadata := [] }
  workflowOutcome := none

def noCalls : Calls where
  shared := ⟨none, [], none⟩
  processes _ := .absent
  log := []

def stepsOf (i n : ℕ) : List (Event .tool) := List.replicate n (.step i sampleInput)

/-- Two calls look at the ledger before either of them records its start. -/
def race : List (Event .tool) :=
  [.call 0 sampleRequest, .call 1 sampleRequest] ++ stepsOf 0 2 ++ stepsOf 1 2 ++
    stepsOf 0 6 ++ stepsOf 1 6

/-- Both of them start the tool. -/
theorem race_starts_twice : startCount .tool (Trace.stateAfter next noCalls race) = 2 := by
  decide

theorem starts_once_sample :
    startCount .tool (Trace.stateAfter next noCalls
      ([.call 0 sampleRequest] ++ stepsOf 0 10 ++ [.call 1 sampleRequest] ++ stepsOf 1 10)) ≤ 1 := by
  exact (starts_once .tool ⟨fun _ => rfl, rfl⟩ _ (by decide)).1

end Sample

end MindscapeLocalCore.RunHarness.SingleStart
