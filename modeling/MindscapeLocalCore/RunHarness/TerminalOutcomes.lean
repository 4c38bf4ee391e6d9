import MindscapeLocalCore.RunHarness.LedgerBridge

/-!
Operations on one episode, in any order of their steps: the terminal result that is stored stays,
and with it a terminal status of the episode, exactly where no step writes over it.
-/

namespace MindscapeLocalCore.RunHarness.TerminalOutcomes

open Library Library.Interaction Library.Json Contracts EpisodeLedger Execution LedgerBridge

inductive Call where
  | execute (request : ToolRequest)
  | start (request : WorkflowRequest)
  | recordStarted
  | recordPending (episodeId executionId : String) (checkpoint : Option Dict)
  | recordTerminal (episodeId executionId : String) (runtimeResult : RuntimeResult)
      (compactResult : Dict)
  | recordFailed (episodeId executionId error : String)
  | appendEvent (eventType : String) (status : Status)
  | upsertResult (result : Result)

def program : Call → Run Unit
  | .execute request => do let _ ← execute request
  | .start request => do let _ ← start request
  | .recordStarted => recordStarted
  | .recordPending episodeId executionId checkpoint => recordPending episodeId executionId checkpoint
  | .recordTerminal episodeId executionId runtimeResult compactResult =>
      recordTerminal episodeId executionId runtimeResult compactResult
  | .recordFailed episodeId executionId error => recordFailed episodeId executionId error
  | .appendEvent eventType status => do let _ ← ledgerCall (.appendEvent eventType status)
  | .upsertResult result => do let _ ← ledgerCall (.upsertResult result)

/-- `create_episode`, of an episode with any status. -/
def createEpisodeWith (runId : String) (kind : HarnessKind) (status : Status) (ledger : Ledger) :
    Ledger :=
  { ledger with
    episode := some
      { runId := runId
        harnessKind := kind
        status := status
        terminal := (ledger.episode.map EpisodeRow.terminal).getD false ||
          decide (status ∈ terminalStatuses) } }

theorem createEpisode_eq (runId : String) (kind : HarnessKind) :
    createEpisode runId kind = createEpisodeWith runId kind .pending := by
  funext ledger
  rw [createEpisode, createEpisodeWith, decide_eq_false (by decide), Bool.or_false]

abbrev Calls : Type := Pool Op Answer Unit Ledger

inductive Event where
  | call (i : ℕ) (call : Call)
  | step (i : ℕ) (input : Input)
  /-- an operation raises, or the process ends -/
  | interrupt (i : ℕ)
  | createEpisode (runId : String) (kind : HarnessKind) (status : Status)

def next (calls : Calls) : Event → Calls
  | .call i call => calls.call i (program call)
  | .step i input => calls.step perform i input
  | .interrupt i => calls.interrupt i
  | .createEpisode runId kind status =>
      { calls with shared := createEpisodeWith runId kind status calls.shared }

def noCalls : Calls where
  shared := ⟨none, [], none⟩
  processes _ := .absent
  log := []

def ledgerAfter (events : List Event) : Ledger := (Trace.stateAfter next noCalls events).shared

def EndedStatus (ledger : Ledger) : Prop :=
  ∃ row, ledger.episode = some row ∧ row.status ∈ terminalStatuses

/-- Once a terminal result is stored, that result and a terminal status are there after
whatever follows. -/
def NeverRegresses (events : List Event) : Prop :=
  ∀ before middle after, events = before ++ middle ++ after →
    ∀ result, getTerminalResult (ledgerAfter before) = some result →
      getTerminalResult (ledgerAfter (before ++ middle)) = some result ∧
        EndedStatus (ledgerAfter (before ++ middle))

def Respects (ledger : Ledger) : Op → Prop
  | .createEpisode _ _ => getTerminalResult ledger = none
  | .appendEvent _ status => getTerminalResult ledger ≠ none → status ∈ terminalStatuses
  | .upsertResult result => ∀ stored, getTerminalResult ledger = some stored → result = stored
  | _ => True

/-- A step performs only what does not undo a terminal result. -/
def RespectsOutcome (calls : Calls) : Event → Prop
  | .step i _ =>
      match calls.processes i with
      | .running (.perform o _) => Respects calls.shared o
      | _ => True
  | .createEpisode _ _ status => getTerminalResult calls.shared ≠ none → status ∈ terminalStatuses
  | _ => True

/-! ### Operations -/

variable {ledger ledger' : Ledger} {result : Result} {status : Status}

def Settled (ledger : Ledger) : Prop :=
  ∀ result, getTerminalResult ledger = some result → EndedStatus ledger

/-- A terminal result stays, and the status is terminal. -/
def Keeps (ledger ledger' : Ledger) : Prop :=
  ∀ result, getTerminalResult ledger = some result →
    getTerminalResult ledger' = some result ∧ EndedStatus ledger'

theorem keeps_refl (h : Settled ledger) : Keeps ledger ledger :=
  fun result hresult => ⟨hresult, h result hresult⟩

theorem of_episode (row : EpisodeRow) (hresult : ledger'.result = ledger.result)
    (hepisode : ledger'.episode = some row) :
    (Keeps ledger ledger' ↔ (getTerminalResult ledger ≠ none → row.status ∈ terminalStatuses)) ∧
      ((getTerminalResult ledger ≠ none → row.status ∈ terminalStatuses) → Settled ledger') := by
  have hsame : getTerminalResult ledger' = getTerminalResult ledger := by
    rw [getTerminalResult, getTerminalResult, hresult]
  have hsome : ∀ {result}, getTerminalResult ledger = some result →
      getTerminalResult ledger ≠ none := by
    intro result hterminal
    rw [hterminal]
    exact Option.some_ne_none result
  refine ⟨⟨fun hkeeps hterminal => ?_, fun h result hterminal => ?_⟩, fun h result hterminal => ?_⟩
  · obtain ⟨result, hresult⟩ := Option.ne_none_iff_exists'.mp hterminal
    obtain ⟨other, hother, hstatus⟩ := (hkeeps result hresult).2
    rw [Option.some.inj (hepisode.symm.trans hother)]
    exact hstatus
  · exact ⟨hsame.trans hterminal, row, hepisode, h (hsome hterminal)⟩
  · exact ⟨row, hepisode, h (hsome (hsame.symm.trans hterminal))⟩

theorem of_createEpisodeWith (runId : String) (kind : HarnessKind) (status : Status)
    (ledger : Ledger) :
    (Keeps ledger (createEpisodeWith runId kind status ledger) ↔
        (getTerminalResult ledger ≠ none → status ∈ terminalStatuses)) ∧
      ((getTerminalResult ledger ≠ none → status ∈ terminalStatuses) →
        Settled (createEpisodeWith runId kind status ledger)) :=
  of_episode ⟨runId, kind, status, _⟩ rfl rfl

theorem getTerminalResult_upsert (ledger : Ledger) (result : Result) (row : EpisodeRow) :
    getTerminalResult { ledger with episode := some row, result := some result } =
      if result.status ∈ terminalStatuses then some result else none := by
  rw [getTerminalResult, Option.filter_some]
  simp only [decide_eq_true_eq]

theorem of_perform {o : Op} {input : Input} {a : Answer o} (hsettled : Settled ledger)
    (hperform : perform ledger o input = some (a, ledger')) :
    (Keeps ledger ledger' ↔ Respects ledger o) ∧ (Respects ledger o → Settled ledger') := by
  have hsame : ledger' = ledger → Respects ledger o →
      (Keeps ledger ledger' ↔ Respects ledger o) ∧ (Respects ledger o → Settled ledger') := by
    rintro rfl hrespects
    exact ⟨iff_of_true (keeps_refl hsettled) hrespects, fun _ => hsettled⟩
  cases o with
  | getTerminalResult => exact hsame (Prod.mk.inj (Option.some.inj hperform)).2.symm trivial
  | getObservation => exact hsame (Prod.mk.inj (Option.some.inj hperform)).2.symm trivial
  | createEpisode runId kind =>
      obtain ⟨-, rfl⟩ := Prod.mk.inj (Option.some.inj hperform)
      show (Keeps ledger (createEpisode runId kind ledger) ↔ _) ∧
        (_ → Settled (createEpisode runId kind ledger))
      have hpending : (.pending : Status) ∉ terminalStatuses := by decide
      have hrespects : Respects ledger (.createEpisode runId kind) ↔
          (getTerminalResult ledger ≠ none → (.pending : Status) ∈ terminalStatuses) := by
        rw [imp_iff_not hpending, not_not]
        rfl
      rw [hrespects, createEpisode_eq]
      exact of_createEpisodeWith runId kind .pending ledger
  | appendEvent eventType status =>
      obtain ⟨row, -, hrow⟩ := Option.map_eq_some_iff.mp hperform
      obtain ⟨-, rfl⟩ := Prod.mk.inj hrow
      exact of_episode (touchEpisode status row) rfl rfl
  | upsertResult result =>
      obtain ⟨row, hrow, hwritten⟩ := Option.map_eq_some_iff.mp hperform
      obtain ⟨-, rfl⟩ := Prod.mk.inj hwritten
      have hstored := getTerminalResult_upsert ledger result (touchEpisode result.status row)
      refine ⟨⟨fun hkeeps stored hterminal => ?_, fun hrespects stored hterminal => ?_⟩,
        fun _ stored hterminal => ?_⟩
      · have hkept := (hkeeps stored hterminal).1
        rw [hstored] at hkept
        exact Option.some.inj (Option.ite_none_right_eq_some.mp hkept).2
      · obtain rfl := hrespects stored hterminal
        have hstatus : result.status ∈ terminalStatuses :=
          of_decide_eq_true (Option.filter_eq_some_iff.mp hterminal).2
        exact ⟨hstored.trans (if_pos hstatus), _, rfl, hstatus⟩
      · rw [hstored] at hterminal
        exact ⟨_, rfl, (Option.ite_none_right_eq_some.mp hterminal).1⟩
  | resolveSnapshot toolRef =>
      obtain ⟨_, -, hanswer⟩ := Option.map_eq_some_iff.mp hperform
      exact hsame (Prod.mk.inj hanswer).2.symm trivial
  | startTool toolRef =>
      obtain ⟨_, -, hanswer⟩ := Option.map_eq_some_iff.mp hperform
      exact hsame (Prod.mk.inj hanswer).2.symm trivial
  | startWorkflow playbookCode =>
      obtain ⟨_, -, hanswer⟩ := Option.map_eq_some_iff.mp hperform
      exact hsame (Prod.mk.inj hanswer).2.symm trivial

/-! ### Runs -/

variable {calls : Calls}

theorem respects_of_raises {o : Op} {input : Input} (hsettled : Settled ledger)
    (hperform : perform ledger o input = none) : Respects ledger o := by
  have hnone : ledger.episode = none → getTerminalResult ledger = none := by
    intro hepisode
    by_contra hsome
    obtain ⟨result, hresult⟩ := Option.ne_none_iff_exists'.mp hsome
    obtain ⟨row, hrow, -⟩ := hsettled result hresult
    rw [hepisode] at hrow
    cases hrow
  cases o with
  | createEpisode runId kind => cases hperform
  | appendEvent eventType status =>
      exact fun hsome => absurd (hnone (Option.map_eq_none_iff.mp hperform)) hsome
  | upsertResult result =>
      intro stored hstored
      rw [hnone (Option.map_eq_none_iff.mp hperform)] at hstored
      cases hstored
  | getTerminalResult => trivial
  | getObservation => trivial
  | resolveSnapshot toolRef => trivial
  | startTool toolRef => trivial
  | startWorkflow playbookCode => trivial

theorem of_next (event : Event) (hsettled : Settled calls.shared) :
    (Keeps calls.shared (next calls event).shared ↔ RespectsOutcome calls event) ∧
      (RespectsOutcome calls event → Settled (next calls event).shared) := by
  have hsame : (next calls event).shared = calls.shared → RespectsOutcome calls event →
      (Keeps calls.shared (next calls event).shared ↔ RespectsOutcome calls event) ∧
        (RespectsOutcome calls event → Settled (next calls event).shared) := by
    intro hshared hrespects
    rw [hshared]
    exact ⟨iff_of_true (keeps_refl hsettled) hrespects, fun _ => hsettled⟩
  cases event with
  | call i call => exact hsame (Pool.call_shared i calls (program call)).1 trivial
  | interrupt i => exact hsame (Pool.interrupt_shared i calls).1 trivial
  | createEpisode runId kind status => exact of_createEpisodeWith runId kind status calls.shared
  | step i input =>
      rcases Pool.step_cases i calls perform input with
        ⟨o, rest, a, shared, hrunning, hperform, hstep⟩ | ⟨o, rest, hrunning, hperform, hstep⟩ |
          ⟨hidle, hstep⟩
      · rw [next, hstep, RespectsOutcome, hrunning]
        exact of_perform hsettled hperform
      · refine hsame ?_ ?_
        · rw [next, hstep]
        rw [RespectsOutcome, hrunning]
        exact respects_of_raises hsettled hperform
      · refine hsame (congrArg Pool.shared hstep) ?_
        rw [RespectsOutcome]
        split
        · rename_i o rest hrunning
          exact absurd hrunning (hidle o rest)
        · trivial

theorem keeps_of_along {start : Calls} {events : List Event} (hsettled : Settled start.shared)
    (h : Trace.Along next RespectsOutcome start events) :
    Keeps start.shared (Trace.stateAfter next start events).shared ∧
      Settled (Trace.stateAfter next start events).shared := by
  induction events using List.reverseRecOn with
  | nil => exact ⟨keeps_refl hsettled, hsettled⟩
  | append_singleton events event ih =>
      rw [Trace.along_append_singleton] at h
      obtain ⟨hkept, hsettled'⟩ := ih h.1
      obtain ⟨hiff, hnext⟩ := of_next event hsettled'
      rw [Trace.stateAfter_append_singleton]
      refine ⟨fun result hresult => ?_, hnext h.2⟩
      exact hiff.mpr h.2 result (hkept result hresult).1

theorem settled_noCalls : Settled noCalls.shared := by
  intro result hresult
  cases hresult

/-- An outcome never regresses in a run exactly where no step of it creates the episode again or
takes its status back once a terminal result is stored, or stores another result over it. -/
theorem neverRegresses_iff (events : List Event) :
    NeverRegresses events ↔ Trace.Along next RespectsOutcome noCalls events := by
  constructor
  · intro h
    refine Trace.along_iff.mpr ?_
    rintro before event rest rfl
    have hsettled : Settled (ledgerAfter before) := by
      intro result hresult
      have hended := (h before [] (event :: rest) (by rw [List.append_nil]) result hresult).2
      rwa [List.append_nil] at hended
    refine (of_next event hsettled).1.mp fun result hresult => ?_
    have hkept := h before [event] rest (by rw [List.append_assoc]; rfl) result hresult
    rw [ledgerAfter, Trace.stateAfter_append_singleton] at hkept
    exact hkept
  · rintro h before middle after rfl result hresult
    rw [Trace.along_append, Trace.along_append] at h
    obtain ⟨⟨hbefore, hmiddle⟩, -⟩ := h
    have hsettled := (keeps_of_along settled_noCalls hbefore).2
    have hkept := (keeps_of_along hsettled hmiddle).1 result hresult
    rw [ledgerAfter, Trace.stateAfter_append]
    exact hkept

section Sample

def sampleWorkflow : WorkflowRequest where
  runId := "run"
  episodeId := "episode"
  envelope :=
    { originSurface := .workflow
      requestedSideEffects := []
      traceId := "trace"
      preferredHarness := none
      riskClass := .low }
  playbookCode := "playbook"

def runningInput : Input where
  snapshot := none
  toolOutcome := none
  workflowOutcome := some { status := "running", error := none, executionId := "run" }

def failedRuntime : RuntimeResult where
  status := none
  error := none
  outputs := none
  hasCheckpoint := false

def workflowFailedResult : Dict := [("workflow_failed", .bool true)]

/-- A workflow is started, and has recorded its end before the call that started it goes on. -/
def endedFirst : List Event :=
  [.call 0 (.start sampleWorkflow)] ++ List.replicate 6 (.step 0 runningInput) ++
    [.call 1 (.recordTerminal "episode" "run" failedRuntime workflowFailedResult)] ++
    List.replicate 2 (.step 1 runningInput)

/-- The call then stores that the workflow runs. -/
theorem late_start_regresses : ¬ NeverRegresses (endedFirst ++ [.step 0 runningInput]) := by
  intro h
  have hterminal : getTerminalResult (ledgerAfter endedFirst) =
      some (terminalResult "episode" "run" failedRuntime workflowFailedResult) := rfl
  have hkept := (h endedFirst [.step 0 runningInput] [] (List.append_nil _).symm _ hterminal).1
  have hnone : (getTerminalResult
      (ledgerAfter (endedFirst ++ [.step 0 runningInput]))).isNone = true := by decide +kernel
  rw [hkept] at hnone
  cases hnone

end Sample

end MindscapeLocalCore.RunHarness.TerminalOutcomes
