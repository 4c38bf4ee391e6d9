import MindscapeLocalCore.RuntimeDatabaseIncident.Steps
/-!
When a contained incident can be closed. The close policy looks for the containment
of the current receipt among the events of the file.
-/

namespace MindscapeLocalCore.RuntimeDatabaseIncident.Closure

open Library.Guarded Library.Json Library.Trace Receipts ClosureReceipts Incident ClosurePolicy
open Journal Steps

/-- The evidence names the fix, the restore, the owner and the tests of a containment. -/
structure Matches (evidence : CloseEvidence) (containment : IncidentContainmentReceipt) :
    Prop where
  fixCommit : evidence.fixCommit = containment.fixCommit
  restoreId : evidence.restoreId = containment.restoreId
  owner : evidence.owner = containment.owner
  tests : containment.testEvidencePaths ⊆ evidence.testEvidencePaths

def lastContained (events : List JournalEvent) : Option ℤ :=
  ((events.filter fun event => event.kind.contained?.isSome).map (·.recordedAt)).getLast?

variable (p : Platform)

/-- One live trigger, or one exhaustion that is not later than the containment. -/
def Attributed (events : List JournalEvent) (contained : ℤ) : Prop :=
  (∃ sha256, (events.filter (liveTrigger p sha256)).length = 1) ∨
    ∃ exhaustionAt sha256 receipt,
      exhaustions events = [(exhaustionAt, sha256, receipt)] ∧ exhaustionAt ≤ contained

/-- Matching evidence with a soak after the containment passes the common policy. -/
def Closable (current : IncidentReceipt) (events : List JournalEvent) : Prop :=
  ∀ containment evidence contained soakStartedAt,
    current.state = .containedPendingSoak → current.containmentReceipt = some containment →
      lastContained events = some contained → Attributed p events contained →
        Matches evidence containment →
          parseTimestamp p ((soakBoundaries evidence.soakWindow).headD "")
              "incident_close_soak_started_at" = .ok soakStartedAt →
            contained < soakStartedAt →
              ∃ accepted, requireCommonCloseEvidence p current evidence events = .ok accepted

variable {p} {clock : Clock} {journal journal' : Journal}
  {current updated : IncidentReceipt} {operation : Operation} {kinds : List EventKind}
  {events : List JournalEvent} {containment receipt : IncidentContainmentReceipt}

def ContainedOnce (current : IncidentReceipt) (events : List JournalEvent) : Prop :=
  ∀ containment, current.state = .containedPendingSoak →
    current.containmentReceipt = some containment →
      ∃ contained, containments containment events = [contained] ∧
        lastContained events = some contained

theorem closable_of_containedOnce (h : ContainedOnce current events) :
    Closable p current events := by
  intro containment evidence contained soakStartedAt hstate hreceipt hlast _ hmatches hsoak
    hafter
  obtain ⟨once, honce, hlast'⟩ := h containment hstate hreceipt
  obtain rfl := Option.some.inj (hlast.symm.trans hlast')
  refine ⟨contained, ?_⟩
  unfold requireCommonCloseEvidence
  rw [hstate, hreceipt]
  simp only [bind_eq_ok, exists_unit]
  refine ⟨require_of hmatches.fixCommit, require_of hmatches.restoreId,
    require_of hmatches.owner, require_of hmatches.tests, ?_⟩
  rw [honce]
  simp only [bind_eq_ok, exists_unit]
  exact ⟨soakStartedAt, hsoak, require_of hafter.le, rfl⟩

/-! ### One change -/

def Quiet (kinds : List EventKind) : Prop :=
  ∀ kind ∈ kinds, kind.contained? = none ∧ kind.isReopened = false

theorem reopenings_append (left right : List JournalEvent) :
    reopenings (left ++ right) = reopenings left ++ reopenings right := by
  simp [reopenings]

theorem containedAt_append (left right : List JournalEvent) :
    containedAt containment (left ++ right) =
      containedAt containment left ++ containedAt containment right := by
  simp [containedAt]

theorem reopenings_quiet (recordedAt : ℤ) (h : Quiet kinds) :
    reopenings (kinds.map fun kind => ⟨recordedAt, kind⟩) = [] := by
  unfold reopenings
  rw [List.filter_map, List.filter_eq_nil_iff.mpr]
  · rfl
  · intro kind hmem
    simp [(h kind hmem).2]

theorem containedAt_quiet (recordedAt : ℤ) (h : Quiet kinds) :
    containedAt containment (kinds.map fun kind => ⟨recordedAt, kind⟩) = [] := by
  unfold containedAt
  rw [List.filter_map, List.filter_eq_nil_iff.mpr]
  · rfl
  · intro kind hmem
    simp [(h kind hmem).1]

theorem containments_quiet (recordedAt : ℤ) (h : Quiet kinds) :
    containments containment (events ++ kinds.map fun kind => ⟨recordedAt, kind⟩) =
      containments containment events := by
  unfold containments
  rw [reopenings_append, reopenings_quiet _ h, containedAt_append, containedAt_quiet _ h,
    List.append_nil, List.append_nil]

theorem lastContained_quiet (recordedAt : ℤ) (h : Quiet kinds) :
    lastContained (events ++ kinds.map fun kind => ⟨recordedAt, kind⟩) =
      lastContained events := by
  have hnone : (kinds.map fun kind => (⟨recordedAt, kind⟩ : JournalEvent)).filter
      (fun event => event.kind.contained?.isSome) = [] := by
    rw [List.filter_map, List.filter_eq_nil_iff.mpr]
    · rfl
    · intro kind hmem
      simp [(h kind hmem).1]
  unfold lastContained
  rw [List.filter_append, hnone, List.append_nil]

theorem containments_contained {recordedAt : ℤ} (hnew : containments receipt events = [])
    (hlater : ∀ reopened ∈ reopenings events, reopened < recordedAt) :
    containments receipt (events ++ [⟨recordedAt, .incidentContained receipt⟩]) =
      [recordedAt] := by
  have hreopenings : reopenings (events ++ [⟨recordedAt, .incidentContained receipt⟩]) =
      reopenings events := by
    simp [reopenings, EventKind.isReopened]
  have hcontained : containedAt receipt
      [⟨recordedAt, .incidentContained receipt⟩] = [recordedAt] := by
    simp [containedAt, EventKind.contained?]
  unfold containments at hnew ⊢
  rw [hreopenings, containedAt_append, hcontained, List.filter_append, hnew, List.nil_append]
  simpa using hlater

theorem lastContained_contained {recordedAt : ℤ} :
    lastContained (events ++ [⟨recordedAt, .incidentContained receipt⟩]) =
      some recordedAt := by
  simp [lastContained, EventKind.contained?]

theorem contained_of_change (h : Change p clock events current operation updated kinds)
    (hstate : updated.state = .containedPendingSoak)
    (hreceipt : updated.containmentReceipt = some containment) :
    (operation = .markContained current.incidentId containment ∧
        current.state = .openUnattributed ∧ kinds = [.incidentContained containment]) ∨
      (∃ authorization, operation =
          .renewContainment current.incidentId containment authorization) ∧
        Quiet kinds ∧ current.state = .containedPendingSoak ∨
      current.state = .containedPendingSoak ∧ current.containmentReceipt = some containment ∧
        Quiet kinds := by
  cases h with
  | contained hopen =>
      obtain rfl := Option.some.inj hreceipt
      exact .inl ⟨rfl, hopen, rfl⟩
  | renewed hcontained =>
      obtain rfl := Option.some.inj hreceipt
      refine .inr (.inl ⟨⟨_, rfl⟩, ?_, hcontained⟩)
      simp [Quiet, EventKind.contained?, EventKind.isReopened]
  | failed => exact absurd hstate (by simp [reopened])
  | reopened => exact absurd hstate (by simp)
  | closed => exact absurd hstate (by simp)
  | closedResidual => exact absurd hstate (by simp)
  | diagnosticFailed => exact absurd hreceipt.symm (Option.some_ne_none _)
  | diagnosticRecorded hopen => exact absurd (hopen.symm.trans hstate) (by simp)
  | _ =>
      refine .inr (.inr ⟨hstate, hreceipt, ?_⟩)
      simp [Quiet, EventKind.contained?, EventKind.isReopened]

/-! ### Runs -/

/-- A renewal keeps the receipt, and a containment takes one that the file has not
contained since its last reopening, with the clock past that reopening. -/
structure KeepsReceipt (journal : Journal) (call : Call) : Prop where
  renewed : ∀ incidentId receipt authorization,
    call.operation = .renewContainment incidentId receipt authorization →
      ∀ current, journal.current = some current → current.containmentReceipt = some receipt
  contained : ∀ incidentId receipt, call.operation = .markContained incidentId receipt →
    ∀ current, journal.current = some current → current.state = .openUnattributed →
      containments receipt (journal.file incidentId) = [] ∧
        ∀ reopened ∈ reopenings (journal.file incidentId), reopened < call.clock.event

def JournalContainedOnce (journal : Journal) : Prop :=
  ∀ current, journal.current = some current →
    ContainedOnce current (journal.file current.incidentId)

theorem containedOnce_step {call : Call} (h : JournalContainedOnce journal)
    (hkeeps : KeepsReceipt journal call) (hperformed : Performed p journal call journal') :
    JournalContainedOnce journal' := by
  cases hperformed with
  | unchanged => exact h
  | opened =>
      rintro current hcurrent containment hstate
      obtain rfl := Option.some.inj hcurrent
      exact absurd hstate (by simp [openedReceipt])
  | @changed current updated kinds hcurrent hchange =>
      rintro _ ⟨⟩ containment hstate hreceipt
      have hincident := incidentId_of_change hchange
      rw [file_record, hincident]
      rcases contained_of_change hchange hstate hreceipt with
        ⟨hoperation, hopen, rfl⟩ | ⟨⟨authorization, hoperation⟩, hquiet, hcontained⟩ |
          ⟨hcontained, hsame, hquiet⟩
      · obtain ⟨hnew, hlater⟩ := hkeeps.contained _ _ hoperation current hcurrent hopen
        exact ⟨call.clock.event, containments_contained hnew hlater, lastContained_contained⟩
      · have hsame := hkeeps.renewed _ _ _ hoperation current hcurrent
        rw [containments_quiet _ hquiet, lastContained_quiet _ hquiet]
        exact h current hcurrent containment hcontained hsame
      · rw [containments_quiet _ hquiet, lastContained_quiet _ hquiet]
        exact h current hcurrent containment hcontained hsame

/-- In a run that keeps its receipts, every contained incident can be closed. -/
theorem contained_incidents_close {calls : List Call} (h : EachCall p KeepsReceipt calls)
    (hcurrent : (journalAfter p calls).current = some current) :
    Closable p current ((journalAfter p calls).file current.incidentId) := by
  have honce : JournalContainedOnce (journalAfter p calls) := by
    refine holds_after ?_ ?_ h
    · intro current hcurrent
      exact absurd hcurrent.symm (Option.some_ne_none _)
    · intro journal call journal' hholds hkeeps hperformed
      exact containedOnce_step hholds hkeeps hperformed
  exact closable_of_containedOnce (honce current hcurrent)

/-! ### A renewed containment -/

def observer : IncidentDiagnosticPermit where
  permitId := "observer"
  sourceCommit := "aaaaaaaa"
  allowedOperationKeys := ["postgres_signal_observer_start@sha256:" ++ digest]
  testEvidencePaths := ["observer.json"]
  captureEvidenceId := "capture"
  budgetSha256 := digest
  expiresAt := "2026-07-27T00:30:00Z"
  owner := "owner"

def signalEvidence : Dict :=
  [("application_name", .str "psql"), ("client_process_pid", .str "1"),
    ("client_process_pid_available", .str "true"), ("event_context", .str "live_runtime"),
    ("sender_comm", .str "bash"), ("sender_host_pid", .str "1"),
    ("signal_event_path", .str "signal.json"), ("signal_event_sha256", .str digest),
    ("target_host_pid", .str "1"), ("target_postgres_pid", .str "1")]

def fixCommit : String := "aaaaaaaaaaaaaaaaaaaaaaaaaaaaaaaaaaaaaaaa"

def containmentUntil (permitId expiresAt : String) : IncidentContainmentReceipt where
  permitId
  triggerClassification := "signal"
  fixCommit := fixCommit
  allowedOperationKeys := ["repair"]
  testEvidencePaths := ["test.json"]
  restoreId := "backup"
  expiresAt
  owner := "owner"

def permittedReceipt : IncidentReceipt :=
  { opened with updatedAt := minute 1, diagnosticPermit := some observer }

def permittedJournal : Journal :=
  openedJournal.record permittedReceipt (minute 1) [.diagnosticPermitRecorded observer]

set_option maxRecDepth 4000 in
theorem next_permitted :
    next plain openedJournal
      (callAt 1 (.recordDiagnosticPermit opened.incidentId observer)) = permittedJournal :=
  (rfl)

def observedReceipt : IncidentReceipt :=
  { permittedReceipt with updatedAt := minute 2, evidenceCount := 2 }

def observedJournal : Journal :=
  permittedJournal.record observedReceipt (minute 2)
    [.diagnosticObservationRecorded "observer" "postgres_sigquit_signal_observed"
      signalEvidence]

theorem next_observed :
    next plain permittedJournal
      (callAt 2 (.recordDiagnosticObservation opened.incidentId "observer"
        "postgres_sigquit_signal_observed" signalEvidence)) = observedJournal := (rfl)

def containedReceipt (count : ℤ) (receipt : IncidentContainmentReceipt) : IncidentReceipt :=
  { observedReceipt with
    state := .containedPendingSoak
    updatedAt := minute count
    diagnosticPermit := none
    containmentReceipt := some receipt }

def firstContainment : IncidentContainmentReceipt :=
  containmentUntil "containment" "2026-07-27T00:20:00Z"

def containedJournal : Journal :=
  observedJournal.record (containedReceipt 3 firstContainment) (minute 3)
    [.incidentContained firstContainment]

set_option maxRecDepth 4000 in
theorem next_contained :
    next plain observedJournal
      (callAt 3 (.markContained opened.incidentId firstContainment)) = containedJournal :=
  (rfl)

def renewal : IncidentContainmentReceipt :=
  containmentUntil "renewal" "2026-07-27T00:30:00Z"

def renewedJournal : Journal :=
  containedJournal.record (containedReceipt 4 renewal) (minute 4)
    [.containmentRenewed "owner" firstContainment renewal]

set_option maxRecDepth 4000 in
theorem next_renewed :
    next plain containedJournal
      (callAt 4 (.renewContainment opened.incidentId renewal "owner")) = renewedJournal :=
  (rfl)

def observedEvents : List JournalEvent :=
  [⟨minute 0, .incidentOpened "db_down" []⟩, ⟨minute 1, .diagnosticPermitRecorded observer⟩,
    ⟨minute 2, .diagnosticObservationRecorded "observer" "postgres_sigquit_signal_observed"
      signalEvidence⟩]

theorem file_observedJournal : observedJournal.file opened.incidentId = observedEvents := by
  have hobserved : observedReceipt.incidentId = opened.incidentId := rfl
  have hpermitted : permittedReceipt.incidentId = opened.incidentId := rfl
  have hnew : (openedReceipt (readings 0) outage).incidentId = opened.incidentId := rfl
  rw [observedJournal, file_record_of hobserved, permittedJournal, file_record_of hpermitted,
    openedJournal, openNew, file_record_of hnew]
  rfl

def containedEvents : List JournalEvent :=
  observedEvents ++ [⟨minute 3, .incidentContained firstContainment⟩]

theorem file_containedJournal : containedJournal.file opened.incidentId = containedEvents := by
  have hcontained : (containedReceipt 3 firstContainment).incidentId = opened.incidentId := rfl
  rw [containedJournal, file_record_of hcontained, file_observedJournal]
  rfl

def renewedEvents : List JournalEvent :=
  containedEvents ++ [⟨minute 4, .containmentRenewed "owner" firstContainment renewal⟩]

theorem file_renewedJournal : renewedJournal.file opened.incidentId = renewedEvents := by
  have hrenewed : (containedReceipt 4 renewal).incidentId = opened.incidentId := rfl
  rw [renewedJournal, file_record_of hrenewed, file_containedJournal]
  rfl

def containedRun : List Call :=
  [callAt 0 (.openIncident outage),
    callAt 1 (.recordDiagnosticPermit opened.incidentId observer),
    callAt 2 (.recordDiagnosticObservation opened.incidentId "observer"
      "postgres_sigquit_signal_observed" signalEvidence),
    callAt 3 (.markContained opened.incidentId firstContainment)]

theorem journalAfter_containedRun : journalAfter plain containedRun = containedJournal := by
  rw [journalAfter, containedRun, stateAfter_cons, next_opened, stateAfter_cons,
    next_permitted, stateAfter_cons, next_observed, stateAfter_cons, next_contained]
  rfl

def renewedRun : List Call :=
  containedRun ++ [callAt 4 (.renewContainment opened.incidentId renewal "owner")]

theorem journalAfter_renewedRun : journalAfter plain renewedRun = renewedJournal := by
  rw [journalAfter, renewedRun, stateAfter_append_singleton, ← journalAfter,
    journalAfter_containedRun, next_renewed]

def closeEvidence (soakWindow : String) : CloseEvidence where
  fixCommit := fixCommit
  containmentEvidencePath := "containment.json"
  containmentEvidenceSha256 := digest
  testEvidencePaths := ["test.json"]
  testEvidenceSha256 := digest
  reproductionEvidencePath := "reproduction.json"
  reproductionEvidenceSha256 := digest
  soakWindow
  restoreId := "backup"
  restoreEvidencePath := "restore.json"
  restoreEvidenceSha256 := digest
  resourceBudgetEvidencePath := "budget.json"
  resourceBudgetEvidenceSha256 := digest
  owner := "owner"
  ownerReceiptPath := "owner.json"
  ownerReceiptSha256 := digest

def firstSoak : String := "2026-07-27T00:10:00Z/2026-07-27T00:20:00Z"

theorem closeEvidence_matches (soakWindow permitId expiresAt : String) :
    Matches (closeEvidence soakWindow) (containmentUntil permitId expiresAt) :=
  ⟨rfl, rfl, rfl, List.Subset.refl _⟩

/-- After one renewal the incident cannot be closed. -/
theorem renewed_incident_stays_contained :
    ∃ calls current, (journalAfter plain calls).current = some current ∧
      ¬ Closable plain current ((journalAfter plain calls).file current.incidentId) := by
  refine ⟨renewedRun, containedReceipt 4 renewal, ?_, ?_⟩
  · rw [journalAfter_renewedRun]
    rfl
  · intro hclosable
    change Closable plain (containedReceipt 4 renewal)
      ((journalAfter plain renewedRun).file opened.incidentId) at hclosable
    rw [journalAfter_renewedRun, file_renewedJournal] at hclosable
    have hattributed : Attributed plain renewedEvents (minute 3) := .inl ⟨digest, by decide⟩
    obtain ⟨accepted, haccepted⟩ := hclosable renewal (closeEvidence firstSoak) (minute 3)
      (minute 10) rfl rfl rfl hattributed (closeEvidence_matches _ _ _) (by decide) (by decide)
    have hrefused : requireCommonCloseEvidence plain (containedReceipt 4 renewal)
        (closeEvidence firstSoak) renewedEvents =
          .error "incident_close_requires_exact_current_containment_event" := by decide
    rw [hrefused] at haccepted
    exact absurd haccepted (by rintro ⟨⟩)

theorem containedRun_keeps : EachCall plain KeepsReceipt containedRun := by
  have hopen : KeepsReceipt .empty (callAt 0 (.openIncident outage)) :=
    ⟨fun _ _ _ hoperation => Operation.noConfusion hoperation,
      fun _ _ hoperation => Operation.noConfusion hoperation⟩
  have hpermit : KeepsReceipt openedJournal
      (callAt 1 (.recordDiagnosticPermit opened.incidentId observer)) :=
    ⟨fun _ _ _ hoperation => Operation.noConfusion hoperation,
      fun _ _ hoperation => Operation.noConfusion hoperation⟩
  have hobserve : KeepsReceipt permittedJournal
      (callAt 2 (.recordDiagnosticObservation opened.incidentId "observer"
        "postgres_sigquit_signal_observed" signalEvidence)) :=
    ⟨fun _ _ _ hoperation => Operation.noConfusion hoperation,
      fun _ _ hoperation => Operation.noConfusion hoperation⟩
  have hcontain : KeepsReceipt observedJournal
      (callAt 3 (.markContained opened.incidentId firstContainment)) := by
    refine ⟨fun _ _ _ hoperation => Operation.noConfusion hoperation, ?_⟩
    intro incidentId receipt hoperation current _ _
    obtain ⟨rfl, rfl⟩ := Operation.markContained.inj hoperation
    rw [file_observedJournal]
    exact ⟨rfl, fun _ hmem => absurd hmem List.not_mem_nil⟩
  refine ⟨hopen, ?_⟩
  rw [next_opened]
  refine ⟨hpermit, ?_⟩
  rw [next_permitted]
  refine ⟨hobserve, ?_⟩
  rw [next_observed]
  exact ⟨hcontain, trivial⟩

theorem contained_incident_closes :
    Closable plain (containedReceipt 3 firstContainment) containedEvents := by
  have hcurrent : (journalAfter plain containedRun).current =
      some (containedReceipt 3 firstContainment) := by
    rw [journalAfter_containedRun]
    rfl
  have hclosable := contained_incidents_close containedRun_keeps hcurrent
  change Closable plain (containedReceipt 3 firstContainment)
    ((journalAfter plain containedRun).file opened.incidentId) at hclosable
  rwa [journalAfter_containedRun, file_containedJournal] at hclosable

end MindscapeLocalCore.RuntimeDatabaseIncident.Closure
