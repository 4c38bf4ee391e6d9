import MindscapeLocalCore.RuntimeDatabaseIncident.ClosureReceipts

/-!
The snapshot of the current incident and the events of its file.
-/

namespace MindscapeLocalCore.RuntimeDatabaseIncident.Incident

open Library.Hex Library.Json Library.Sha256 Receipts ClosureReceipts

inductive IncidentState where
  | openUnattributed
  | containedPendingSoak
  | closed
deriving DecidableEq

def IncidentState.value : IncidentState → String
  | .openUnattributed => "open_unattributed"
  | .containedPendingSoak => "contained_pending_soak"
  | .closed => "closed"

structure IncidentReceipt where
  incidentId : String
  state : IncidentState
  failureCode : String
  postmasterStartTime : String
  firstFailureAt : String
  updatedAt : ℤ
  evidenceCount : ℕ
  diagnosticPermit : Option IncidentDiagnosticPermit := none
  containmentReceipt : Option IncidentContainmentReceipt := none
  packInstallPermits : List IncidentPackInstallPermitReceipt := []
  targetedMigrationPermits : List IncidentTargetedMigrationPermitReceipt := []
  closeReceipt : Option ClosePayload := none
deriving DecidableEq

/-- What `revoke_pack_install_permit` records. -/
structure TerminalReceipt where
  permitId : String
  terminalInstallId : String
  terminalStatus : String
  terminalEvidencePath : String
deriving DecidableEq

structure ReopenAuthorization where
  owner : String
  authorization : String
  authorizationPath : String
  authorizationSha256 : String
  reason : String
deriving DecidableEq

inductive EventKind where
  | incidentOpened (failureCode : String) (evidence : Dict)
  | failureObserved (failureCode : String) (evidence : Dict)
  | containmentRevokedByFailure (permitId failureCode : String)
  | diagnosticPermitPreservedForAttributionCapture (permitId failureCode : String)
  | diagnosticPermitRevokedByFailure (permitId : String) (terminalReason : Option String)
      (failureCode : String)
  | diagnosticPermitConsumedTerminal (permitId terminalReason : String)
  | diagnosticPermitExpired (permitId : String)
  | diagnosticPermitRecorded (permit : IncidentDiagnosticPermit)
  | diagnosticObservationRecorded (permitId observationCode : String) (evidence : Dict)
  | diagnosticObserverOwnershipHandedBack (ownerBefore ownerAfter terminalReason : String)
  | incidentContained (receipt : IncidentContainmentReceipt)
  | containmentRenewed (authorization : String)
      (previous receipt : IncidentContainmentReceipt)
  | containmentReopenedForAttribution (authorization : ReopenAuthorization)
      (revoked : IncidentContainmentReceipt)
  | packInstallPermitGranted (receipt : IncidentPackInstallPermitReceipt)
      (expiredPermitIdsPruned : List String)
  | packInstallPermitRevoked (receipt : TerminalReceipt)
  | targetedMigrationPermitGranted (receipt : IncidentTargetedMigrationPermitReceipt)
  | attributionExhaustionRecorded (sha256 : String)
      (receipt : IncidentAttributionExhaustionReceipt)
  | incidentClosed (receipt : ClosePayload)

def EventKind.contained? : EventKind → Option IncidentContainmentReceipt
  | .incidentContained receipt => some receipt
  | _ => none

def EventKind.isReopened : EventKind → Bool
  | .containmentReopenedForAttribution .. => true
  | _ => false

def EventKind.revoked? : EventKind → Option TerminalReceipt
  | .packInstallPermitRevoked receipt => some receipt
  | _ => none

/-- A line of `events.jsonl`. -/
structure JournalEvent where
  recordedAt : ℤ
  kind : EventKind

def incidentPath (incidentId : String) : String :=
  String.ofList ((hexText 64 (sha256 incidentId.toUTF8).toNat).take 20)

/-- `current.json`, and the lines of each incident's file. -/
structure Journal where
  current : Option IncidentReceipt
  events : String → List JournalEvent

def Journal.empty : Journal := ⟨none, fun _ => []⟩

def Journal.file (journal : Journal) (incidentId : String) : List JournalEvent :=
  journal.events (incidentPath incidentId)

def Journal.append (journal : Journal) (incidentId : String) (at' : ℤ)
    (kinds : List EventKind) : Journal :=
  { journal with
    events := Function.update journal.events (incidentPath incidentId)
      (journal.file incidentId ++ kinds.map fun kind => ⟨at', kind⟩) }

/-- Append the events of a change and write the snapshot. -/
def Journal.record (journal : Journal) (updated : IncidentReceipt) (at' : ℤ)
    (kinds : List EventKind) : Journal :=
  { journal.append updated.incidentId at' kinds with current := some updated }

inductive JournalError where
  | value (text : String)
  | transition (text : String)
  | unavailable
deriving DecidableEq

variable {journal : Journal} {incidentId : String} {updated : IncidentReceipt} {at' : ℤ}
  {kinds : List EventKind}

@[simp] theorem current_record : (journal.record updated at' kinds).current = some updated := rfl

@[simp] theorem file_record :
    (journal.record updated at' kinds).file updated.incidentId =
      journal.file updated.incidentId ++ kinds.map fun kind => ⟨at', kind⟩ :=
  Function.update_self ..

theorem file_record_of (h : updated.incidentId = incidentId) :
    (journal.record updated at' kinds).file incidentId =
      journal.file incidentId ++ kinds.map fun kind => ⟨at', kind⟩ := by
  subst h
  exact file_record

theorem events_record (path : String) :
    (journal.record updated at' kinds).events path =
      if path = incidentPath updated.incidentId then
        journal.events path ++ kinds.map fun kind => ⟨at', kind⟩
      else journal.events path := by
  change Function.update journal.events (incidentPath updated.incidentId) _ path = _
  split
  · rename_i hpath
    subst hpath
    exact Function.update_self ..
  · rename_i hpath
    exact Function.update_of_ne hpath ..

end MindscapeLocalCore.RuntimeDatabaseIncident.Incident

/-!
The terminal policies: what the file of a contained incident must hold before the
incident may be closed.
-/

namespace MindscapeLocalCore.RuntimeDatabaseIncident.ClosurePolicy

open Library.Guarded Library.Json Library.PythonText Receipts ClosureReceipts Incident

variable (p : Platform)

/-- `int(value)`, for the values that have one. -/
def pythonInt : Json → Option ℤ
  | .num (.int value) => some value
  | .num number@(.float ..) =>
      some (if 0 ≤ number.exponent then number.scaledTo 0
        else number.mantissa.tdiv (10 ^ (-number.exponent).toNat))
  | .bool value => some (if value then 1 else 0)
  | .str text => p.int text
  | _ => none

def positiveInt (value : Option Json) : Bool :=
  match value.bind (pythonInt p) with
  | some parsed => decide (0 < parsed)
  | none => false

/-- `str(value or "").strip()` is not empty. -/
def present : Option Json → Bool
  | some (.str text) => decide (¬ Blank text)
  | some value => value.truthy
  | none => false

def isStr (value : Option Json) (text : String) : Bool := value.bind Json.str? == some text

def reopenings (events : List JournalEvent) : List ℤ :=
  (events.filter fun event => event.kind.isReopened).map (·.recordedAt)

def containedAt (containment : IncidentContainmentReceipt) (events : List JournalEvent) :
    List ℤ :=
  (events.filter fun event => decide (event.kind.contained? = some containment)).map
    (·.recordedAt)

def containments (containment : IncidentContainmentReceipt) (events : List JournalEvent) :
    List ℤ :=
  (containedAt containment events).filter fun contained =>
    decide (∀ reopened ∈ reopenings events, reopened < contained)

/-- `_require_common_close_evidence`; its result is the moment of the containment. -/
def requireCommonCloseEvidence (current : IncidentReceipt) (evidence : CloseEvidence)
    (events : List JournalEvent) : Check ℤ :=
  match current.state, current.containmentReceipt with
  | .containedPendingSoak, some containment => do
      require (evidence.fixCommit = containment.fixCommit)
        "incident_close_fix_commit_must_match_containment"
      require (evidence.restoreId = containment.restoreId)
        "incident_close_restore_id_must_match_containment"
      require (evidence.owner = containment.owner)
        "incident_close_owner_must_match_containment"
      require (containment.testEvidencePaths ⊆ evidence.testEvidencePaths)
        "incident_close_tests_must_include_containment_evidence"
      match containments containment events with
      | [contained] => do
          let soakStartedAt ← parseTimestamp p ((soakBoundaries evidence.soakWindow).headD "")
            "incident_close_soak_started_at"
          require (contained ≤ soakStartedAt) "incident_close_soak_must_follow_containment"
          pure contained
      | _ => .error "incident_close_requires_exact_current_containment_event"
  | .containedPendingSoak, none =>
      .error "incident_close_fix_commit_must_match_containment"
  | _, _ => .error ("Incident " ++ current.incidentId ++ " must be contained before close")

def liveTrigger (sha256 : String) (event : JournalEvent) : Bool :=
  match event.kind with
  | .diagnosticObservationRecorded _ observationCode evidence =>
      observationCode == "postgres_sigquit_signal_observed" &&
        isStr (evidence.get? "event_context") "live_runtime" &&
        isStr (evidence.get? "signal_event_sha256") sha256 &&
        present (evidence.get? "sender_comm") &&
        positiveInt p (evidence.get? "sender_host_pid") &&
        positiveInt p (evidence.get? "target_host_pid") &&
        positiveInt p (evidence.get? "target_postgres_pid") &&
        present (evidence.get? "application_name") &&
        isStr (evidence.get? "client_process_pid_available") "true" &&
        positiveInt p (evidence.get? "client_process_pid") &&
        present (evidence.get? "signal_event_path")
  | _ => false

def validateAttributableClose (current : IncidentReceipt) (receipt : IncidentCloseReceipt)
    (events : List JournalEvent) : Check ClosePayload := do
  let _ ← requireCommonCloseEvidence p current receipt.toCloseEvidence events
  require ((events.filter (liveTrigger p receipt.deepTriggerEventSha256)).length = 1)
    "incident_close_requires_exact_live_deep_trigger_event"
  pure (.attributable receipt)

def exhaustions (events : List JournalEvent) :
    List (ℤ × String × IncidentAttributionExhaustionReceipt) :=
  events.filterMap fun event =>
    match event.kind with
    | .attributionExhaustionRecorded sha256 receipt => some (event.recordedAt, sha256, receipt)
    | _ => none

def validateResidualClose (current : IncidentReceipt) (receipt : IncidentResidualCloseReceipt)
    (events : List JournalEvent) : Check ClosePayload := do
  let contained ← requireCommonCloseEvidence p current receipt.toCloseEvidence events
  match exhaustions events with
  | [(exhaustionAt, sha256, exhaustion)] => do
      require (sha256 = receipt.attributionExhaustionSha256 ∧
          exhaustion.incidentId = current.incidentId ∧
          exhaustion.classification = attributionExhaustionClassification ∧
          exhaustion.residualRiskStatement = residualRiskText ∧
          exhaustion.searchComplete = true)
        "residual_close_attribution_exhaustion_mismatch"
      require (exhaustionAt ≤ contained) "residual_close_exhaustion_must_precede_containment"
      pure (.residual receipt)
  | _ => .error "residual_close_requires_exact_attribution_exhaustion_event"

end MindscapeLocalCore.RuntimeDatabaseIncident.ClosurePolicy
