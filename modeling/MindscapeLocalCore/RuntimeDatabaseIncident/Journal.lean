import MindscapeLocalCore.RuntimeDatabaseIncident.Incident
/-!
The operations of the journal. Each one runs under the lock of the journal, from its
read of `current.json` to its write.
-/

namespace MindscapeLocalCore.RuntimeDatabaseIncident.Journal

open Library.Guarded Library.Hex Library.Json Library.PythonText Library.Sha256 Receipts
open ClosureReceipts Incident ClosurePolicy

abbrev JournalCheck (α : Type) := Except JournalError α

/-- The readings of the clock in one call: before it takes the lock, for a
comparison under the lock, and for the event. -/
structure Clock where
  checked : ℤ
  compared : ℤ
  event : ℤ

variable (p : Platform) (clock : Clock)

def requireCurrent (journal : Journal) (incidentId : String) : JournalCheck IncidentReceipt :=
  match journal.current with
  | some current =>
      if current.incidentId = incidentId then .ok current
      else .error (.transition ("Incident " ++ incidentId ++ " is not current"))
  | none => .error (.transition ("Incident " ++ incidentId ++ " is not current"))

def readEvents (journal : Journal) (incidentId : String) : JournalCheck (List JournalEvent) :=
  if journal.file incidentId = [] then .error .unavailable else .ok (journal.file incidentId)

def isLiveSignalObserverPermit (permit : IncidentDiagnosticPermit) : Bool :=
  permit.allowedOperationKeys.any fun key => signalObserverStart.isPrefixOf key.toList

def ahead (expiresAt fieldName : String) (now : ℤ) : Bool :=
  match parseTimestamp p expiresAt fieldName with
  | .ok instant => decide (now < instant)
  | .error _ => false

def unexpired (expiresAt fieldName : String) (now : ℤ) : Bool :=
  expiresAt != "" && ahead p expiresAt fieldName now

def packPermitActive (permit : IncidentPackInstallPermitReceipt) (now : ℤ) : Bool :=
  unexpired p permit.expiresAt "pack_install_permit_expires_at" now

/-! ### Failures -/

/-- `failureAt` is `first_failure_at`, or the clock's text when there is none. -/
structure Failure where
  failureCode : String
  postmasterStartTime : String
  failureAt : String
  evidence : Dict

def failureKinds (current : IncidentReceipt) (failureCode : String) : List EventKind :=
  match current.containmentReceipt, current.diagnosticPermit with
  | some containment, _ => [.containmentRevokedByFailure containment.permitId failureCode]
  | none, some diagnostic =>
      if isLiveSignalObserverPermit diagnostic then
        [.diagnosticPermitPreservedForAttributionCapture diagnostic.permitId failureCode]
      else [.diagnosticPermitRevokedByFailure diagnostic.permitId none failureCode]
  | none, none => []

def reopened (current : IncidentReceipt) : IncidentReceipt :=
  { current with
    state := .openUnattributed
    updatedAt := clock.event
    evidenceCount := current.evidenceCount + 1
    diagnosticPermit := current.diagnosticPermit.filter isLiveSignalObserverPermit
    containmentReceipt := none }

def postmasterStartTime (failure : Failure) : String :=
  if failure.postmasterStartTime = "" then "unknown" else failure.postmasterStartTime

def openedReceipt (failure : Failure) : IncidentReceipt where
  incidentId := "postgres:" ++ postmasterStartTime failure ++ ":" ++ failure.failureAt
  state := .openUnattributed
  failureCode := failure.failureCode
  postmasterStartTime := postmasterStartTime failure
  firstFailureAt := failure.failureAt
  updatedAt := clock.event
  evidenceCount := 1

def openNew (failure : Failure) (journal : Journal) : Journal :=
  journal.record (openedReceipt clock failure) clock.event
    [.incidentOpened failure.failureCode failure.evidence]

def openIncident (failure : Failure) (journal : Journal) : Journal :=
  match journal.current with
  | some current =>
      if current.state = .closed then openNew clock failure journal
      else
        journal.record (reopened clock current) clock.event
          (failureKinds current failure.failureCode ++
            [.failureObserved failure.failureCode failure.evidence])
  | none => openNew clock failure journal

/-! ### Diagnostic permits -/

def recordDiagnosticPermit (incidentId : String) (permit : IncidentDiagnosticPermit)
    (journal : Journal) : JournalCheck Journal := do
  lifted .value (permit.validate p clock.checked)
  let current ← requireCurrent journal incidentId
  require (current.state = .openUnattributed)
    (.transition ("Incident " ++ incidentId ++ " must remain open for diagnostic permit"))
  let updated := { current with
    updatedAt := clock.event
    diagnosticPermit := some permit }
  match current.diagnosticPermit with
  | none => pure (journal.record updated clock.event [.diagnosticPermitRecorded permit])
  | some existing =>
      if existing = permit then pure journal
      else do
        let expiry ← lifted .value
          (parseTimestamp p existing.expiresAt "diagnostic_expires_at")
        require (expiry ≤ clock.compared)
          (.transition
            ("Incident " ++ incidentId ++ " already has another diagnostic permit"))
        pure (journal.record updated clock.event
          [.diagnosticPermitExpired existing.permitId, .diagnosticPermitRecorded permit])

def recordDiagnosticObservation (incidentId permitId observationCode : String)
    (evidence : Dict) (journal : Journal) : JournalCheck Journal := do
  require (observationCode = "postgres_sigquit_signal_observed")
    (.value "diagnostic_observation_code_invalid")
  let exactPermitId := strip permitId
  require (exactPermitId ≠ "") (.value "diagnostic_observation_permit_id_required")
  let current ← requireCurrent journal incidentId
  match current.diagnosticPermit with
  | none =>
      .error (.transition ("Incident " ++ incidentId ++ " diagnostic permit does not match"))
  | some diagnostic => do
      require (diagnostic.permitId = exactPermitId)
        (.transition ("Incident " ++ incidentId ++ " diagnostic permit does not match"))
      require (ahead p diagnostic.expiresAt "diagnostic_expires_at" clock.compared)
        (.transition ("Incident " ++ incidentId ++ " diagnostic permit is expired"))
      pure (journal.record
        { current with
          updatedAt := clock.event
          evidenceCount := current.evidenceCount + 1 } clock.event
        [.diagnosticObservationRecorded exactPermitId observationCode evidence])

def revokeDiagnosticPermit (incidentId terminalReason failureCode : String)
    (journal : Journal) : JournalCheck Journal := do
  let reason := strip terminalReason
  let failure := strip failureCode
  require (reason ≠ "") (.value "diagnostic_permit_terminal_reason_required")
  let current ← requireCurrent journal incidentId
  match current.diagnosticPermit with
  | none =>
      .error (.transition ("Incident " ++ incidentId ++ " has no diagnostic permit to revoke"))
  | some diagnostic =>
      if failure = "" then
        pure (journal.record
          { current with updatedAt := clock.event, diagnosticPermit := none } clock.event
          [.diagnosticPermitConsumedTerminal diagnostic.permitId reason])
      else
        pure (journal.record
          { current with
            updatedAt := clock.event
            evidenceCount := current.evidenceCount + 1
            diagnosticPermit := none
            containmentReceipt := none } clock.event
          [.diagnosticPermitRevokedByFailure diagnostic.permitId (some reason) failure])

def recordDiagnosticOwnershipHandback (incidentId owner terminalReason : String)
    (remainingResourcesVerified : Bool) (journal : Journal) : JournalCheck Journal := do
  require (strip owner = "runtime-db-incident-owner")
    (.value "diagnostic_ownership_handback_owner_invalid")
  require (strip terminalReason ≠ "") (.value "diagnostic_ownership_handback_reason_required")
  require (remainingResourcesVerified = true)
    (.value "diagnostic_ownership_handback_resources_not_verified")
  let current ← requireCurrent journal incidentId
  require (current.diagnosticPermit = none)
    (.transition ("Incident " ++ incidentId ++ " diagnostic permit is still active"))
  pure (journal.append incidentId clock.event
    [.diagnosticObserverOwnershipHandedBack (strip owner) "none" (strip terminalReason)])

/-! ### Containment -/

def markContained (incidentId : String) (receipt : IncidentContainmentReceipt)
    (journal : Journal) : JournalCheck Journal := do
  lifted .value (receipt.validate p)
  let expiresAt ← lifted .value (parseTimestamp p receipt.expiresAt "containment_expires_at")
  require (clock.checked < expiresAt) (.value "containment_receipt_expired")
  let current ← requireCurrent journal incidentId
  match current.state with
  | .containedPendingSoak =>
      if current.containmentReceipt = some receipt then pure journal
      else
        .error (.transition
          ("Incident " ++ incidentId ++ " is already contained with another receipt"))
  | .closed =>
      .error (.transition
        ("Incident " ++ incidentId ++ " cannot transition from closed to contained"))
  | .openUnattributed =>
      pure (journal.record
        { current with
          state := .containedPendingSoak
          updatedAt := clock.event
          diagnosticPermit := none
          containmentReceipt := some receipt } clock.event
        [.incidentContained receipt])

def SameScope (candidate previous : IncidentContainmentReceipt) : Prop :=
  candidate.triggerClassification = previous.triggerClassification ∧
    candidate.fixCommit = previous.fixCommit ∧
    candidate.allowedOperationKeys = previous.allowedOperationKeys ∧
    candidate.testEvidencePaths = previous.testEvidencePaths ∧
    candidate.restoreId = previous.restoreId ∧ candidate.owner = previous.owner

instance (candidate previous : IncidentContainmentReceipt) :
    Decidable (SameScope candidate previous) := inferInstanceAs (Decidable (_ ∧ _))

def renewContainment (incidentId : String) (receipt : IncidentContainmentReceipt)
    (authorization : String) (journal : Journal) : JournalCheck Journal := do
  lifted .value (receipt.validate p)
  require (strip authorization ≠ "") (.value "containment_renewal_authorization_missing")
  let newExpiry ← lifted .value (parseTimestamp p receipt.expiresAt "containment_expires_at")
  require (clock.checked < newExpiry ∧ newExpiry ≤ clock.checked + halfHour)
    (.value "containment_renewal_expiry_out_of_bounds")
  let current ← requireCurrent journal incidentId
  require (current.state ≠ .closed) (.transition "Closed incidents cannot renew containment")
  require (current.state = .containedPendingSoak)
    (.transition "Only contained incidents can renew containment")
  match current.containmentReceipt with
  | none =>
      .error (.transition "Contained incident has no current containment receipt")
  | some previous => do
      require (SameScope receipt previous) (.value "containment_renewal_scope_changed")
      pure (journal.record
        { current with updatedAt := clock.event, containmentReceipt := some receipt }
        clock.event [.containmentRenewed authorization previous receipt])

/-- `file` is what reading `authorization_path` gives, when it can be read. -/
def reopenForAttribution (incidentId : String) (authorization : ReopenAuthorization)
    (file : Option ByteArray) (journal : Journal) : JournalCheck Journal := do
  require (authorization.owner = "runtime-db-incident-owner")
    (.value "attribution_reopen_owner_invalid")
  require (authorization.reason = "containment_preceded_attribution_exhaustion")
    (.value "attribution_reopen_reason_invalid")
  require (¬ Blank authorization.authorization ∧ ¬ Blank authorization.authorizationPath)
    (.value "attribution_reopen_authorization_missing")
  require (isHex 64 64 authorization.authorizationSha256.toList)
    (.value "attribution_reopen_authorization_sha256_invalid")
  match file with
  | none => .error (.value "attribution_reopen_authorization_unavailable")
  | some bytes => do
      require (String.ofList (hexText 64 (sha256 bytes).toNat) =
          authorization.authorizationSha256)
        (.value "attribution_reopen_authorization_sha256_mismatch")
      let current ← requireCurrent journal incidentId
      match current.state, current.containmentReceipt with
      | .openUnattributed, none => pure journal
      | .openUnattributed, some _ =>
          .error (.transition "Incident already open with unexpected containment projection")
      | .closed, _ =>
          .error (.transition "Closed incidents cannot be reopened for attribution")
      | .containedPendingSoak, containment => do
          let events ← readEvents journal incidentId
          require (exhaustions events = [])
            (.transition "Attribution exhaustion already recorded")
          match containment with
          | none =>
              .error (.transition "Contained incident has no current containment receipt")
          | some revoked =>
              pure (journal.record
                { current with
                  state := .openUnattributed
                  updatedAt := clock.event
                  evidenceCount := current.evidenceCount + 1
                  containmentReceipt := none } clock.event
                [.containmentReopenedForAttribution authorization revoked])

/-! ### Permits -/

def grantPackInstallPermit (incidentId : String) (receipt : IncidentPackInstallPermitReceipt)
    (journal : Journal) : JournalCheck Journal := do
  lifted .value (receipt.validate p)
  let expiresAt ← lifted .value
    (parseTimestamp p receipt.expiresAt "pack_install_permit_expires_at")
  require (clock.checked < expiresAt) (.value "pack_install_permit_expired")
  let current ← requireCurrent journal incidentId
  require (current.state ≠ .closed)
    (.transition ("Incident " ++ incidentId ++ " is already closed"))
  match current.packInstallPermits.find? fun item => item.permitId == receipt.permitId with
  | some item =>
      if item = receipt then pure journal
      else
        .error (.transition
          ("Permit " ++ receipt.permitId ++ " already has another receipt"))
  | none => do
      let (active, expired) := current.packInstallPermits.partition fun permit =>
        packPermitActive p permit clock.compared
      require (active.length < 16) (.transition "pack_install_permit_limit_exceeded")
      let expiredIds := expired.map fun permit =>
        if permit.permitId = "" then "unknown" else permit.permitId
      pure (journal.record
        { current with
          updatedAt := clock.event
          packInstallPermits := active ++ [receipt] } clock.event
        [.packInstallPermitGranted receipt expiredIds])

def terminalReceipt (receipt : TerminalReceipt) : JournalCheck TerminalReceipt := do
  require (strip receipt.permitId ≠ "") (.value "pack_install_permit_id_required")
  require (strip receipt.terminalInstallId ≠ "")
    (.value "pack_install_terminal_install_id_required")
  require (receipt.terminalStatus ∈ ["succeeded", "failed", "cancelled"])
    (.value "pack_install_terminal_status_invalid")
  require (strip receipt.terminalEvidencePath ≠ "")
    (.value "pack_install_terminal_evidence_path_required")
  pure
    { permitId := strip receipt.permitId
      terminalInstallId := strip receipt.terminalInstallId
      terminalStatus := receipt.terminalStatus
      terminalEvidencePath := strip receipt.terminalEvidencePath }

def revocations (permitId : String) (events : List JournalEvent) : List TerminalReceipt :=
  (events.filterMap fun event => event.kind.revoked?).filter fun receipt =>
    receipt.permitId == permitId

def revokePackInstallPermit (incidentId : String) (call : TerminalReceipt)
    (journal : Journal) : JournalCheck Journal := do
  let expected ← terminalReceipt call
  let current ← requireCurrent journal incidentId
  let retained := current.packInstallPermits.filter fun permit =>
    permit.permitId != expected.permitId
  if retained.length = current.packInstallPermits.length then do
    let events ← readEvents journal incidentId
    match (revocations expected.permitId events).getLast? with
    | some prior =>
        if prior = expected then pure journal
        else
          .error (.transition ("Permit " ++ expected.permitId ++
            " was already revoked with another receipt"))
    | none => .error (.transition ("Permit " ++ expected.permitId ++ " is not active"))
  else
    pure (journal.record
      { current with updatedAt := clock.event, packInstallPermits := retained } clock.event
      [.packInstallPermitRevoked expected])

def grantTargetedMigrationPermit (incidentId : String)
    (receipt : IncidentTargetedMigrationPermitReceipt) (journal : Journal) :
    JournalCheck Journal := do
  lifted .value (receipt.validate p)
  let expiresAt ← lifted .value
    (parseTimestamp p receipt.expiresAt "targeted_migration_permit_expires_at")
  require (clock.checked < expiresAt) (.value "targeted_migration_permit_expired")
  let current ← requireCurrent journal incidentId
  require (current.state ≠ .closed)
    (.transition ("Incident " ++ incidentId ++ " is already closed"))
  match current.targetedMigrationPermits.find? fun item =>
      item.permitId == receipt.permitId with
  | some item =>
      if item = receipt then pure journal
      else
        .error (.transition
          ("Permit " ++ receipt.permitId ++ " already has another receipt"))
  | none => do
      require (current.targetedMigrationPermits.length < 16)
        (.transition "targeted_migration_permit_limit_exceeded")
      pure (journal.record
        { current with
          updatedAt := clock.event
          targetedMigrationPermits := current.targetedMigrationPermits ++ [receipt] }
        clock.event [.targetedMigrationPermitGranted receipt])

/-! ### Closing -/

def finalizeClose (current : IncidentReceipt) (payload : ClosePayload) (journal : Journal) :
    Journal :=
  journal.record
    { current with
      state := .closed
      updatedAt := clock.event
      diagnosticPermit := none
      containmentReceipt := none
      closeReceipt := some payload } clock.event [.incidentClosed payload]

def close (incidentId : String) (receipt : IncidentCloseReceipt) (journal : Journal) :
    JournalCheck Journal := do
  lifted .value (receipt.validate p clock.checked)
  let current ← requireCurrent journal incidentId
  if current.state = .closed then
    if current.closeReceipt = some (.attributable receipt) then pure journal
    else
      .error (.transition
        ("Incident " ++ incidentId ++ " is already closed with another receipt"))
  else do
    let events ← readEvents journal incidentId
    let payload ← lifted .transition (validateAttributableClose p current receipt events)
    pure (finalizeClose clock current payload journal)

def recordAttributionExhaustion (incidentId : String)
    (receipt : IncidentAttributionExhaustionReceipt) (journal : Journal) :
    JournalCheck Journal := do
  lifted .value (receipt.validate p clock.checked)
  require (receipt.incidentId = incidentId)
    (.value "attribution_exhaustion_incident_id_mismatch")
  let current ← requireCurrent journal incidentId
  require (current.state = .openUnattributed)
    (.transition
      ("Incident " ++ incidentId ++ " must remain open for attribution exhaustion"))
  let events ← readEvents journal incidentId
  match exhaustions events with
  | [] =>
      pure (journal.record
        { current with
          updatedAt := clock.event
          evidenceCount := current.evidenceCount + 1 } clock.event
        [.attributionExhaustionRecorded receipt.sha256 receipt])
  | [(_, sha256, existing)] =>
      if sha256 = receipt.sha256 ∧ existing = receipt then pure journal
      else .error (.transition "incident_attribution_exhaustion_already_recorded")
  | _ => .error (.transition "incident_attribution_exhaustion_already_recorded")

def closeResidual (incidentId : String) (receipt : IncidentResidualCloseReceipt)
    (journal : Journal) : JournalCheck Journal := do
  lifted .value (receipt.validate p clock.checked)
  let current ← requireCurrent journal incidentId
  if current.state = .closed then
    if current.closeReceipt = some (.residual receipt) then pure journal
    else
      .error (.transition
        ("Incident " ++ incidentId ++ " is already closed with another receipt"))
  else do
    let events ← readEvents journal incidentId
    let payload ← lifted .transition (validateResidualClose p current receipt events)
    pure (finalizeClose clock current payload journal)

/-! ### Calls -/

inductive Operation where
  | openIncident (failure : Failure)
  | recordDiagnosticPermit (incidentId : String) (permit : IncidentDiagnosticPermit)
  | recordDiagnosticObservation (incidentId permitId observationCode : String)
      (evidence : Dict)
  | revokeDiagnosticPermit (incidentId terminalReason failureCode : String)
  | recordDiagnosticOwnershipHandback (incidentId owner terminalReason : String)
      (remainingResourcesVerified : Bool)
  | markContained (incidentId : String) (receipt : IncidentContainmentReceipt)
  | renewContainment (incidentId : String) (receipt : IncidentContainmentReceipt)
      (authorization : String)
  | reopenForAttribution (incidentId : String) (authorization : ReopenAuthorization)
      (file : Option ByteArray)
  | grantPackInstallPermit (incidentId : String)
      (receipt : IncidentPackInstallPermitReceipt)
  | revokePackInstallPermit (incidentId : String) (call : TerminalReceipt)
  | grantTargetedMigrationPermit (incidentId : String)
      (receipt : IncidentTargetedMigrationPermitReceipt)
  | close (incidentId : String) (receipt : IncidentCloseReceipt)
  | recordAttributionExhaustion (incidentId : String)
      (receipt : IncidentAttributionExhaustionReceipt)
  | closeResidual (incidentId : String) (receipt : IncidentResidualCloseReceipt)

structure Call where
  clock : Clock
  operation : Operation

def perform (call : Call) (journal : Journal) : JournalCheck Journal :=
  match call.operation with
  | .openIncident failure => .ok (openIncident call.clock failure journal)
  | .recordDiagnosticPermit incidentId permit =>
      recordDiagnosticPermit p call.clock incidentId permit journal
  | .recordDiagnosticObservation incidentId permitId observationCode evidence =>
      recordDiagnosticObservation p call.clock incidentId permitId observationCode evidence
        journal
  | .revokeDiagnosticPermit incidentId terminalReason failureCode =>
      revokeDiagnosticPermit call.clock incidentId terminalReason failureCode journal
  | .recordDiagnosticOwnershipHandback incidentId owner terminalReason verified =>
      recordDiagnosticOwnershipHandback call.clock incidentId owner terminalReason verified
        journal
  | .markContained incidentId receipt => markContained p call.clock incidentId receipt journal
  | .renewContainment incidentId receipt authorization =>
      renewContainment p call.clock incidentId receipt authorization journal
  | .reopenForAttribution incidentId authorization file =>
      reopenForAttribution call.clock incidentId authorization file journal
  | .grantPackInstallPermit incidentId receipt =>
      grantPackInstallPermit p call.clock incidentId receipt journal
  | .revokePackInstallPermit incidentId terminal =>
      revokePackInstallPermit call.clock incidentId terminal journal
  | .grantTargetedMigrationPermit incidentId receipt =>
      grantTargetedMigrationPermit p call.clock incidentId receipt journal
  | .close incidentId receipt => close p call.clock incidentId receipt journal
  | .recordAttributionExhaustion incidentId receipt =>
      recordAttributionExhaustion p call.clock incidentId receipt journal
  | .closeResidual incidentId receipt => closeResidual p call.clock incidentId receipt journal

end MindscapeLocalCore.RuntimeDatabaseIncident.Journal
