import MindscapeLocalCore.Library.Trace
import MindscapeLocalCore.RuntimeDatabaseIncident.Journal
/-!
What a call can do to the journal: nothing, open a new incident, or one change of
the current incident with its events.
-/

namespace MindscapeLocalCore.RuntimeDatabaseIncident.Steps

open Library.Guarded Library.Json Library.PythonText Library.Trace Receipts ClosureReceipts Incident
open ClosurePolicy Journal

inductive Change (p : Platform) (clock : Clock) (events : List JournalEvent)
    (current : IncidentReceipt) : Operation → IncidentReceipt → List EventKind → Prop
  | failed {failure} (hstate : current.state ≠ .closed) :
      Change p clock events current (.openIncident failure) (reopened clock current)
        (failureKinds current failure.failureCode ++
          [.failureObserved failure.failureCode failure.evidence])
  | diagnosticRecorded {permit expired} (hstate : current.state = .openUnattributed)
      (hexpired : ∀ kind ∈ expired, ∃ permitId, kind = .diagnosticPermitExpired permitId) :
      Change p clock events current (.recordDiagnosticPermit current.incidentId permit)
        { current with updatedAt := clock.event, diagnosticPermit := some permit }
        (expired ++ [.diagnosticPermitRecorded permit])
  | observed {permitId exactPermitId observationCode evidence diagnostic}
      (hdiagnostic : current.diagnosticPermit = some diagnostic) :
      Change p clock events current
        (.recordDiagnosticObservation current.incidentId permitId observationCode evidence)
        { current with
          updatedAt := clock.event
          evidenceCount := current.evidenceCount + 1 }
        [.diagnosticObservationRecorded exactPermitId observationCode evidence]
  | diagnosticConsumed {terminalReason failureCode permitId reason diagnostic}
      (hdiagnostic : current.diagnosticPermit = some diagnostic) :
      Change p clock events current
        (.revokeDiagnosticPermit current.incidentId terminalReason failureCode)
        { current with updatedAt := clock.event, diagnosticPermit := none }
        [.diagnosticPermitConsumedTerminal permitId reason]
  | diagnosticFailed {terminalReason failureCode permitId reason failure diagnostic}
      (hdiagnostic : current.diagnosticPermit = some diagnostic) :
      Change p clock events current
        (.revokeDiagnosticPermit current.incidentId terminalReason failureCode)
        { current with
          updatedAt := clock.event
          evidenceCount := current.evidenceCount + 1
          diagnosticPermit := none
          containmentReceipt := none }
        [.diagnosticPermitRevokedByFailure permitId (some reason) failure]
  | handedBack {owner terminalReason verified ownerBefore ownerAfter reason} :
      Change p clock events current
        (.recordDiagnosticOwnershipHandback current.incidentId owner terminalReason verified)
        current [.diagnosticObserverOwnershipHandedBack ownerBefore ownerAfter reason]
  | contained {receipt} (hstate : current.state = .openUnattributed) :
      Change p clock events current (.markContained current.incidentId receipt)
        { current with
          state := .containedPendingSoak
          updatedAt := clock.event
          diagnosticPermit := none
          containmentReceipt := some receipt }
        [.incidentContained receipt]
  | renewed {receipt authorization previous}
      (hstate : current.state = .containedPendingSoak)
      (hprevious : current.containmentReceipt = some previous)
      (hscope : SameScope receipt previous) :
      Change p clock events current
        (.renewContainment current.incidentId receipt authorization)
        { current with updatedAt := clock.event, containmentReceipt := some receipt }
        [.containmentRenewed authorization previous receipt]
  | reopened {authorization file revoked} (hstate : current.state = .containedPendingSoak)
      (hrevoked : current.containmentReceipt = some revoked)
      (hnone : exhaustions events = []) :
      Change p clock events current
        (.reopenForAttribution current.incidentId authorization file)
        { current with
          state := .openUnattributed
          updatedAt := clock.event
          evidenceCount := current.evidenceCount + 1
          containmentReceipt := none }
        [.containmentReopenedForAttribution authorization revoked]
  | packInstallGranted {receipt active expiredIds} (hstate : current.state ≠ .closed)
      (hactive : active ⊆ current.packInstallPermits) :
      Change p clock events current (.grantPackInstallPermit current.incidentId receipt)
        { current with
          updatedAt := clock.event
          packInstallPermits := active ++ [receipt] }
        [.packInstallPermitGranted receipt expiredIds]
  | packInstallRevoked {call terminal}
      (hactive : ∃ permit ∈ current.packInstallPermits, permit.permitId = terminal.permitId) :
      Change p clock events current (.revokePackInstallPermit current.incidentId call)
        { current with
          updatedAt := clock.event
          packInstallPermits := current.packInstallPermits.filter fun permit =>
            permit.permitId != terminal.permitId }
        [.packInstallPermitRevoked terminal]
  | targetedMigrationGranted {receipt} (hstate : current.state ≠ .closed) :
      Change p clock events current
        (.grantTargetedMigrationPermit current.incidentId receipt)
        { current with
          updatedAt := clock.event
          targetedMigrationPermits := current.targetedMigrationPermits ++ [receipt] }
        [.targetedMigrationPermitGranted receipt]
  | closed {receipt} (hstate : current.state ≠ .closed)
      (hpolicy : validateAttributableClose p current receipt events =
        .ok (.attributable receipt)) :
      Change p clock events current (.close current.incidentId receipt)
        { current with
          state := .closed
          updatedAt := clock.event
          diagnosticPermit := none
          containmentReceipt := none
          closeReceipt := some (.attributable receipt) }
        [.incidentClosed (.attributable receipt)]
  | exhausted {receipt} (hstate : current.state = .openUnattributed)
      (hnone : exhaustions events = []) :
      Change p clock events current
        (.recordAttributionExhaustion current.incidentId receipt)
        { current with
          updatedAt := clock.event
          evidenceCount := current.evidenceCount + 1 }
        [.attributionExhaustionRecorded receipt.sha256 receipt]
  | closedResidual {receipt} (hstate : current.state ≠ .closed)
      (hpolicy : validateResidualClose p current receipt events = .ok (.residual receipt)) :
      Change p clock events current (.closeResidual current.incidentId receipt)
        { current with
          state := .closed
          updatedAt := clock.event
          diagnosticPermit := none
          containmentReceipt := none
          closeReceipt := some (.residual receipt) }
        [.incidentClosed (.residual receipt)]

inductive Performed (p : Platform) (journal : Journal) (call : Call) : Journal → Prop
  | unchanged : Performed p journal call journal
  | opened {failure} (hoperation : call.operation = .openIncident failure)
      (hclosed : ∀ current, journal.current = some current → current.state = .closed) :
      Performed p journal call (openNew call.clock failure journal)
  | changed {current updated kinds} (hcurrent : journal.current = some current)
      (hchange : Change p call.clock (journal.file current.incidentId) current
        call.operation updated kinds) :
      Performed p journal call (journal.record updated call.clock.event kinds)

variable {p : Platform} {clock : Clock} {journal journal' : Journal}

theorem requireCurrent_eq_ok {incidentId : String} {current : IncidentReceipt}
    (h : requireCurrent journal incidentId = .ok current) :
    journal.current = some current ∧ incidentId = current.incidentId := by
  unfold requireCurrent at h
  split at h
  · rename_i found hfound
    split at h
    · rename_i hid
      obtain rfl := Except.ok.inj h
      exact ⟨hfound, hid.symm⟩
    · exact absurd h (by rintro ⟨⟩)
  · exact absurd h (by rintro ⟨⟩)

theorem readEvents_eq_ok {incidentId : String} {events : List JournalEvent}
    (h : readEvents journal incidentId = .ok events) : events = journal.file incidentId := by
  unfold readEvents at h
  split at h
  · exact absurd h (by rintro ⟨⟩)
  · exact (Except.ok.inj h).symm

theorem forall_failureKinds {holds : EventKind → Prop} {current : IncidentReceipt}
    {failureCode : String}
    (hcontainment : ∀ permitId, holds (.containmentRevokedByFailure permitId failureCode))
    (hpreserved : ∀ permitId,
      holds (.diagnosticPermitPreservedForAttributionCapture permitId failureCode))
    (hdiagnostic : ∀ permitId,
      holds (.diagnosticPermitRevokedByFailure permitId none failureCode)) :
    ∀ kind ∈ failureKinds current failureCode, holds kind := by
  intro kind hmem
  unfold failureKinds at hmem
  split at hmem
  · rw [List.mem_singleton.mp hmem]
    exact hcontainment _
  · split at hmem
    · rw [List.mem_singleton.mp hmem]
      exact hpreserved _
    · rw [List.mem_singleton.mp hmem]
      exact hdiagnostic _
  · exact absurd hmem List.not_mem_nil

theorem incidentId_of_change {events : List JournalEvent} {current updated : IncidentReceipt}
    {operation : Operation} {kinds : List EventKind}
    (h : Change p clock events current operation updated kinds) :
    updated.incidentId = current.incidentId := by
  cases h <;> rfl

section Operations

variable {call : Call}

theorem performed_openIncident {failure : Failure}
    (hoperation : call.operation = .openIncident failure) :
    Performed p journal call (openIncident call.clock failure journal) := by
  unfold openIncident
  cases hcurrent : journal.current with
  | none =>
      refine .opened hoperation fun current hsome => ?_
      rw [hcurrent] at hsome
      exact absurd hsome.symm (Option.some_ne_none _)
  | some current =>
      by_cases hclosed : current.state = .closed
      · simp only [hclosed, if_true]
        refine .opened hoperation fun other hsome => ?_
        rw [hcurrent] at hsome
        obtain rfl := Option.some.inj hsome
        exact hclosed
      · simp only [hclosed, if_false]
        refine .changed hcurrent ?_
        rw [hoperation]
        exact .failed hclosed

theorem performed_recordDiagnosticPermit {incidentId : String}
    {permit : IncidentDiagnosticPermit}
    (hoperation : call.operation = .recordDiagnosticPermit incidentId permit)
    (h : recordDiagnosticPermit p call.clock incidentId permit journal = .ok journal') :
    Performed p journal call journal' := by
  simp only [recordDiagnosticPermit, bind_eq_ok, exists_unit, require_eq_ok] at h
  obtain ⟨-, current, hread, hstate, h⟩ := h
  obtain ⟨hcurrent, rfl⟩ := requireCurrent_eq_ok hread
  split at h
  · obtain rfl := Except.ok.inj h
    refine .changed hcurrent ?_
    rw [hoperation]
    exact @Change.diagnosticRecorded p _ _ _ _ [] hstate (by simp)
  · rename_i existing _
    split at h
    · obtain rfl := Except.ok.inj h
      exact .unchanged
    · simp only [bind_eq_ok, exists_unit, require_eq_ok] at h
      obtain ⟨-, -, -, h⟩ := h
      obtain rfl := Except.ok.inj h
      refine .changed hcurrent ?_
      rw [hoperation]
      exact @Change.diagnosticRecorded p _ _ _ _
        [.diagnosticPermitExpired existing.permitId] hstate (by simp)

theorem performed_recordDiagnosticObservation
    {incidentId permitId observationCode : String} {evidence : Dict}
    (hoperation : call.operation =
      .recordDiagnosticObservation incidentId permitId observationCode evidence)
    (h : recordDiagnosticObservation p call.clock incidentId permitId observationCode evidence
      journal = .ok journal') :
    Performed p journal call journal' := by
  simp only [recordDiagnosticObservation, bind_eq_ok, exists_unit, require_eq_ok] at h
  obtain ⟨-, -, current, hread, h⟩ := h
  obtain ⟨hcurrent, rfl⟩ := requireCurrent_eq_ok hread
  split at h
  · exact absurd h (by rintro ⟨⟩)
  · rename_i hdiagnostic
    simp only [bind_eq_ok, exists_unit, require_eq_ok] at h
    obtain ⟨-, -, h⟩ := h
    obtain rfl := Except.ok.inj h
    refine .changed hcurrent ?_
    rw [hoperation]
    exact .observed hdiagnostic

theorem performed_revokeDiagnosticPermit {incidentId terminalReason failureCode : String}
    (hoperation : call.operation =
      .revokeDiagnosticPermit incidentId terminalReason failureCode)
    (h : revokeDiagnosticPermit call.clock incidentId terminalReason failureCode journal =
      .ok journal') :
    Performed p journal call journal' := by
  simp only [revokeDiagnosticPermit, bind_eq_ok, exists_unit, require_eq_ok] at h
  obtain ⟨-, current, hread, h⟩ := h
  obtain ⟨hcurrent, rfl⟩ := requireCurrent_eq_ok hread
  split at h
  · exact absurd h (by rintro ⟨⟩)
  · rename_i hdiagnostic
    split at h
    · obtain rfl := Except.ok.inj h
      refine .changed hcurrent ?_
      rw [hoperation]
      exact .diagnosticConsumed hdiagnostic
    · obtain rfl := Except.ok.inj h
      refine .changed hcurrent ?_
      rw [hoperation]
      exact .diagnosticFailed hdiagnostic

theorem performed_handback {incidentId owner terminalReason : String} {verified : Bool}
    (hoperation : call.operation =
      .recordDiagnosticOwnershipHandback incidentId owner terminalReason verified)
    (h : recordDiagnosticOwnershipHandback call.clock incidentId owner terminalReason verified
      journal = .ok journal') :
    Performed p journal call journal' := by
  simp only [recordDiagnosticOwnershipHandback, bind_eq_ok, exists_unit, require_eq_ok] at h
  obtain ⟨-, -, -, current, hread, -, h⟩ := h
  obtain ⟨hcurrent, rfl⟩ := requireCurrent_eq_ok hread
  obtain rfl := Except.ok.inj h
  have hsame : ∀ kinds, journal.append current.incidentId call.clock.event kinds =
      journal.record current call.clock.event kinds := by
    intro kinds
    simp [Journal.record, Journal.append, hcurrent]
  rw [hsame]
  refine .changed hcurrent ?_
  rw [hoperation]
  exact .handedBack

theorem performed_markContained {incidentId : String} {receipt : IncidentContainmentReceipt}
    (hoperation : call.operation = .markContained incidentId receipt)
    (h : markContained p call.clock incidentId receipt journal = .ok journal') :
    Performed p journal call journal' := by
  simp only [markContained, bind_eq_ok, exists_unit, require_eq_ok] at h
  obtain ⟨-, -, -, -, current, hread, h⟩ := h
  obtain ⟨hcurrent, rfl⟩ := requireCurrent_eq_ok hread
  split at h
  · split at h
    · obtain rfl := Except.ok.inj h
      exact .unchanged
    · exact absurd h (by rintro ⟨⟩)
  · exact absurd h (by rintro ⟨⟩)
  · rename_i hstate
    obtain rfl := Except.ok.inj h
    refine .changed hcurrent ?_
    rw [hoperation]
    exact .contained hstate

theorem performed_renewContainment {incidentId authorization : String}
    {receipt : IncidentContainmentReceipt}
    (hoperation : call.operation = .renewContainment incidentId receipt authorization)
    (h : renewContainment p call.clock incidentId receipt authorization journal =
      .ok journal') :
    Performed p journal call journal' := by
  simp only [renewContainment, bind_eq_ok, exists_unit, require_eq_ok] at h
  obtain ⟨-, -, -, -, -, current, hread, -, hstate, h⟩ := h
  obtain ⟨hcurrent, rfl⟩ := requireCurrent_eq_ok hread
  split at h
  · exact absurd h (by rintro ⟨⟩)
  · rename_i hprevious
    simp only [bind_eq_ok, exists_unit, require_eq_ok] at h
    obtain ⟨hscope, h⟩ := h
    obtain rfl := Except.ok.inj h
    refine .changed hcurrent ?_
    rw [hoperation]
    exact .renewed hstate hprevious hscope

theorem performed_reopenForAttribution {incidentId : String}
    {authorization : ReopenAuthorization} {file : Option ByteArray}
    (hoperation : call.operation = .reopenForAttribution incidentId authorization file)
    (h : reopenForAttribution call.clock incidentId authorization file journal =
      .ok journal') :
    Performed p journal call journal' := by
  simp only [reopenForAttribution, bind_eq_ok, exists_unit, require_eq_ok] at h
  obtain ⟨-, -, -, -, h⟩ := h
  split at h
  · exact absurd h (by rintro ⟨⟩)
  · simp only [bind_eq_ok, exists_unit, require_eq_ok] at h
    obtain ⟨-, current, hread, h⟩ := h
    obtain ⟨hcurrent, rfl⟩ := requireCurrent_eq_ok hread
    split at h
    · obtain rfl := Except.ok.inj h
      exact .unchanged
    · exact absurd h (by rintro ⟨⟩)
    · exact absurd h (by rintro ⟨⟩)
    · rename_i hstate
      simp only [bind_eq_ok, exists_unit, require_eq_ok] at h
      obtain ⟨events, hevents, hnone, h⟩ := h
      rw [readEvents_eq_ok hevents] at hnone
      split at h
      · exact absurd h (by rintro ⟨⟩)
      · rename_i hrevoked
        obtain rfl := Except.ok.inj h
        refine .changed hcurrent ?_
        rw [hoperation]
        exact .reopened hstate hrevoked hnone

theorem performed_grantPackInstallPermit {incidentId : String}
    {receipt : IncidentPackInstallPermitReceipt}
    (hoperation : call.operation = .grantPackInstallPermit incidentId receipt)
    (h : grantPackInstallPermit p call.clock incidentId receipt journal = .ok journal') :
    Performed p journal call journal' := by
  simp only [grantPackInstallPermit, bind_eq_ok, exists_unit, require_eq_ok] at h
  obtain ⟨-, -, -, -, current, hread, hstate, h⟩ := h
  obtain ⟨hcurrent, rfl⟩ := requireCurrent_eq_ok hread
  split at h
  · split at h
    · obtain rfl := Except.ok.inj h
      exact .unchanged
    · exact absurd h (by rintro ⟨⟩)
  · simp only [bind_eq_ok, exists_unit, require_eq_ok, List.partition_eq_filter_filter] at h
    obtain ⟨-, h⟩ := h
    obtain rfl := Except.ok.inj h
    refine .changed hcurrent ?_
    rw [hoperation]
    exact .packInstallGranted hstate fun _ hmem => List.mem_of_mem_filter hmem

theorem performed_revokePackInstallPermit {incidentId : String} {terminal : TerminalReceipt}
    (hoperation : call.operation = .revokePackInstallPermit incidentId terminal)
    (h : revokePackInstallPermit call.clock incidentId terminal journal = .ok journal') :
    Performed p journal call journal' := by
  simp only [revokePackInstallPermit, bind_eq_ok] at h
  obtain ⟨expected, -, current, hread, h⟩ := h
  obtain ⟨hcurrent, rfl⟩ := requireCurrent_eq_ok hread
  split at h
  · simp only [bind_eq_ok] at h
    obtain ⟨events, -, h⟩ := h
    split at h
    · split at h
      · obtain rfl := Except.ok.inj h
        exact .unchanged
      · exact absurd h (by rintro ⟨⟩)
    · exact absurd h (by rintro ⟨⟩)
  · rename_i hlength
    obtain rfl := Except.ok.inj h
    refine .changed hcurrent ?_
    rw [hoperation]
    refine .packInstallRevoked ?_
    by_contra hnone
    push Not at hnone
    apply hlength
    rw [List.filter_eq_self.mpr]
    intro permit hmem
    simpa using hnone permit hmem

theorem performed_grantTargetedMigrationPermit {incidentId : String}
    {receipt : IncidentTargetedMigrationPermitReceipt}
    (hoperation : call.operation = .grantTargetedMigrationPermit incidentId receipt)
    (h : grantTargetedMigrationPermit p call.clock incidentId receipt journal =
      .ok journal') :
    Performed p journal call journal' := by
  simp only [grantTargetedMigrationPermit, bind_eq_ok, exists_unit, require_eq_ok] at h
  obtain ⟨-, -, -, -, current, hread, hstate, h⟩ := h
  obtain ⟨hcurrent, rfl⟩ := requireCurrent_eq_ok hread
  split at h
  · split at h
    · obtain rfl := Except.ok.inj h
      exact .unchanged
    · exact absurd h (by rintro ⟨⟩)
  · simp only [bind_eq_ok, exists_unit, require_eq_ok] at h
    obtain ⟨-, h⟩ := h
    obtain rfl := Except.ok.inj h
    refine .changed hcurrent ?_
    rw [hoperation]
    exact .targetedMigrationGranted hstate

theorem payload_of_attributable {current : IncidentReceipt} {receipt : IncidentCloseReceipt}
    {events : List JournalEvent} {payload : ClosePayload}
    (h : validateAttributableClose p current receipt events = .ok payload) :
    payload = .attributable receipt := by
  simp only [validateAttributableClose, bind_eq_ok, exists_unit, require_eq_ok] at h
  obtain ⟨-, -, -, h⟩ := h
  exact (Except.ok.inj h).symm

theorem payload_of_residual {current : IncidentReceipt}
    {receipt : IncidentResidualCloseReceipt} {events : List JournalEvent}
    {payload : ClosePayload}
    (h : validateResidualClose p current receipt events = .ok payload) :
    payload = .residual receipt := by
  simp only [validateResidualClose, bind_eq_ok] at h
  obtain ⟨contained, -, h⟩ := h
  split at h
  · simp only [bind_eq_ok, exists_unit, require_eq_ok] at h
    obtain ⟨-, -, h⟩ := h
    exact (Except.ok.inj h).symm
  · exact absurd h (by rintro ⟨⟩)

theorem performed_close {incidentId : String} {receipt : IncidentCloseReceipt}
    (hoperation : call.operation = .close incidentId receipt)
    (h : close p call.clock incidentId receipt journal = .ok journal') :
    Performed p journal call journal' := by
  simp only [close, bind_eq_ok, exists_unit] at h
  obtain ⟨-, current, hread, h⟩ := h
  obtain ⟨hcurrent, rfl⟩ := requireCurrent_eq_ok hread
  split at h
  · split at h
    · obtain rfl := Except.ok.inj h
      exact .unchanged
    · exact absurd h (by rintro ⟨⟩)
  · rename_i hstate
    simp only [bind_eq_ok, lifted_eq_ok] at h
    obtain ⟨events, hevents, payload, hpolicy, h⟩ := h
    obtain rfl := readEvents_eq_ok hevents
    obtain rfl := Except.ok.inj h
    obtain rfl := payload_of_attributable hpolicy
    refine .changed hcurrent ?_
    rw [hoperation]
    exact .closed hstate hpolicy

theorem performed_recordAttributionExhaustion {incidentId : String}
    {receipt : IncidentAttributionExhaustionReceipt}
    (hoperation : call.operation = .recordAttributionExhaustion incidentId receipt)
    (h : recordAttributionExhaustion p call.clock incidentId receipt journal = .ok journal') :
    Performed p journal call journal' := by
  simp only [recordAttributionExhaustion, bind_eq_ok, exists_unit, require_eq_ok] at h
  obtain ⟨-, -, current, hread, hstate, events, hevents, h⟩ := h
  obtain ⟨hcurrent, rfl⟩ := requireCurrent_eq_ok hread
  obtain rfl := readEvents_eq_ok hevents
  split at h
  · rename_i hnone
    obtain rfl := Except.ok.inj h
    refine .changed hcurrent ?_
    rw [hoperation]
    exact .exhausted hstate hnone
  · split at h
    · obtain rfl := Except.ok.inj h
      exact .unchanged
    · exact absurd h (by rintro ⟨⟩)
  · exact absurd h (by rintro ⟨⟩)

theorem performed_closeResidual {incidentId : String} {receipt : IncidentResidualCloseReceipt}
    (hoperation : call.operation = .closeResidual incidentId receipt)
    (h : closeResidual p call.clock incidentId receipt journal = .ok journal') :
    Performed p journal call journal' := by
  simp only [closeResidual, bind_eq_ok, exists_unit] at h
  obtain ⟨-, current, hread, h⟩ := h
  obtain ⟨hcurrent, rfl⟩ := requireCurrent_eq_ok hread
  split at h
  · split at h
    · obtain rfl := Except.ok.inj h
      exact .unchanged
    · exact absurd h (by rintro ⟨⟩)
  · rename_i hstate
    simp only [bind_eq_ok, lifted_eq_ok] at h
    obtain ⟨events, hevents, payload, hpolicy, h⟩ := h
    obtain rfl := readEvents_eq_ok hevents
    obtain rfl := Except.ok.inj h
    obtain rfl := payload_of_residual hpolicy
    refine .changed hcurrent ?_
    rw [hoperation]
    exact .closedResidual hstate hpolicy

theorem performed_of_perform (h : perform p call journal = .ok journal') :
    Performed p journal call journal' := by
  unfold perform at h
  split at h <;> rename_i hoperation
  · obtain rfl := Except.ok.inj h
    exact performed_openIncident hoperation
  · exact performed_recordDiagnosticPermit hoperation h
  · exact performed_recordDiagnosticObservation hoperation h
  · exact performed_revokeDiagnosticPermit hoperation h
  · exact performed_handback hoperation h
  · exact performed_markContained hoperation h
  · exact performed_renewContainment hoperation h
  · exact performed_reopenForAttribution hoperation h
  · exact performed_grantPackInstallPermit hoperation h
  · exact performed_revokePackInstallPermit hoperation h
  · exact performed_grantTargetedMigrationPermit hoperation h
  · exact performed_close hoperation h
  · exact performed_recordAttributionExhaustion hoperation h
  · exact performed_closeResidual hoperation h

end Operations

theorem file_grows {call : Call} (h : Performed p journal call journal')
    (incidentId : String) : journal.file incidentId <+: journal'.file incidentId := by
  have hrecord : ∀ (updated : IncidentReceipt) (recordedAt : ℤ) (kinds : List EventKind),
      journal.file incidentId <+: (journal.record updated recordedAt kinds).file incidentId := by
    intro updated recordedAt kinds
    change _ <+: (journal.record updated recordedAt kinds).events (incidentPath incidentId)
    rw [events_record]
    split
    · exact List.prefix_append _ _
    · exact List.prefix_rfl
  cases h with
  | unchanged => exact List.prefix_rfl
  | opened => exact hrecord _ _ _
  | changed => exact hrecord _ _ _

/-! ### Runs -/

/-- The journal after a call. A call that raises has written nothing. -/
def next (p : Platform) (journal : Journal) (call : Call) : Journal :=
  match perform p call journal with
  | .ok journal' => journal'
  | .error _ => journal

theorem performed_next (call : Call) : Performed p journal call (next p journal call) := by
  unfold next
  split
  · rename_i hperform
    exact performed_of_perform hperform
  · exact .unchanged

def journalAfter (p : Platform) (calls : List Call) : Journal :=
  stateAfter (next p) .empty calls

def EachCall (p : Platform) (condition : Journal → Call → Prop) (calls : List Call) : Prop :=
  Along (next p) condition .empty calls

theorem holds_after {condition : Journal → Call → Prop} {holds : Journal → Prop}
    {calls : List Call} (hempty : holds .empty)
    (hstep : ∀ journal call journal', holds journal → condition journal call →
      Performed p journal call journal' → holds journal')
    (h : EachCall p condition calls) : holds (journalAfter p calls) :=
  invariant_of_along hempty
    (fun journal call hholds hcondition =>
      hstep journal call _ hholds hcondition (performed_next call)) h

theorem file_grows_after {before after : List Call} (incidentId : String) :
    (journalAfter p before).file incidentId <+:
      (journalAfter p (before ++ after)).file incidentId := by
  induction after using List.reverseRecOn with
  | nil => simp
  | append_singleton after call ih =>
      unfold journalAfter at ih ⊢
      rw [← List.append_assoc, stateAfter_append_singleton]
      exact ih.trans (file_grows (performed_next call) incidentId)

theorem next_of_perform {call : Call} (h : perform p call journal = .ok journal') :
    next p journal call = journal' := by
  unfold next
  rw [h]

theorem requireCurrent_of {incidentId : String} {current : IncidentReceipt}
    (hcurrent : journal.current = some current) (hincident : current.incidentId = incidentId) :
    requireCurrent journal incidentId = .ok current := by
  unfold requireCurrent
  rw [hcurrent]
  exact if_pos hincident

theorem grantPackInstallPermit_eq_ok {incidentId : String}
    {receipt : IncidentPackInstallPermitReceipt} {current : IncidentReceipt} {instant : ℤ}
    (hvalid : receipt.validate p = .ok ())
    (hparse : parseTimestamp p receipt.expiresAt "pack_install_permit_expires_at" =
      .ok instant)
    (hahead : clock.checked < instant) (hcurrent : journal.current = some current)
    (hincident : current.incidentId = incidentId) (hopen : current.state ≠ .closed)
    (hnew : current.packInstallPermits.find? (fun item => item.permitId == receipt.permitId) =
      none)
    (hactive : ∀ permit ∈ current.packInstallPermits,
      packPermitActive p permit clock.compared = true)
    (hroom : current.packInstallPermits.length < 16) :
    grantPackInstallPermit p clock incidentId receipt journal =
      .ok (journal.record
        { current with
          updatedAt := clock.event
          packInstallPermits := current.packInstallPermits ++ [receipt] } clock.event
        [.packInstallPermitGranted receipt []]) := by
  have hpartition : current.packInstallPermits.partition (fun permit =>
      packPermitActive p permit clock.compared) = (current.packInstallPermits, []) := by
    rw [List.partition_eq_filter_filter, List.filter_eq_self.mpr hactive,
      List.filter_eq_nil_iff.mpr fun permit hmem => by simp [hactive permit hmem]]
  simp only [grantPackInstallPermit, bind_eq_ok, exists_unit, lifted_eq_ok]
  refine ⟨hvalid, instant, hparse, require_of hahead, current,
    requireCurrent_of hcurrent hincident, require_of hopen, ?_⟩
  rw [hnew, hpartition]
  simp only [bind_eq_ok, exists_unit]
  exact ⟨require_of hroom, rfl⟩

/-! ### A small run -/

def minute (count : ℤ) : ℤ := (1785110400 + 60 * count) * 1000000

def plain : Platform where
  lower text := text
  int text := if text = "1" then some 1 else none
  fromisoformat text :=
    [("2026-07-27T00:10:00+00:00", Parsed.aware (minute 10)),
      ("2026-07-27T00:20:00+00:00", Parsed.aware (minute 20)),
      ("2026-07-27T00:30:00+00:00", Parsed.aware (minute 30)),
      ("2026-07-27T00:40:00+00:00", Parsed.aware (minute 40))].lookup text

def readings (count : ℤ) : Clock where
  checked := minute count
  compared := minute count
  event := minute count

def callAt (count : ℤ) (operation : Operation) : Call where
  clock := readings count
  operation

def digest : String := "aaaaaaaaaaaaaaaaaaaaaaaaaaaaaaaaaaaaaaaaaaaaaaaaaaaaaaaaaaaaaaaa"

def outage : Failure where
  failureCode := "db_down"
  postmasterStartTime := "start"
  failureAt := "2026-07-27T00:00:00Z"
  evidence := []

def opened : IncidentReceipt := openedReceipt (readings 0) outage

def openedJournal : Journal := openNew (readings 0) outage .empty

def packPermit (permitId expiresAt : String) : IncidentPackInstallPermitReceipt where
  permitId
  capabilityCode := "pack"
  currentVersion := "1"
  candidateVersion := "2"
  artifactSha256 := digest
  allowedOperationKeys := packInstallKeys digest
  preflightEvidencePaths := ["preflight.json"]
  migrationRevisions := ["r"]
  migrationFilesDigest := digest
  schemaMutationRequired := false
  backoutInstallId := "backout"
  backoutArtifactSha256 := digest
  expiresAt
  owner := "owner"
  ownerAuthorization := "authorization"

def grantAt (count : ℤ) (permit : IncidentPackInstallPermitReceipt) : Call :=
  callAt count (.grantPackInstallPermit opened.incidentId permit)

theorem strip_digest : strip digest = digest := by decide

theorem digest_valid (fieldName : String) :
    validateSha256 plain digest fieldName = .ok () := by
  apply require_of
  change isHex 64 64 (strip digest).toList = true
  rw [strip_digest]
  decide

theorem packPermit_complete {permitId expiresAt : String} (hid : ¬ Blank permitId)
    (hexpires : ¬ Blank expiresAt) :
    requiredText
          [("permit_id", permitId), ("capability_code", "pack"), ("current_version", "1"),
            ("candidate_version", "2"), ("artifact_sha256", digest),
            ("migration_files_digest", digest), ("backout_install_id", "backout"),
            ("backout_artifact_sha256", digest), ("expires_at", expiresAt),
            ("owner", "owner"), ("owner_authorization", "authorization")] ++
        requiredEntries "preflight_evidence_paths" ["preflight.json"] ++
        (if ∃ revision ∈ ["r"], Blank revision then ["migration_revisions"] else []) = [] := by
  have hdigest : ¬ Blank digest := by decide
  have htexts : ∀ text ∈ ["pack", "1", "2", "backout", "owner", "authorization",
      "preflight.json", "r"], ¬ Blank text := by decide
  simp only [List.mem_cons, List.not_mem_nil, or_false, forall_eq_or_imp, forall_eq] at htexts
  simp [requiredText, requiredEntries, hid, hexpires, hdigest, htexts]

theorem packPermit_valid {permitId expiresAt : String} {instant : ℤ} (hid : ¬ Blank permitId)
    (hexpires : ¬ Blank expiresAt)
    (hparse : parseTimestamp plain expiresAt "pack_install_permit_expires_at" =
      .ok instant) :
    (packPermit permitId expiresAt).validate plain = .ok () := by
  have hstrip : plain.lower (strip digest) = digest := strip_digest
  simp only [IncidentPackInstallPermitReceipt.validate, packPermit, bind_eq_ok, exists_unit,
    hstrip]
  exact ⟨requireFields_of (packPermit_complete hid hexpires), rfl, digest_valid _,
    digest_valid _, require_of fun h => absurd h (List.cons_ne_nil _ _), digest_valid _,
    require_of ⟨List.Subset.refl _, List.Subset.refl _⟩, require_of trivial, instant, hparse,
    rfl⟩

theorem next_opened : next plain .empty (callAt 0 (.openIncident outage)) = openedJournal :=
  (rfl)

end MindscapeLocalCore.RuntimeDatabaseIncident.Steps
