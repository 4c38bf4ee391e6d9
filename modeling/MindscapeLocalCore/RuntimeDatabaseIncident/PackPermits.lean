import MindscapeLocalCore.RuntimeDatabaseIncident.Evaluator
/-!
Pack-install permits and their terminal receipts. The revocations of an incident are
in its file; a grant compares its permit with the current snapshot only.
-/

namespace MindscapeLocalCore.RuntimeDatabaseIncident.PackPermits

open Library.Json Library.Trace Receipts Incident Journal Steps Evaluator

variable {p : Platform} {clock : Clock} {journal journal' : Journal}
  {current updated : IncidentReceipt} {operation : Operation} {kinds : List EventKind}
  {events : List JournalEvent} {permitId : String}

/-! ### The gate -/

theorem reason_diagnostic {name key : String} {now : ℤ} {decision : MutationDecision}
    (h : diagnosticDecision p current name key now = some decision) :
    decision.reason ≠ "owner_authorized_pack_install_permit" := by
  unfold diagnosticDecision at h
  split at h
  · obtain ⟨permit, -, h⟩ := Option.bind_eq_some_iff.mp h
    split at h
    · split at h
      · obtain rfl := Option.some.inj h
        simp [allow]
      · obtain rfl := Option.some.inj h
        simp [block]
    · exact absurd h.symm (Option.some_ne_none _)
  · exact absurd h.symm (Option.some_ne_none _)

theorem reason_targetedMigration {name key : String} {now : ℤ} {decision : MutationDecision}
    (h : targetedMigrationDecision p current name key now = some decision) :
    decision.reason ≠ "owner_authorized_pack_install_permit" := by
  obtain ⟨permit, -, rfl⟩ := Option.map_eq_some_iff.mp h
  split <;> simp [allow, block]

theorem reason_containment {name key : String} {now : ℤ} {decision : MutationDecision}
    (h : containmentDecision p current name key now = some decision) :
    decision.reason ≠ "owner_authorized_pack_install_permit" := by
  unfold containmentDecision at h
  split at h
  · split at h
    · simp only at h
      split at h
      · obtain rfl := Option.some.inj h
        simp [allow]
      · obtain rfl := Option.some.inj h
        simp only [block]
        split <;> simp
    · obtain rfl := Option.some.inj h
      simp [block]
  · exact absurd h.symm (Option.some_ne_none _)

theorem permit_of_packInstall {name key : String} {now : ℤ} {decision : MutationDecision}
    (h : packInstallDecision p current name key now = some decision) :
    ∃ permit ∈ current.packInstallPermits,
      decision.details.lookup "permit_id" = some (.str permit.permitId) := by
  obtain ⟨permit, hpermit, rfl⟩ := Option.map_eq_some_iff.mp h
  refine ⟨permit, List.mem_reverse.mp (List.mem_of_find?_eq_some hpermit), ?_⟩
  split <;> rfl

theorem permit_of_decision {name key : String} {now : ℤ}
    (h : (incidentDecision p current name key now).reason =
      "owner_authorized_pack_install_permit") :
    ∃ permit ∈ current.packInstallPermits,
      (incidentDecision p current name key now).details.lookup "permit_id" =
        some (.str permit.permitId) := by
  unfold incidentDecision at h ⊢
  cases hdiagnostic : diagnosticDecision p current name key now with
  | some decision =>
      rw [hdiagnostic] at h
      exact absurd h (reason_diagnostic hdiagnostic)
  | none =>
      cases hpack : packInstallDecision p current name key now with
      | some decision => exact permit_of_packInstall hpack
      | none =>
          rw [hdiagnostic, hpack] at h
          cases hmigration : targetedMigrationDecision p current name key now with
          | some decision =>
              rw [hmigration] at h
              exact absurd h (reason_targetedMigration hmigration)
          | none =>
              rw [hmigration] at h
              cases hcontainment : containmentDecision p current name key now with
              | some decision =>
                  rw [hcontainment] at h
                  exact absurd h (reason_containment hcontainment)
              | none =>
                  rw [hcontainment] at h
                  exact absurd h (by simp [block])

/-! ### Revocations -/

theorem revocations_append (left right : List JournalEvent) :
    revocations permitId (left ++ right) =
      revocations permitId left ++ revocations permitId right := by
  simp [revocations]

theorem revocations_eq_nil (recordedAt : ℤ) (h : ∀ kind ∈ kinds, kind.revoked? = none) :
    revocations permitId (kinds.map fun kind => ⟨recordedAt, kind⟩) = [] := by
  unfold revocations
  rw [List.filterMap_map, List.filterMap_eq_nil_iff.mpr]
  · rfl
  · exact fun kind hmem => h kind hmem

theorem revoked_of_change (h : Change p clock events current operation updated kinds) :
    (∃ terminal, kinds = [.packInstallPermitRevoked terminal] ∧
        (∃ permit ∈ current.packInstallPermits, permit.permitId = terminal.permitId) ∧
        updated.packInstallPermits = current.packInstallPermits.filter fun permit =>
          permit.permitId != terminal.permitId) ∨
      (∀ kind ∈ kinds, kind.revoked? = none) ∧
        ∀ permit ∈ updated.packInstallPermits, permit ∈ current.packInstallPermits ∨
          operation = .grantPackInstallPermit current.incidentId permit := by
  have hkept : ∀ permit ∈ current.packInstallPermits, permit ∈ current.packInstallPermits ∨
      operation = .grantPackInstallPermit current.incidentId permit := fun _ => .inl
  cases h with
  | packInstallRevoked hactive => exact .inl ⟨_, rfl, hactive, rfl⟩
  | packInstallGranted _ hactive =>
      refine .inr ⟨by simp [EventKind.revoked?], fun permit hmem => ?_⟩
      rcases List.mem_append.mp hmem with hmem | hmem
      · exact .inl (hactive hmem)
      · rw [List.mem_singleton.mp hmem]
        exact .inr rfl
  | failed =>
      refine .inr ⟨fun kind hmem => ?_, hkept⟩
      rcases List.mem_append.mp hmem with hmem | hmem
      · exact @forall_failureKinds (fun kind => kind.revoked? = none) _ _ (fun _ => rfl)
          (fun _ => rfl) (fun _ => rfl) kind hmem
      · rw [List.mem_singleton.mp hmem]
        rfl
  | diagnosticRecorded _ hexpired =>
      refine .inr ⟨fun kind hmem => ?_, hkept⟩
      rcases List.mem_append.mp hmem with hmem | hmem
      · obtain ⟨_, rfl⟩ := hexpired kind hmem
        rfl
      · rw [List.mem_singleton.mp hmem]
        rfl
  | _ => exact .inr ⟨by simp [EventKind.revoked?], hkept⟩

def GrantsFresh (journal : Journal) (call : Call) : Prop :=
  ∀ incidentId receipt, call.operation = .grantPackInstallPermit incidentId receipt →
    revocations receipt.permitId (journal.file incidentId) = []

/-- Every file holds one revocation of a permit at most, and the active permits have
none in the file of their incident. -/
structure Terminal (journal : Journal) : Prop where
  once : ∀ path permitId, (revocations permitId (journal.events path)).length ≤ 1
  active : ∀ current, journal.current = some current →
    ∀ permit ∈ current.packInstallPermits,
      revocations permit.permitId (journal.file current.incidentId) = []

theorem terminal_empty : Terminal .empty where
  once _ _ := Nat.zero_le _
  active _ h := absurd h.symm (Option.some_ne_none _)

theorem terminal_record (h : Terminal journal) (recordedAt : ℤ)
    (hkinds : ∀ kind ∈ kinds, kind.revoked? = none)
    (hactive : ∀ permit ∈ updated.packInstallPermits,
      revocations permit.permitId (journal.file updated.incidentId) = []) :
    Terminal (journal.record updated recordedAt kinds) := by
  have hsame : ∀ path permitId,
      revocations permitId ((journal.record updated recordedAt kinds).events path) =
        revocations permitId (journal.events path) := by
    intro path permitId
    rw [events_record]
    split
    · rw [revocations_append, revocations_eq_nil _ hkinds, List.append_nil]
    · rfl
  constructor
  · intro path permitId
    rw [hsame]
    exact h.once path permitId
  · intro current hcurrent permit hmem
    obtain rfl := Option.some.inj hcurrent
    exact (hsame _ _).trans (hactive permit hmem)

theorem terminal_revoked (h : Terminal journal) (recordedAt : ℤ)
    (hcurrent : journal.current = some current) {terminal : TerminalReceipt}
    (hactive : ∃ permit ∈ current.packInstallPermits, permit.permitId = terminal.permitId)
    (hincident : updated.incidentId = current.incidentId)
    (hretained : updated.packInstallPermits = current.packInstallPermits.filter fun permit =>
      permit.permitId != terminal.permitId) :
    Terminal (journal.record updated recordedAt [.packInstallPermitRevoked terminal]) := by
  have hnone : revocations terminal.permitId (journal.file updated.incidentId) = [] := by
    obtain ⟨permit, hmem, hid⟩ := hactive
    rw [← hid, hincident]
    exact h.active current hcurrent permit hmem
  have hnew : ∀ permitId,
      revocations permitId [⟨recordedAt, .packInstallPermitRevoked terminal⟩] =
        if terminal.permitId = permitId then [terminal] else [] := by
    intro permitId
    by_cases hid : terminal.permitId = permitId <;>
      simp [revocations, EventKind.revoked?, hid]
  constructor
  · intro path permitId
    rw [events_record]
    split
    · rename_i hpath
      subst hpath
      change (revocations permitId (_ ++ [_])).length ≤ 1
      rw [revocations_append, hnew]
      split
      · rename_i hid
        subst hid
        change (revocations _ (journal.file updated.incidentId) ++ _).length ≤ 1
        rw [hnone]
        exact Nat.le_refl 1
      · rw [List.append_nil]
        exact h.once _ _
    · exact h.once _ _
  · intro other hother permit hmem
    obtain rfl := Option.some.inj hother
    rw [hretained] at hmem
    obtain ⟨hmem, hid⟩ := List.mem_filter.mp hmem
    have hne : ¬ terminal.permitId = permit.permitId := by
      intro heq
      simp [heq] at hid
    rw [file_record]
    change revocations _ (_ ++ [_]) = []
    rw [revocations_append, hnew, if_neg hne, List.append_nil, hincident]
    exact h.active current hcurrent permit hmem

theorem terminal_step {call : Call} (h : Terminal journal) (hfresh : GrantsFresh journal call)
    (hperformed : Performed p journal call journal') : Terminal journal' := by
  cases hperformed with
  | unchanged => exact h
  | opened =>
      apply terminal_record h _ (by simp [EventKind.revoked?])
      intro permit hmem
      exact absurd hmem List.not_mem_nil
  | changed hcurrent hchange =>
      have hincident := incidentId_of_change hchange
      rcases revoked_of_change hchange with
        ⟨terminal, rfl, hactive, hretained⟩ | ⟨hkinds, hpermits⟩
      · exact terminal_revoked h _ hcurrent hactive hincident hretained
      · apply terminal_record h _ hkinds
        intro permit hmem
        rw [hincident]
        rcases hpermits permit hmem with hmem | hgrant
        · exact h.active _ hcurrent permit hmem
        · exact hfresh _ _ hgrant

/-! ### Terminal permits -/

def NeverByPermit (p : Platform) (journal : Journal) (permitId : String) : Prop :=
  ∀ context operation evidence now,
    (evaluate p context operation evidence now journal).reason =
        "owner_authorized_pack_install_permit" →
      (evaluate p context operation evidence now journal).details.lookup "permit_id" ≠
        some (.str permitId)

theorem neverByPermit_of_inactive (hcurrent : journal.current = some current)
    (hinactive : ∀ permit ∈ current.packInstallPermits, permit.permitId ≠ permitId) :
    NeverByPermit p journal permitId := by
  intro context operation evidence now hreason hpermit
  rw [evaluate_of_some p hcurrent] at hreason hpermit
  by_cases hclosed : current.state = .closed
  · rw [if_pos hclosed] at hreason
    exact absurd hreason (by simp)
  · rw [if_neg hclosed] at hreason hpermit
    obtain ⟨permit, hmem, hdetails⟩ := permit_of_decision hreason
    rw [hdetails] at hpermit
    exact hinactive permit hmem (Json.str.inj (Option.some.inj hpermit))

/-- A permit that has a terminal receipt stays terminal while no call grants a permit
that the file of its incident has revoked. -/
theorem terminal_permits_stay_terminal {before after : List Call}
    (h : EachCall p GrantsFresh (before ++ after)) :
    (∀ incidentId permitId,
        (revocations permitId ((journalAfter p (before ++ after)).file incidentId)).length ≤
          1) ∧
      ∀ incidentId permitId,
        revocations permitId ((journalAfter p before).file incidentId) ≠ [] →
          ∀ current, (journalAfter p (before ++ after)).current = some current →
            current.incidentId = incidentId →
              (∀ permit ∈ current.packInstallPermits, permit.permitId ≠ permitId) ∧
                NeverByPermit p (journalAfter p (before ++ after)) permitId := by
  have hterminal : Terminal (journalAfter p (before ++ after)) :=
    holds_after terminal_empty
      (fun _ _ _ hholds hfresh hperformed => terminal_step hholds hfresh hperformed) h
  refine ⟨fun incidentId permitId => hterminal.once _ permitId, ?_⟩
  rintro incidentId permitId hrevoked current hcurrent rfl
  have hinactive : ∀ permit ∈ current.packInstallPermits, permit.permitId ≠ permitId := by
    rintro permit hmem rfl
    obtain ⟨rest, hfile⟩ := @file_grows_after p before after current.incidentId
    have hnone := hterminal.active current hcurrent permit hmem
    rw [← hfile, revocations_append] at hnone
    exact hrevoked (List.append_eq_nil_iff.mp hnone).1
  exact ⟨hinactive, neverByPermit_of_inactive hcurrent hinactive⟩

/-! ### A replayed grant -/

def permit : IncidentPackInstallPermitReceipt := packPermit "permit" "2026-07-27T00:30:00Z"

def installed : TerminalReceipt where
  permitId := "permit"
  terminalInstallId := "install"
  terminalStatus := "succeeded"
  terminalEvidencePath := "install.json"

def revokeInstalled : Call :=
  callAt 2 (.revokePackInstallPermit opened.incidentId installed)

def revokedRun : List Call :=
  [callAt 0 (.openIncident outage), grantAt 1 permit, revokeInstalled]

theorem permit_ahead :
    parseTimestamp plain permit.expiresAt "pack_install_permit_expires_at" =
      .ok (minute 30) := by decide

def grantedReceipt (count : ℤ) : IncidentReceipt :=
  { opened with updatedAt := minute count, packInstallPermits := [permit] }

def grantedJournal : Journal :=
  openedJournal.record (grantedReceipt 1) (minute 1) [.packInstallPermitGranted permit []]

def revokedReceipt : IncidentReceipt := { opened with updatedAt := minute 2 }

def revokedJournal : Journal :=
  grantedJournal.record revokedReceipt (minute 2) [.packInstallPermitRevoked installed]

theorem next_grant (count : ℤ) (hahead : minute count < minute 30)
    (hcurrent : journal.current = some current)
    (hincident : current.incidentId = opened.incidentId)
    (hopen : current.state ≠ .closed) (hnone : current.packInstallPermits = []) :
    next plain journal (grantAt count permit) =
      journal.record
        { current with updatedAt := minute count, packInstallPermits := [permit] }
        (minute count) [.packInstallPermitGranted permit []] := by
  have hvalid : permit.validate plain = .ok () :=
    packPermit_valid (by decide) (by decide) permit_ahead
  have hgrant := @grantPackInstallPermit_eq_ok plain (readings count) journal
    opened.incidentId permit current (minute 30) hvalid permit_ahead hahead hcurrent hincident
    hopen (by rw [hnone]; rfl) (by simp [hnone]) (by simp [hnone])
  rw [hnone] at hgrant
  exact next_of_perform hgrant

theorem next_revoke : next plain grantedJournal revokeInstalled = revokedJournal := (rfl)

theorem journalAfter_revokedRun : journalAfter plain revokedRun = revokedJournal := by
  have hgrant : next plain openedJournal (grantAt 1 permit) = grantedJournal :=
    next_grant 1 (by decide) (rfl : openedJournal.current = some opened) rfl (by decide) rfl
  rw [journalAfter, revokedRun, stateAfter_cons, next_opened, stateAfter_cons, hgrant,
    stateAfter_cons, next_revoke]
  rfl

theorem revocations_revokedRun :
    revocations "permit" ((journalAfter plain revokedRun).file opened.incidentId) =
      [installed] := by
  have hrevoked : revokedReceipt.incidentId = opened.incidentId := rfl
  have hgranted : (grantedReceipt 1).incidentId = opened.incidentId := rfl
  have hnew : (openedReceipt (readings 0) outage).incidentId = opened.incidentId := rfl
  rw [journalAfter_revokedRun, revokedJournal, file_record_of hrevoked, grantedJournal,
    file_record_of hgranted, openedJournal, openNew, file_record_of hnew]
  rfl

theorem revokedRun_fresh : EachCall plain GrantsFresh (revokedRun ++ []) := by
  have hopen : GrantsFresh .empty (callAt 0 (.openIncident outage)) := by
    intro incidentId receipt hgrant
    exact Operation.noConfusion hgrant
  have hgrant : GrantsFresh openedJournal (grantAt 1 permit) := by
    intro incidentId receipt hgrant
    obtain ⟨rfl, rfl⟩ := Operation.grantPackInstallPermit.inj hgrant
    have hnew : (openedReceipt (readings 0) outage).incidentId = opened.incidentId := rfl
    rw [openedJournal, openNew, file_record_of hnew]
    rfl
  have hrevoke : GrantsFresh grantedJournal revokeInstalled := by
    intro incidentId receipt hgrant
    exact Operation.noConfusion hgrant
  have hnext : next plain openedJournal (grantAt 1 permit) = grantedJournal :=
    next_grant 1 (by decide) (rfl : openedJournal.current = some opened) rfl (by decide) rfl
  refine ⟨hopen, ?_⟩
  rw [next_opened]
  refine ⟨hgrant, ?_⟩
  rw [hnext]
  exact ⟨hrevoke, trivial⟩

theorem installed_permit_stays_terminal :
    NeverByPermit plain (journalAfter plain (revokedRun ++ [])) "permit" := by
  have hcurrent : (journalAfter plain (revokedRun ++ [])).current = some revokedReceipt := by
    rw [List.append_nil, journalAfter_revokedRun]
    rfl
  have hrevoked : revocations "permit" ((journalAfter plain revokedRun).file
      opened.incidentId) ≠ [] := by
    rw [revocations_revokedRun]
    exact List.cons_ne_nil _ _
  exact ((terminal_permits_stay_terminal revokedRun_fresh).2 _ _ hrevoked _ hcurrent rfl).2

theorem current_after_replay :
    (journalAfter plain (revokedRun ++ [grantAt 3 permit])).current =
      some (grantedReceipt 3) := by
  have hgrant := next_grant 3 (by decide) (rfl : revokedJournal.current = some revokedReceipt)
    rfl (by decide) rfl
  rw [journalAfter, stateAfter_append_singleton, ← journalAfter, journalAfter_revokedRun,
    hgrant]
  rfl

/-- The permit of a terminal receipt is active again, and the gate allows by it. -/
theorem revoked_permit_granted_again :
    ∃ before after permitId current,
      revocations permitId ((journalAfter plain before).file current.incidentId) ≠ [] ∧
        (journalAfter plain (before ++ after)).current = some current ∧
        (∃ permit ∈ current.packInstallPermits, permit.permitId = permitId) ∧
        ¬ NeverByPermit plain (journalAfter plain (before ++ after)) permitId := by
  refine ⟨revokedRun, [grantAt 3 permit], "permit", grantedReceipt 3, ?_,
    current_after_replay, ⟨permit, List.mem_singleton_self _, rfl⟩, ?_⟩
  · change revocations "permit" ((journalAfter plain revokedRun).file opened.incidentId) ≠ []
    rw [revocations_revokedRun]
    exact List.cons_ne_nil _ _
  · intro hnever
    have hdecision := hnever [] "capability_install_job" [("artifact_sha256", digest)]
      (minute 4)
    rw [evaluate_of_some plain current_after_replay] at hdecision
    exact hdecision (by decide) (by rfl)

end MindscapeLocalCore.RuntimeDatabaseIncident.PackPermits
