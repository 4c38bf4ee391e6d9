import MindscapeLocalCore.RuntimeDatabaseIncident.Steps
/-!
The limit of sixteen permits of a kind. A grant of a pack-install permit drops the
permits that have expired before it counts; a grant of a migration permit counts all that
are stored.
-/

namespace MindscapeLocalCore.RuntimeDatabaseIncident.PermitLimits

open Library.Guarded Library.PythonText Library.Trace Receipts Incident Journal Steps

variable (p : Platform) (clock : Clock)

inductive NewPermit where
  | packInstall (receipt : IncidentPackInstallPermitReceipt)
  | targetedMigration (receipt : IncidentTargetedMigrationPermitReceipt)

def NewPermit.grant (incidentId : String) : NewPermit → Operation
  | .packInstall receipt => .grantPackInstallPermit incidentId receipt
  | .targetedMigration receipt => .grantTargetedMigrationPermit incidentId receipt

def NewPermit.limitExceeded : NewPermit → JournalError
  | .packInstall _ => .transition "pack_install_permit_limit_exceeded"
  | .targetedMigration _ => .transition "targeted_migration_permit_limit_exceeded"

def migrationPermitActive (permit : IncidentTargetedMigrationPermitReceipt) (now : ℤ) : Bool :=
  unexpired p permit.expiresAt "targeted_migration_permit_expires_at" now

def liveCount (current : IncidentReceipt) (now : ℤ) : NewPermit → ℕ
  | .packInstall _ =>
      (current.packInstallPermits.filter fun permit => packPermitActive p permit now).length
  | .targetedMigration _ =>
      (current.targetedMigrationPermits.filter fun permit =>
        migrationPermitActive p permit now).length

/-- A valid permit with a new id that expires after the call. -/
def Grantable (current : IncidentReceipt) : NewPermit → Prop
  | .packInstall receipt =>
      receipt.validate p = .ok () ∧
        (∃ instant, parseTimestamp p receipt.expiresAt "pack_install_permit_expires_at" =
          .ok instant ∧ clock.checked < instant) ∧
        ∀ item ∈ current.packInstallPermits, item.permitId ≠ receipt.permitId
  | .targetedMigration receipt =>
      receipt.validate p = .ok () ∧
        (∃ instant, parseTimestamp p receipt.expiresAt "targeted_migration_permit_expires_at" =
          .ok instant ∧ clock.checked < instant) ∧
        ∀ item ∈ current.targetedMigrationPermits, item.permitId ≠ receipt.permitId

structure KeepsLive (now : ℤ) (current updated : IncidentReceipt) : Prop where
  packInstall : ∀ permit ∈ current.packInstallPermits, packPermitActive p permit now = true →
    permit ∈ updated.packInstallPermits
  targetedMigration : ∀ permit ∈ current.targetedMigrationPermits,
    migrationPermitActive p permit now = true → permit ∈ updated.targetedMigrationPermits

/-- The grant is refused for the limit only where sixteen permits of its kind are unexpired, and
keeps all that are unexpired. -/
structure CountsLive (journal : Journal) (current : IncidentReceipt) (permit : NewPermit) :
    Prop where
  refused : perform p ⟨clock, permit.grant current.incidentId⟩ journal =
    .error permit.limitExceeded → 16 ≤ liveCount p current clock.compared permit
  kept : ∀ journal', perform p ⟨clock, permit.grant current.incidentId⟩ journal = .ok journal' →
    ∃ updated, journal'.current = some updated ∧ KeepsLive p clock.compared current updated

/-- Of a migration permit: fewer than sixteen are stored, or all that are stored are unexpired. -/
def RoomForLive (current : IncidentReceipt) (now : ℤ) : NewPermit → Prop
  | .packInstall _ => True
  | .targetedMigration _ =>
      current.targetedMigrationPermits.length < 16 ∨
        ∀ permit ∈ current.targetedMigrationPermits, migrationPermitActive p permit now = true

variable {p clock} {journal journal' : Journal} {current : IncidentReceipt}

/-! ### Grants of permits with new ids -/

theorem perform_packInstall (incidentId : String) (receipt : IncidentPackInstallPermitReceipt) :
    perform p ⟨clock, (NewPermit.packInstall receipt).grant incidentId⟩ journal =
      grantPackInstallPermit p clock incidentId receipt journal := rfl

theorem perform_targetedMigration (incidentId : String)
    (receipt : IncidentTargetedMigrationPermitReceipt) :
    perform p ⟨clock, (NewPermit.targetedMigration receipt).grant incidentId⟩ journal =
      grantTargetedMigrationPermit p clock incidentId receipt journal := rfl

theorem grantPackInstallPermit_of_new {receipt : IncidentPackInstallPermitReceipt}
    (hcurrent : journal.current = some current) (hopen : current.state ≠ .closed)
    (h : Grantable p clock current (.packInstall receipt)) :
    ∃ kinds, grantPackInstallPermit p clock current.incidentId receipt journal =
      if (current.packInstallPermits.filter fun permit =>
          packPermitActive p permit clock.compared).length < 16 then
        .ok (journal.record
          { current with
            updatedAt := clock.event
            packInstallPermits := (current.packInstallPermits.filter fun permit =>
              packPermitActive p permit clock.compared) ++ [receipt] } clock.event kinds)
      else .error (.transition "pack_install_permit_limit_exceeded") := by
  obtain ⟨hvalid, ⟨instant, hparse, hahead⟩, hnew⟩ := h
  have hnone : current.packInstallPermits.find? (fun item => item.permitId == receipt.permitId) =
      none :=
    List.find?_eq_none.mpr fun item hitem => by simpa using hnew item hitem
  rw [grantPackInstallPermit, hvalid, lifted_ok, ok_bind, hparse, lifted_ok, ok_bind,
    require_of hahead, ok_bind, requireCurrent_of hcurrent rfl, ok_bind, require_of hopen, ok_bind,
    hnone, List.partition_eq_filter_filter]
  refine ⟨[.packInstallPermitGranted receipt
    ((current.packInstallPermits.filter (not ∘ fun permit =>
      packPermitActive p permit clock.compared)).map fun permit =>
        if permit.permitId = "" then "unknown" else permit.permitId)], ?_⟩
  simp only [require]
  split <;> rfl

theorem grantTargetedMigrationPermit_of_new {receipt : IncidentTargetedMigrationPermitReceipt}
    (hcurrent : journal.current = some current) (hopen : current.state ≠ .closed)
    (h : Grantable p clock current (.targetedMigration receipt)) :
    grantTargetedMigrationPermit p clock current.incidentId receipt journal =
      if current.targetedMigrationPermits.length < 16 then
        .ok (journal.record
          { current with
            updatedAt := clock.event
            targetedMigrationPermits := current.targetedMigrationPermits ++ [receipt] }
          clock.event [.targetedMigrationPermitGranted receipt])
      else .error (.transition "targeted_migration_permit_limit_exceeded") := by
  obtain ⟨hvalid, ⟨instant, hparse, hahead⟩, hnew⟩ := h
  have hnone : current.targetedMigrationPermits.find?
      (fun item => item.permitId == receipt.permitId) = none :=
    List.find?_eq_none.mpr fun item hitem => by simpa using hnew item hitem
  rw [grantTargetedMigrationPermit, hvalid, lifted_ok, ok_bind, hparse, lifted_ok, ok_bind,
    require_of hahead, ok_bind, requireCurrent_of hcurrent rfl, ok_bind, require_of hopen, ok_bind,
    hnone]
  simp only [require]
  split <;> rfl

/-! ### Runs -/

/-- The incident stores sixteen migration permits at most. -/
def Bounded (journal : Journal) : Prop :=
  ∀ current ∈ journal.current, current.targetedMigrationPermits.length ≤ 16

theorem bounded_of_grant {incidentId : String} {receipt : IncidentTargetedMigrationPermitReceipt}
    (hbounded : Bounded journal)
    (h : grantTargetedMigrationPermit p clock incidentId receipt journal = .ok journal') :
    Bounded journal' := by
  simp only [grantTargetedMigrationPermit, bind_eq_ok, exists_unit, require_eq_ok] at h
  obtain ⟨-, -, -, -, current, -, -, h⟩ := h
  split at h
  · split at h
    · obtain rfl := Except.ok.inj h
      exact hbounded
    · cases h
  · simp only [bind_eq_ok, exists_unit, require_eq_ok] at h
    obtain ⟨hroom, h⟩ := h
    obtain rfl := Except.ok.inj h
    rintro updated ⟨⟩
    simp only [List.length_append, List.length_singleton]
    omega

theorem permits_of_change {events : List JournalEvent} {updated : IncidentReceipt}
    {operation : Operation} {kinds : List EventKind}
    (h : Change p clock events current operation updated kinds)
    (hgrant : ∀ incidentId receipt, operation ≠ .grantTargetedMigrationPermit incidentId receipt) :
    updated.targetedMigrationPermits = current.targetedMigrationPermits := by
  cases h with
  | targetedMigrationGranted => exact absurd rfl (hgrant _ _)
  | _ => rfl

theorem bounded_next (call : Call) (hbounded : Bounded journal) :
    Bounded (next p journal call) := by
  by_cases hgrant : ∃ incidentId receipt,
      call.operation = .grantTargetedMigrationPermit incidentId receipt
  · obtain ⟨incidentId, receipt, hoperation⟩ := hgrant
    rw [next, perform, hoperation]
    split
    · rename_i journal' h
      exact bounded_of_grant hbounded h
    · exact hbounded
  · push Not at hgrant
    have h : Performed p journal call (next p journal call) := performed_next call
    generalize next p journal call = after at h
    cases h with
    | unchanged => exact hbounded
    | opened =>
        rintro updated ⟨⟩
        exact Nat.zero_le 16
    | changed hcurrent hchange =>
        rintro updated ⟨⟩
        rw [permits_of_change hchange hgrant]
        exact hbounded _ hcurrent

theorem bounded_after (calls : List Call) : Bounded (journalAfter p calls) := by
  induction calls using List.reverseRecOn with
  | nil => rintro current ⟨⟩
  | append_singleton calls call ih =>
      rw [journalAfter, stateAfter_append_singleton]
      exact bounded_next call ih

/-- No call takes an event out of the file of an incident or changes one, and no incident ever
stores more than sixteen migration permits. -/
theorem journal_kept (before after : List Call) (incidentId : String) :
    (journalAfter p before).file incidentId <+:
        (journalAfter p (before ++ after)).file incidentId ∧
      Bounded (journalAfter p (before ++ after)) :=
  ⟨file_grows_after incidentId, bounded_after (before ++ after)⟩

/-! ### The limit -/

theorem countsLive_packInstall {receipt : IncidentPackInstallPermitReceipt}
    (hcurrent : journal.current = some current) (hopen : current.state ≠ .closed)
    (h : Grantable p clock current (.packInstall receipt)) :
    CountsLive p clock journal current (.packInstall receipt) := by
  obtain ⟨kinds, hgrant⟩ := grantPackInstallPermit_of_new hcurrent hopen h
  constructor
  · intro hrefused
    rw [perform_packInstall, hgrant] at hrefused
    split at hrefused
    · cases hrefused
    · rename_i hfull
      exact Nat.le_of_not_lt hfull
  · intro journal' hok
    rw [perform_packInstall, hgrant] at hok
    split at hok
    · obtain rfl := Except.ok.inj hok
      refine ⟨_, current_record, ?_, fun permit hmem _ => hmem⟩
      intro permit hmem hactive
      exact List.mem_append_left _ (List.mem_filter.mpr ⟨hmem, hactive⟩)
    · cases hok

theorem countsLive_targetedMigration_iff {receipt : IncidentTargetedMigrationPermitReceipt}
    (hbounded : Bounded journal) (hcurrent : journal.current = some current)
    (hopen : current.state ≠ .closed)
    (h : Grantable p clock current (.targetedMigration receipt)) :
    CountsLive p clock journal current (.targetedMigration receipt) ↔
      RoomForLive p current clock.compared (.targetedMigration receipt) := by
  have hgrant := grantTargetedMigrationPermit_of_new hcurrent hopen h
  have hlength : current.targetedMigrationPermits.length ≤ 16 := hbounded current hcurrent
  constructor
  · rintro ⟨hrefused, -⟩
    rcases Nat.lt_or_ge current.targetedMigrationPermits.length 16 with hroom | hfull
    · exact .inl hroom
    · refine .inr ?_
      have hlive : 16 ≤ (current.targetedMigrationPermits.filter fun permit =>
          migrationPermitActive p permit clock.compared).length := by
        refine hrefused ?_
        rw [perform_targetedMigration, hgrant, if_neg (Nat.not_lt.mpr hfull)]
        rfl
      exact List.length_filter_eq_length_iff.mp
        (Nat.le_antisymm (List.length_filter_le _ _) (Nat.le_trans hlength hlive))
  · intro hroom
    constructor
    · intro hrefused
      rw [perform_targetedMigration, hgrant] at hrefused
      split at hrefused
      · cases hrefused
      · rename_i hfull
        rcases hroom with hroom | hlive
        · exact absurd hroom hfull
        · rw [liveCount, List.filter_eq_self.mpr hlive]
          exact Nat.le_of_not_lt hfull
    · intro journal' hok
      rw [perform_targetedMigration, hgrant] at hok
      split at hok
      · obtain rfl := Except.ok.inj hok
        refine ⟨_, current_record, fun permit hmem _ => hmem, ?_⟩
        intro permit hmem _
        exact List.mem_append_left _ hmem
      · cases hok

/-- After every run the limit counts the unexpired permits exactly where a migration permit finds
fewer than sixteen stored or none of them expired. -/
theorem limit_counts_live_iff {calls : List Call} {permit : NewPermit}
    (hcurrent : (journalAfter p calls).current = some current) (hopen : current.state ≠ .closed)
    (h : Grantable p clock current permit) :
    CountsLive p clock (journalAfter p calls) current permit ↔
      RoomForLive p current clock.compared permit := by
  cases permit with
  | packInstall receipt => exact iff_of_true (countsLive_packInstall hcurrent hopen h) trivial
  | targetedMigration receipt =>
      exact countsLive_targetedMigration_iff (bounded_after calls) hcurrent hopen h

/-! ### Sixteen permits that have expired -/

def migrationPermit (permitId expiresAt : String) : IncidentTargetedMigrationPermitReceipt where
  permitId
  alembicConfigName := "postgres"
  revision := "r"
  migrationFileSha256 := digest
  migrationMode := "create_only"
  createdRelations := ["relation"]
  allowedOperationKey := "alembic_upgrade:postgres:r"
  preflightEvidencePaths := ["preflight.json"]
  expiresAt
  owner := "owner"
  ownerAuthorization := "authorization"

def earlyPermits : List IncidentTargetedMigrationPermitReceipt :=
  ["a", "b", "c", "d", "e", "f", "g", "h", "i", "j", "k", "l", "m", "n", "o", "p"].map
    fun permitId => migrationPermit permitId "2026-07-27T00:10:00+00:00"

def sixteenGrants : List Call :=
  callAt 0 (.openIncident outage) ::
    earlyPermits.map fun permit =>
      callAt 1 (.grantTargetedMigrationPermit opened.incidentId permit)

def latePermit : IncidentTargetedMigrationPermitReceipt :=
  migrationPermit "q" "2026-07-27T00:30:00+00:00"

theorem current_of_grants {receipts : List IncidentTargetedMigrationPermitReceipt}
    (hcurrent : journal.current = some current) (hopen : current.state ≠ .closed)
    (hvalid : ∀ receipt ∈ receipts, receipt.validate p = .ok () ∧ ∃ instant,
      parseTimestamp p receipt.expiresAt "targeted_migration_permit_expires_at" = .ok instant ∧
        clock.checked < instant)
    (hids : (current.targetedMigrationPermits ++ receipts).Pairwise fun item receipt =>
      item.permitId ≠ receipt.permitId)
    (hroom : (current.targetedMigrationPermits ++ receipts).length ≤ 16) :
    ∃ updated, (stateAfter (next p) journal (receipts.map fun receipt =>
        ⟨clock, .grantTargetedMigrationPermit current.incidentId receipt⟩)).current =
          some updated ∧
      updated.state = current.state ∧
        updated.targetedMigrationPermits = current.targetedMigrationPermits ++ receipts := by
  induction receipts generalizing journal current with
  | nil => exact ⟨current, hcurrent, rfl, (List.append_nil _).symm⟩
  | cons receipt receipts ih =>
      obtain ⟨hreceipt, hrest⟩ := List.forall_mem_cons.mp hvalid
      have hnew := (List.pairwise_append.mp hids).2.2
      have hgrant := grantTargetedMigrationPermit_of_new hcurrent hopen
        ⟨hreceipt.1, hreceipt.2, fun item hitem => hnew item hitem receipt List.mem_cons_self⟩
      rw [if_pos (by rw [List.length_append, List.length_cons] at hroom; omega),
        ← perform_targetedMigration, NewPermit.grant] at hgrant
      rw [List.append_cons] at hids hroom ⊢
      rw [List.map_cons, stateAfter_cons, next, hgrant]
      exact ih current_record hopen hrest hids hroom

theorem requiredText_cons_of_not_blank {name value : String} (rest : List (String × String))
    (h : ¬ Blank value) : requiredText ((name, value) :: rest) = requiredText rest := by
  rw [requiredText, List.filter_cons_of_neg (by simpa using h), requiredText]

theorem validate_migrationPermit {permitId : String}
    (h : ¬ Blank (migrationPermit permitId "2026-07-27T00:10:00+00:00").permitId) :
    (migrationPermit permitId "2026-07-27T00:10:00+00:00").validate plain = .ok () := by
  have ha : (migrationPermit "a" "2026-07-27T00:10:00+00:00").validate plain = .ok () := by
    decide +kernel
  rw [IncidentTargetedMigrationPermitReceipt.validate,
    requiredText_cons_of_not_blank _ (by decide +kernel)] at ha
  rw [IncidentTargetedMigrationPermitReceipt.validate, requiredText_cons_of_not_blank _ h]
  exact ha

theorem current_sixteenGrants :
    ∃ current, (journalAfter plain sixteenGrants).current = some current ∧
      current.state ≠ .closed ∧ current.targetedMigrationPermits = earlyPermits := by
  have hids : ∀ permit ∈ earlyPermits, ¬ Blank permit.permitId := by decide +kernel
  have hahead : ∃ instant, parseTimestamp plain "2026-07-27T00:10:00+00:00"
      "targeted_migration_permit_expires_at" = .ok instant ∧ (readings 1).checked < instant :=
    ⟨minute 10, by decide +kernel, by decide⟩
  obtain ⟨current, hcurrent, hstate, hpermits⟩ := @current_of_grants plain
    (readings 1) openedJournal opened earlyPermits rfl (by decide)
    (fun permit hpermit => by
      have hid := hids permit hpermit
      obtain ⟨permitId, -, rfl⟩ := List.mem_map.mp hpermit
      exact ⟨validate_migrationPermit hid, hahead⟩) (by decide +kernel) (by decide)
  refine ⟨current, ?_, by rw [hstate]; decide, hpermits⟩
  rw [journalAfter, sixteenGrants, stateAfter_cons]
  exact hcurrent

theorem grantable_latePermit {current : IncidentReceipt}
    (h : current.targetedMigrationPermits = earlyPermits) :
    Grantable plain (readings 20) current (.targetedMigration latePermit) := by
  refine ⟨by decide +kernel, ⟨minute 30, by decide +kernel, by decide⟩, ?_⟩
  rw [h]
  decide +kernel

/-- Sixteen expired permits refuse one more. -/
theorem expired_permits_refuse :
    ∃ current, (journalAfter plain sixteenGrants).current = some current ∧
      current.state ≠ .closed ∧
      Grantable plain (readings 20) current (.targetedMigration latePermit) ∧
      ¬ CountsLive plain (readings 20) (journalAfter plain sixteenGrants) current
        (.targetedMigration latePermit) := by
  obtain ⟨current, hcurrent, hopen, hpermits⟩ := current_sixteenGrants
  have hgrantable := grantable_latePermit hpermits
  refine ⟨current, hcurrent, hopen, hgrantable, ?_⟩
  rintro ⟨hrefused, -⟩
  have hfull : ¬ current.targetedMigrationPermits.length < 16 := by
    rw [hpermits]
    decide
  have hlive := hrefused (by
    rw [perform_targetedMigration, grantTargetedMigrationPermit_of_new hcurrent hopen hgrantable,
      if_neg hfull]
    rfl)
  rw [liveCount, hpermits] at hlive
  revert hlive
  decide +kernel

theorem limit_counts_live_sixteenGrants :
    ∃ current, (journalAfter plain sixteenGrants).current = some current ∧
      current.state ≠ .closed ∧
      Grantable plain (readings 20) current (.targetedMigration latePermit) ∧
      (CountsLive plain (readings 20) (journalAfter plain sixteenGrants) current
          (.targetedMigration latePermit) ↔
        RoomForLive plain current (readings 20).compared (.targetedMigration latePermit)) := by
  obtain ⟨current, hcurrent, hopen, hpermits⟩ := current_sixteenGrants
  have hgrantable := grantable_latePermit hpermits
  exact ⟨current, hcurrent, hopen, hgrantable, limit_counts_live_iff hcurrent hopen hgrantable⟩

end MindscapeLocalCore.RuntimeDatabaseIncident.PermitLimits
