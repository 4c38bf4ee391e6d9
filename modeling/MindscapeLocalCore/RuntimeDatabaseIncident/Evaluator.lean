import MindscapeLocalCore.RuntimeDatabaseIncident.Steps
/-!
The decision of the mutation gate over the current incident, and when the order in
which it asks the grants makes a difference.
-/

namespace MindscapeLocalCore.RuntimeDatabaseIncident.Evaluator

open Library.Json Library.PythonText Library.Trace Receipts Incident Journal Steps

structure MutationDecision where
  allowed : Bool
  operation : String
  reason : String
  incidentId : Option String := none
  retryAfterSeconds : ℕ := 30
  details : List (String × Json) := []

variable (p : Platform)

def operationName (operation : String) : String :=
  if strip operation = "" then "unspecified_mutation" else strip operation

def normalizedEvidence (evidence : List (String × String)) : List (String × String) :=
  (evidence.filter fun entry => decide (¬ Blank entry.2)).map fun entry =>
    (entry.1, strip entry.2)

def operationKey (context : List (String × String)) (operation : String)
    (evidence : List (String × String)) : String :=
  let name := operationName operation
  let name :=
    if "capability_install_job:".toList.isPrefixOf name.toList then "capability_install_job"
    else name
  let found :=
    ((normalizedEvidence evidence).lookup "artifact_sha256").or
      (context.lookup "artifact_sha256")
  let artifactSha256 := p.lower (found.getD "")
  if artifactSha256 = "" then name else name ++ "@sha256:" ++ artifactSha256

section Decisions

variable (current : IncidentReceipt) (name key : String) (now : ℤ)

def allow (reason : String) (details : List (String × Json)) : MutationDecision where
  allowed := true
  operation := name
  reason
  incidentId := some current.incidentId
  retryAfterSeconds := 0
  details := ("incident_state", .str current.state.value) :: details

def block (reason : String) (details : List (String × Json)) : MutationDecision where
  allowed := false
  operation := name
  reason
  incidentId := some current.incidentId
  details := ("incident_state", .str current.state.value) :: details

def permitDetails (permitId : String) : List (String × Json) :=
  [("permit_id", .str permitId), ("operation_key", .str key)]

def diagnosticDecision : Option MutationDecision :=
  if current.state = .openUnattributed then
    current.diagnosticPermit.bind fun permit =>
      if key ∈ permit.allowedOperationKeys then
        if unexpired p permit.expiresAt "diagnostic_expires_at" now then
          some (allow current name "incident_diagnostic_permit"
            (permitDetails key permit.permitId ++
              [("expires_at", .str permit.expiresAt),
                ("source_commit", .str permit.sourceCommit)]))
        else
          some (block current name "incident_diagnostic_permit_expired"
            (permitDetails key permit.permitId))
      else none
  else none

def packInstallDecision : Option MutationDecision :=
  (current.packInstallPermits.reverse.find? fun permit =>
      decide (key ∈ permit.allowedOperationKeys)).map fun permit =>
    if packPermitActive p permit now then
      allow current name "owner_authorized_pack_install_permit"
        (permitDetails key permit.permitId ++
          [("capability_code", .str permit.capabilityCode),
            ("candidate_version", .str permit.candidateVersion)])
    else block current name "pack_install_permit_expired" (permitDetails key permit.permitId)

def targetedMigrationDecision : Option MutationDecision :=
  (current.targetedMigrationPermits.reverse.find? fun permit =>
      decide (key = permit.allowedOperationKey)).map fun permit =>
    if unexpired p permit.expiresAt "targeted_migration_permit_expires_at" now then
      allow current name "owner_authorized_targeted_migration_permit"
        (permitDetails key permit.permitId ++
          [("revision", .str permit.revision),
            ("migration_mode", .str permit.migrationMode)])
    else
      block current name "targeted_migration_permit_expired"
        (permitDetails key permit.permitId)

def containmentDecision : Option MutationDecision :=
  if current.state = .containedPendingSoak then
    match current.containmentReceipt with
    | some containment =>
        let active := unexpired p containment.expiresAt "containment_expires_at" now
        if active && decide (key ∈ containment.allowedOperationKeys) then
          some (allow current name "containment_repair_permit"
            (permitDetails key containment.permitId))
        else
          some (block current name
            (if containment.expiresAt != "" && !active then
              "containment_repair_permit_expired" else "runtime_database_incident_contained")
            (permitDetails key containment.permitId))
    | none =>
        some (block current name "runtime_database_incident_contained"
          [("permit_id", .null), ("operation_key", .str key)])
  else none

def incidentDecision : MutationDecision :=
  (((diagnosticDecision p current name key now).or
      (packInstallDecision p current name key now)).or
    (targetedMigrationDecision p current name key now)).or
      (containmentDecision p current name key now) |>.getD
    (block current name "runtime_database_incident_open" [])

end Decisions

/-- `evaluate`, over what reading the current incident gives. -/
def evaluateCurrent (context : List (String × String)) (operation : String)
    (evidence : List (String × String)) (now : ℤ) :
    JournalCheck (Option IncidentReceipt) → MutationDecision
  | .error _ =>
      { allowed := false
        operation := operationName operation
        reason := "incident_journal_unavailable" }
  | .ok none =>
      { allowed := true
        operation := operationName operation
        reason := "allowed"
        retryAfterSeconds := 0 }
  | .ok (some current) =>
      if current.state = .closed then
        { allowed := true
          operation := operationName operation
          reason := "allowed"
          retryAfterSeconds := 0 }
      else
        incidentDecision p current (operationName operation)
          (operationKey p context operation evidence) now

def evaluate (context : List (String × String)) (operation : String)
    (evidence : List (String × String)) (now : ℤ) (journal : Journal) : MutationDecision :=
  evaluateCurrent p context operation evidence now (.ok journal.current)

theorem evaluate_of_some {journal : Journal} {current : IncidentReceipt}
    (hcurrent : journal.current = some current) (context : List (String × String))
    (operation : String) (evidence : List (String × String)) (now : ℤ) :
    evaluate p context operation evidence now journal =
      if current.state = .closed then
        { allowed := true
          operation := operationName operation
          reason := "allowed"
          retryAfterSeconds := 0 }
      else
        incidentDecision p current (operationName operation)
          (operationKey p context operation evidence) now := by
  unfold evaluate
  rw [hcurrent]
  rfl

/-! ### Grants -/

structure Grant where
  operationKeys : List String
  active : Bool

def Grant.covers (key : String) (grant : Grant) : Bool := decide (key ∈ grant.operationKeys)

section Grants

variable (current : IncidentReceipt) (now : ℤ)

def diagnosticGrants : List Grant :=
  if current.state = .openUnattributed then
    current.diagnosticPermit.toList.map fun permit =>
      { operationKeys := permit.allowedOperationKeys
        active := unexpired p permit.expiresAt "diagnostic_expires_at" now }
  else []

def packInstallGrants : List Grant :=
  current.packInstallPermits.map fun permit =>
    { operationKeys := permit.allowedOperationKeys
      active := packPermitActive p permit now }

def targetedMigrationGrants : List Grant :=
  current.targetedMigrationPermits.map fun permit =>
    { operationKeys := [permit.allowedOperationKey]
      active := unexpired p permit.expiresAt "targeted_migration_permit_expires_at" now }

def containmentGrants : List Grant :=
  if current.state = .containedPendingSoak then
    current.containmentReceipt.toList.map fun receipt =>
      { operationKeys := receipt.allowedOperationKeys
        active := unexpired p receipt.expiresAt "containment_expires_at" now }
  else []

/-- The grants of an incident, in the order in which the gate asks them. -/
def consulted : List Grant :=
  diagnosticGrants p current now ++ (packInstallGrants p current now).reverse ++
    (targetedMigrationGrants p current now).reverse ++ containmentGrants p current now

def Granted (key : String) : Prop :=
  ∃ grant ∈ diagnosticGrants p current now ++ packInstallGrants p current now ++
      targetedMigrationGrants p current now ++ containmentGrants p current now,
    grant.covers key = true ∧ grant.active = true

/-- The first grant that covers the operation has expired, and another one has not. -/
def Shadowed (key : String) : Prop :=
  (∃ first, (consulted p current now).find? (Grant.covers key) = some first ∧
      first.active = false) ∧
    Granted p current now key

variable {p current now} {key name : String}

theorem granted_iff_consulted :
    Granted p current now key ↔
      ∃ grant ∈ consulted p current now, grant.covers key = true ∧ grant.active = true := by
  simp only [Granted, consulted, List.mem_append, List.mem_reverse]

theorem allowed_diagnostic :
    (diagnosticDecision p current name key now).map (·.allowed) =
      ((diagnosticGrants p current now).find? (Grant.covers key)).map (·.active) := by
  unfold diagnosticDecision diagnosticGrants
  split
  · cases current.diagnosticPermit with
    | none => rfl
    | some permit =>
        by_cases hkey : key ∈ permit.allowedOperationKeys
        · by_cases hactive : unexpired p permit.expiresAt "diagnostic_expires_at" now = true
          · simp [Grant.covers, hkey, hactive, allow]
          · simp [Grant.covers, hkey, hactive, block]
        · simp [Grant.covers, hkey]
  · rfl

theorem allowed_packInstall :
    (packInstallDecision p current name key now).map (·.allowed) =
      ((packInstallGrants p current now).reverse.find? (Grant.covers key)).map (·.active) := by
  unfold packInstallDecision packInstallGrants
  rw [← List.map_reverse, List.find?_map, Option.map_map, Option.map_map]
  apply congrFun
  apply congrArg
  funext permit
  by_cases hactive : packPermitActive p permit now = true <;> simp [hactive, allow, block]

theorem allowed_targetedMigration :
    (targetedMigrationDecision p current name key now).map (·.allowed) =
      ((targetedMigrationGrants p current now).reverse.find? (Grant.covers key)).map
        (·.active) := by
  unfold targetedMigrationDecision targetedMigrationGrants
  rw [← List.map_reverse, List.find?_map, Option.map_map, Option.map_map]
  have hcovers : (fun permit : IncidentTargetedMigrationPermitReceipt =>
      decide (key = permit.allowedOperationKey)) = Grant.covers key ∘ fun permit =>
        { operationKeys := [permit.allowedOperationKey]
          active :=
            unexpired p permit.expiresAt "targeted_migration_permit_expires_at" now } := by
    funext permit
    simp [Grant.covers]
  rw [hcovers]
  apply congrFun
  apply congrArg
  funext permit
  by_cases hactive :
      unexpired p permit.expiresAt "targeted_migration_permit_expires_at" now = true <;>
    simp [hactive, allow, block]

theorem allowed_containment :
    ((containmentDecision p current name key now).map (·.allowed)).getD false =
      (((containmentGrants p current now).find? (Grant.covers key)).map (·.active)).getD
        false := by
  unfold containmentDecision containmentGrants
  split
  · cases current.containmentReceipt with
    | none => rfl
    | some containment =>
        by_cases hkey : key ∈ containment.allowedOperationKeys
        · by_cases hactive :
              unexpired p containment.expiresAt "containment_expires_at" now = true
          · simp [Grant.covers, hkey, hactive, allow]
          · simp [Grant.covers, hkey, hactive, block]
        · simp [Grant.covers, hkey, block]
  · rfl

theorem getD_or_map {α β : Type} (f : α → β) (first second : Option α) (default : β) :
    ((first.or second).map f).getD default =
      (first.map f).getD ((second.map f).getD default) := by
  cases first <;> rfl

theorem allowed_iff_first :
    (incidentDecision p current name key now).allowed =
      (((consulted p current now).find? (Grant.covers key)).map (·.active)).getD false := by
  have hdefault : ∀ decision : Option MutationDecision,
      (decision.getD (block current name "runtime_database_incident_open" [])).allowed =
        (decision.map (·.allowed)).getD false := by
    intro decision
    cases decision <;> rfl
  unfold incidentDecision consulted
  rw [hdefault]
  simp only [List.find?_append, getD_or_map, allowed_diagnostic, allowed_packInstall,
    allowed_targetedMigration, allowed_containment]

theorem allowed_iff_granted :
    ((incidentDecision p current name key now).allowed = true ↔ Granted p current now key) ↔
      ¬ Shadowed p current now key := by
  rw [allowed_iff_first]
  unfold Shadowed
  rw [granted_iff_consulted]
  cases hfirst : (consulted p current now).find? (Grant.covers key) with
  | none =>
      have hnone := List.find?_eq_none.mp hfirst
      have hempty : ¬ ∃ grant ∈ consulted p current now,
          grant.covers key = true ∧ grant.active = true := by
        rintro ⟨grant, hmem, hcovers, -⟩
        exact hnone grant hmem hcovers
      simp [hempty]
  | some first =>
      cases hactive : first.active with
      | false => simp [hactive]
      | true =>
          have hgranted : ∃ grant ∈ consulted p current now,
              grant.covers key = true ∧ grant.active = true :=
            ⟨first, List.mem_of_find?_eq_some hfirst, List.find?_some hfirst, hactive⟩
          simp [hactive, hgranted]

end Grants

/-! ### The gate -/

def Admitted (journal : Journal) (key : String) (now : ℤ) : Prop :=
  ∀ current, journal.current = some current → current.state ≠ .closed →
    Granted p current now key

def GateShadowed (journal : Journal) (key : String) (now : ℤ) : Prop :=
  ∃ current, journal.current = some current ∧ current.state ≠ .closed ∧
    Shadowed p current now key

/-- The gate allows exactly what a recorded grant admits, unless the first grant it
asks has expired and another one has not. -/
theorem gate_exact_iff (journal : Journal) (context evidence : List (String × String))
    (operation : String) (now : ℤ) :
    ((evaluate p context operation evidence now journal).allowed = true ↔
        Admitted p journal (operationKey p context operation evidence) now) ↔
      ¬ GateShadowed p journal (operationKey p context operation evidence) now := by
  unfold evaluate Admitted GateShadowed
  cases journal.current with
  | none => simp [evaluateCurrent]
  | some current =>
      by_cases hclosed : current.state = .closed
      · simp [evaluateCurrent, hclosed]
      · have hdecision := @allowed_iff_granted p current now
          (operationKey p context operation evidence) (operationName operation)
        simpa [evaluateCurrent, hclosed] using hdecision

def longPermit : IncidentPackInstallPermitReceipt := packPermit "long" "2026-07-27T00:30:00Z"

def shortPermit : IncidentPackInstallPermitReceipt :=
  packPermit "short" "2026-07-27T00:10:00Z"

theorem longPermit_ahead :
    parseTimestamp plain longPermit.expiresAt "pack_install_permit_expires_at" =
      .ok (minute 30) := by decide

theorem shortPermit_ahead :
    parseTimestamp plain shortPermit.expiresAt "pack_install_permit_expires_at" =
      .ok (minute 10) := by decide

def shadowedRun : List Call :=
  [callAt 0 (.openIncident outage), grantAt 1 longPermit, grantAt 2 shortPermit]

def longReceipt : IncidentReceipt :=
  { opened with updatedAt := minute 1, packInstallPermits := [longPermit] }

def shadowedReceipt : IncidentReceipt :=
  { opened with updatedAt := minute 2, packInstallPermits := [longPermit, shortPermit] }

def longJournal : Journal :=
  openedJournal.record longReceipt (minute 1) [.packInstallPermitGranted longPermit []]

def shadowedJournal : Journal :=
  longJournal.record shadowedReceipt (minute 2) [.packInstallPermitGranted shortPermit []]

theorem next_long : next plain openedJournal (grantAt 1 longPermit) = longJournal := by
  have hvalid : longPermit.validate plain = .ok () :=
    packPermit_valid (by decide) (by decide) longPermit_ahead
  have hgrant : grantPackInstallPermit plain (readings 1) opened.incidentId longPermit
      openedJournal = .ok longJournal :=
    grantPackInstallPermit_eq_ok hvalid longPermit_ahead (by decide)
      (rfl : openedJournal.current = some opened) rfl (by decide) rfl
      (fun _ hmem => absurd hmem List.not_mem_nil) (by decide)
  exact next_of_perform hgrant

theorem next_short : next plain longJournal (grantAt 2 shortPermit) = shadowedJournal := by
  have hvalid : shortPermit.validate plain = .ok () :=
    packPermit_valid (by decide) (by decide) shortPermit_ahead
  have hactive : packPermitActive plain longPermit (minute 2) = true := by
    unfold packPermitActive unexpired ahead
    rw [longPermit_ahead]
    decide
  have hgrant : grantPackInstallPermit plain (readings 2) opened.incidentId shortPermit
      longJournal = .ok shadowedJournal := by
    refine grantPackInstallPermit_eq_ok hvalid shortPermit_ahead (by decide)
      (rfl : longJournal.current = some longReceipt) rfl (by decide) (by decide) ?_ (by decide)
    intro permit hmem
    rw [List.mem_singleton.mp hmem]
    exact hactive
  exact next_of_perform hgrant

theorem current_after_shadowedRun :
    (journalAfter plain shadowedRun).current = some shadowedReceipt := by
  rw [journalAfter, shadowedRun, stateAfter_cons, next_opened, stateAfter_cons, next_long,
    stateAfter_cons, next_short]
  rfl

/-- The expired permit hides the one that has not expired. -/
theorem expired_permit_shadows :
    ∃ calls operation evidence now,
      (evaluate plain [] operation evidence now (journalAfter plain calls)).allowed = false ∧
        Admitted plain (journalAfter plain calls) (operationKey plain [] operation evidence)
          now := by
  refine ⟨shadowedRun, "capability_install_job", [("artifact_sha256", digest)], minute 20, ?_,
    ?_⟩
  · rw [evaluate_of_some plain current_after_shadowedRun]
    decide
  · intro current hcurrent _
    rw [current_after_shadowedRun] at hcurrent
    obtain rfl := Option.some.inj hcurrent
    have hactive : packPermitActive plain longPermit (minute 20) = true := by
      unfold packPermitActive unexpired ahead
      rw [longPermit_ahead]
      decide
    have hgrant : (⟨longPermit.allowedOperationKeys,
        packPermitActive plain longPermit (minute 20)⟩ : Grant) ∈
          packInstallGrants plain shadowedReceipt (minute 20) :=
      List.mem_map_of_mem List.mem_cons_self
    exact ⟨_, List.mem_append_left _ (List.mem_append_left _ (List.mem_append_right _ hgrant)),
      by decide, hactive⟩

end MindscapeLocalCore.RuntimeDatabaseIncident.Evaluator
