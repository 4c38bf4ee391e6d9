import MindscapeLocalCore.RuntimeDatabaseIncident.Receipts
/-!
The receipts that end an incident, and the owner's report that its trigger cannot be
attributed any more.
-/

namespace MindscapeLocalCore.RuntimeDatabaseIncident.ClosureReceipts

open Library.Guarded Library.Hex Library.Json Library.JsonText Library.PythonText Library.Sha256
open Receipts

def attributionExhaustionClassification : String :=
  "historical_event_irretrievable_after_bounded_search"

def residualClosureMode : String := "residual_attribution_gap"

def residualRiskText : String := "event_time_sender_identity_unrecoverable"

def residualOwner : String := "runtime-db-incident-owner"

def requiredSearchedSources : List String :=
  ["codex_tool_calls", "docker_event_history", "incident_journal", "postgres_container_logs",
    "postgres_file_logs", "runtime_core_dumps", "signal_observer_events",
    "zsh_extended_history"]

variable (p : Platform)

/-- `marker in text` -/
def mentions (text marker : String) : Bool := decide (marker.toList <:+: text.toList)

/-! ### Exhaustion -/

structure IncidentAttributionExhaustionReceipt where
  incidentId : String
  classification : String
  searchStartedAt : String
  searchEndedAt : String
  searchedSources : List String
  evidenceBundlePath : String
  evidenceBundleSha256 : String
  residualRiskStatement : String
  owner : String
  ownerAuthorization : String
  ownerAuthorizationPath : String
  ownerAuthorizationSha256 : String
  searchComplete : Bool
deriving DecidableEq

def IncidentAttributionExhaustionReceipt.validate
    (receipt : IncidentAttributionExhaustionReceipt) (now : ℤ) : Check Unit := do
  requireFields "Attribution exhaustion receipt is missing required fields: "
    (requiredText
      [("incident_id", receipt.incidentId), ("classification", receipt.classification),
        ("search_started_at", receipt.searchStartedAt),
        ("search_ended_at", receipt.searchEndedAt),
        ("evidence_bundle_path", receipt.evidenceBundlePath),
        ("evidence_bundle_sha256", receipt.evidenceBundleSha256),
        ("residual_risk_statement", receipt.residualRiskStatement),
        ("owner", receipt.owner), ("owner_authorization", receipt.ownerAuthorization),
        ("owner_authorization_path", receipt.ownerAuthorizationPath),
        ("owner_authorization_sha256", receipt.ownerAuthorizationSha256)])
  require (receipt.classification = attributionExhaustionClassification)
    "attribution_exhaustion_classification_invalid"
  require (receipt.residualRiskStatement = residualRiskText)
    "attribution_exhaustion_residual_risk_invalid"
  require (receipt.owner = residualOwner) "attribution_exhaustion_owner_invalid"
  require (receipt.searchComplete = true) "attribution_exhaustion_search_incomplete"
  require receipt.searchedSources.Nodup "attribution_exhaustion_sources_must_be_unique"
  require (receipt.searchedSources ⊆ requiredSearchedSources ∧
      requiredSearchedSources ⊆ receipt.searchedSources)
    "attribution_exhaustion_sources_incomplete"
  let startedAt ← parseTimestamp p receipt.searchStartedAt "attribution_search_started_at"
  let endedAt ← parseTimestamp p receipt.searchEndedAt "attribution_search_ended_at"
  require (startedAt < endedAt) "attribution_exhaustion_search_window_invalid"
  require (endedAt - startedAt ≤ halfHour) "attribution_exhaustion_search_exceeds_30_minutes"
  require (endedAt ≤ now) "attribution_exhaustion_search_not_complete"
  validateSha256 p receipt.evidenceBundleSha256 "attribution_evidence_bundle_sha256"
  validateSha256 p receipt.ownerAuthorizationSha256 "attribution_owner_authorization_sha256"

def IncidentAttributionExhaustionReceipt.toDict
    (receipt : IncidentAttributionExhaustionReceipt) : Dict :=
  [("classification", .str receipt.classification),
    ("evidence_bundle_path", .str receipt.evidenceBundlePath),
    ("evidence_bundle_sha256", .str receipt.evidenceBundleSha256),
    ("incident_id", .str receipt.incidentId),
    ("owner", .str receipt.owner),
    ("owner_authorization", .str receipt.ownerAuthorization),
    ("owner_authorization_path", .str receipt.ownerAuthorizationPath),
    ("owner_authorization_sha256", .str receipt.ownerAuthorizationSha256),
    ("residual_risk_statement", .str receipt.residualRiskStatement),
    ("search_complete", .bool receipt.searchComplete),
    ("search_ended_at", .str receipt.searchEndedAt),
    ("search_started_at", .str receipt.searchStartedAt),
    ("searched_sources", .arr (receipt.searchedSources.map .str))]

def compactStyle : Style where
  itemSeparator := ","
  keySeparator := ":"
  number _ := ""

def canonicalReceiptSha256 (payload : Dict) : String :=
  let text := renderAscii compactStyle (.obj payload)
  String.ofList (hexText 64 (sha256 text.toUTF8).toNat)

def IncidentAttributionExhaustionReceipt.sha256
    (receipt : IncidentAttributionExhaustionReceipt) : String :=
  canonicalReceiptSha256 receipt.toDict

/-! ### Close receipts -/

structure CloseEvidence where
  fixCommit : String
  containmentEvidencePath : String
  containmentEvidenceSha256 : String
  testEvidencePaths : List String
  testEvidenceSha256 : String
  reproductionEvidencePath : String
  reproductionEvidenceSha256 : String
  soakWindow : String
  restoreId : String
  restoreEvidencePath : String
  restoreEvidenceSha256 : String
  resourceBudgetEvidencePath : String
  resourceBudgetEvidenceSha256 : String
  owner : String
  ownerReceiptPath : String
  ownerReceiptSha256 : String
deriving DecidableEq

def CloseEvidence.required (evidence : CloseEvidence) : List (String × String) :=
  [("fix_commit", evidence.fixCommit),
    ("containment_evidence_path", evidence.containmentEvidencePath),
    ("containment_evidence_sha256", evidence.containmentEvidenceSha256),
    ("test_evidence_sha256", evidence.testEvidenceSha256),
    ("reproduction_evidence_path", evidence.reproductionEvidencePath),
    ("reproduction_evidence_sha256", evidence.reproductionEvidenceSha256),
    ("soak_window", evidence.soakWindow), ("restore_id", evidence.restoreId),
    ("restore_evidence_path", evidence.restoreEvidencePath),
    ("restore_evidence_sha256", evidence.restoreEvidenceSha256),
    ("resource_budget_evidence_path", evidence.resourceBudgetEvidencePath),
    ("resource_budget_evidence_sha256", evidence.resourceBudgetEvidenceSha256),
    ("owner", evidence.owner), ("owner_receipt_path", evidence.ownerReceiptPath),
    ("owner_receipt_sha256", evidence.ownerReceiptSha256)]

def CloseEvidence.validateHashes (evidence : CloseEvidence) : Check Unit := do
  validateSha256 p evidence.containmentEvidenceSha256 "containment_evidence_sha256"
  validateSha256 p evidence.testEvidenceSha256 "test_evidence_sha256"
  validateSha256 p evidence.reproductionEvidenceSha256 "reproduction_evidence_sha256"
  validateSha256 p evidence.restoreEvidenceSha256 "restore_evidence_sha256"
  validateSha256 p evidence.resourceBudgetEvidenceSha256 "resource_budget_evidence_sha256"
  validateSha256 p evidence.ownerReceiptSha256 "owner_receipt_sha256"

def CloseEvidence.validateRestore (evidence : CloseEvidence) (kind : String) : Check Unit :=
  let restoreId := p.lower (strip evidence.restoreId)
  require ((∀ marker ∈ ["not_required", "not-required", "unknown", "unavailable"],
      mentions restoreId marker = false) ∧ restoreId ∉ ["none", "n/a", "na"])
    (kind ++ "_requires_restore_evidence")

def soakBoundaries (soakWindow : String) : List String :=
  (soakWindow.toList.splitOn '/').map String.ofList

def CloseEvidence.validateSoak (evidence : CloseEvidence) (kind : String) (now : ℤ) :
    Check Unit :=
  match soakBoundaries evidence.soakWindow with
  | [started, ended] => do
      let startedAt ← parseTimestamp p started (kind ++ "_soak_started_at")
      let endedAt ← parseTimestamp p ended (kind ++ "_soak_ended_at")
      require (startedAt < endedAt) (kind ++ "_soak_window_invalid")
      require (endedAt ≤ now) (kind ++ "_soak_window_not_complete")
  | _ => .error (kind ++ "_soak_window_invalid")

structure IncidentCloseReceipt extends CloseEvidence where
  deepTriggerClassification : String
  deepTriggerEventSha256 : String
deriving DecidableEq

def IncidentCloseReceipt.validate (receipt : IncidentCloseReceipt) (now : ℤ) :
    Check Unit := do
  requireFields "Incident close receipt is missing required fields: "
    (requiredText
        ([("deep_trigger_classification", receipt.deepTriggerClassification),
          ("deep_trigger_event_sha256", receipt.deepTriggerEventSha256)] ++
          receipt.required) ++
      requiredEntries "test_evidence_paths" receipt.testEvidencePaths)
  require (∀ marker ∈ ["unknown", "unattributed", "undetermined", "unresolved"],
      mentions (p.lower (strip receipt.deepTriggerClassification)) marker = false)
    "incident_close_requires_attributed_deep_trigger"
  require (isHex 40 40 receipt.fixCommit.toList) "incident_close_fix_commit_must_be_exact"
  validateSha256 p receipt.deepTriggerEventSha256 "deep_trigger_event_sha256"
  receipt.validateHashes p
  receipt.validateRestore p "incident_close"
  receipt.validateSoak p "incident_close" now

structure IncidentResidualCloseReceipt extends CloseEvidence where
  closureMode : String
  attributionExhaustionSha256 : String
  residualRiskStatement : String
deriving DecidableEq

def IncidentResidualCloseReceipt.validate (receipt : IncidentResidualCloseReceipt) (now : ℤ) :
    Check Unit := do
  requireFields "Residual close receipt is missing required fields: "
    (requiredText
        ([("closure_mode", receipt.closureMode),
          ("attribution_exhaustion_sha256", receipt.attributionExhaustionSha256),
          ("residual_risk_statement", receipt.residualRiskStatement)] ++ receipt.required) ++
      requiredEntries "test_evidence_paths" receipt.testEvidencePaths)
  require (receipt.closureMode = residualClosureMode) "residual_close_mode_invalid"
  require (receipt.residualRiskStatement = residualRiskText)
    "residual_close_risk_statement_invalid"
  require (receipt.owner = residualOwner) "residual_close_owner_invalid"
  require (isHex 40 40 receipt.fixCommit.toList) "residual_close_fix_commit_must_be_exact"
  validateSha256 p receipt.attributionExhaustionSha256 "attribution_exhaustion_sha256"
  receipt.validateHashes p
  receipt.validateRestore p "residual_close"
  receipt.validateSoak p "residual_close" now

/-- `close_receipt`, by its `closure_mode`. -/
inductive ClosePayload where
  | attributable (receipt : IncidentCloseReceipt)
  | residual (receipt : IncidentResidualCloseReceipt)
deriving DecidableEq

end MindscapeLocalCore.RuntimeDatabaseIncident.ClosureReceipts
