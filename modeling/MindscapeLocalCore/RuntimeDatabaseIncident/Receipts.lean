import Mathlib.Data.List.Dedup
import MindscapeLocalCore.Library.Guarded
import MindscapeLocalCore.Library.JsonText
import MindscapeLocalCore.Library.PythonText
import MindscapeLocalCore.Library.HashChain
/-!
The receipts of the incident journal and their checks. Instants are counted in
microseconds.
-/

namespace MindscapeLocalCore.RuntimeDatabaseIncident.Receipts

open Library.Guarded Library.Hex Library.PythonText Library.Sha256

/-- What `datetime.fromisoformat` makes of a text. -/
inductive Parsed where
  | naive
  | aware (instant : ℤ)
deriving DecidableEq

/-- `str.lower`, `int` of a text and `datetime.fromisoformat`; the last two are
`none` where they raise a `ValueError`. -/
structure Platform where
  lower : String → String
  int : String → Option ℤ
  fromisoformat : String → Option Parsed

/-- `ValueError`, by its text. -/
abbrev Check (α : Type) := Except String α

variable (p : Platform)

def requiredText (values : List (String × String)) : List String :=
  (values.filter fun value => decide (Blank value.2)).map (·.1)

def requiredEntries (name : String) (entries : List String) : List String :=
  if entries = [] ∨ ∃ entry ∈ entries, Blank entry then [name] else []

def requireFields (text : String) (missing : List String) : Check Unit :=
  require (missing = [])
    (text ++ ", ".intercalate (missing.dedup.mergeSort fun a b => decide (a ≤ b)))

theorem requireFields_of {text : String} {missing : List String} (h : missing = []) :
    requireFields text missing = .ok () := require_of h

/-- `text.replace("Z", "+00:00")` -/
def replaceZulu (text : String) : String :=
  String.ofList (text.toList.flatMap fun c => if c = 'Z' then "+00:00".toList else [c])

def parseTimestamp (value fieldName : String) : Check ℤ :=
  match p.fromisoformat (replaceZulu (strip value)) with
  | none => .error (fieldName ++ "_must_be_iso8601")
  | some .naive => .error (fieldName ++ "_must_include_timezone")
  | some (.aware instant) => .ok instant

def isHex (least most : ℕ) (text : List Char) : Bool :=
  decide (least ≤ text.length) && decide (text.length ≤ most) && text.all isHexDigit

def validateSha256 (value fieldName : String) : Check Unit :=
  require (isHex 64 64 (p.lower (strip value)).toList) (fieldName ++ "_must_be_sha256")

def emptyMigrationFilesDigest : String :=
  "e3b0c44298fc1c149afbf4c8996fb92427ae41e4649b934ca495991b7852b855"

def halfHour : ℤ := 30 * 60 * 1000000

/-! ### Diagnostic permits -/

structure IncidentDiagnosticPermit where
  permitId : String
  sourceCommit : String
  allowedOperationKeys : List String
  testEvidencePaths : List String
  captureEvidenceId : String
  budgetSha256 : String
  expiresAt : String
  owner : String
deriving DecidableEq

def signalObserverStart : List Char := "postgres_signal_observer_start@sha256:".toList

def identityLoggingReload : List Char := "postgres_identity_logging_reload@sha256:".toList

/-- `_DIAGNOSTIC_OPERATION_PATTERNS` -/
def isDiagnosticOperation (key : String) : Bool :=
  [signalObserverStart, identityLoggingReload].any fun operation =>
    operation.isPrefixOf key.toList && isHex 64 64 (key.toList.drop operation.length)

def IncidentDiagnosticPermit.validate (permit : IncidentDiagnosticPermit) (now : ℤ) :
    Check Unit := do
  requireFields "Incident diagnostic permit is missing required fields: "
    (requiredText
        [("permit_id", permit.permitId), ("source_commit", permit.sourceCommit),
          ("capture_evidence_id", permit.captureEvidenceId),
          ("budget_sha256", permit.budgetSha256), ("expires_at", permit.expiresAt),
          ("owner", permit.owner)] ++
      requiredEntries "allowed_operation_keys" permit.allowedOperationKeys ++
      requiredEntries "test_evidence_paths" permit.testEvidencePaths)
  require (isHex 64 64 permit.budgetSha256.toList) "diagnostic_budget_sha256_invalid"
  require (isHex 8 64 permit.sourceCommit.toList) "diagnostic_source_commit_invalid"
  require (permit.allowedOperationKeys.length ≤ 2) "diagnostic_operation_key_limit_exceeded"
  require permit.allowedOperationKeys.Nodup "diagnostic_operation_keys_must_be_unique"
  require (∀ key ∈ permit.allowedOperationKeys, isDiagnosticOperation key)
    "diagnostic_operation_key_not_allowed"
  let expiresAt ← parseTimestamp p permit.expiresAt "diagnostic_expires_at"
  require (now < expiresAt) "diagnostic_permit_expired"
  require (expiresAt ≤ now + halfHour) "diagnostic_permit_duration_exceeds_30_minutes"

/-! ### Containment -/

structure IncidentContainmentReceipt where
  permitId : String
  triggerClassification : String
  fixCommit : String
  allowedOperationKeys : List String
  testEvidencePaths : List String
  restoreId : String
  expiresAt : String
  owner : String
deriving DecidableEq

def exactOperationKey (key : String) : Check Unit := do
  let normalized := strip key
  require (normalized.length ≤ 256) "containment_operation_key_too_long"
  require ('*' ∉ normalized.toList ∧ Unspaced normalized)
    "containment_operation_keys_must_be_exact"

def IncidentContainmentReceipt.validate (receipt : IncidentContainmentReceipt) :
    Check Unit := do
  requireFields "Incident containment receipt is missing required fields: "
    (requiredText
        [("permit_id", receipt.permitId),
          ("trigger_classification", receipt.triggerClassification),
          ("fix_commit", receipt.fixCommit), ("restore_id", receipt.restoreId),
          ("expires_at", receipt.expiresAt), ("owner", receipt.owner)] ++
      requiredEntries "allowed_operation_keys" receipt.allowedOperationKeys ++
      requiredEntries "test_evidence_paths" receipt.testEvidencePaths)
  require (receipt.allowedOperationKeys.length ≤ 64) "containment_operation_key_limit_exceeded"
  require receipt.allowedOperationKeys.Nodup "containment_operation_keys_must_be_unique"
  receipt.allowedOperationKeys.forM exactOperationKey
  require (isHex 40 40 receipt.fixCommit.toList) "containment_fix_commit_must_be_exact"
  let _ ← parseTimestamp p receipt.expiresAt "containment_expires_at"

/-! ### Permits -/

structure IncidentPackInstallPermitReceipt where
  permitId : String
  capabilityCode : String
  currentVersion : String
  candidateVersion : String
  artifactSha256 : String
  allowedOperationKeys : List String
  preflightEvidencePaths : List String
  migrationRevisions : List String
  migrationFilesDigest : String
  schemaMutationRequired : Bool
  backoutInstallId : String
  backoutArtifactSha256 : String
  expiresAt : String
  owner : String
  ownerAuthorization : String
deriving DecidableEq

def packInstallKeys (artifactSha256 : String) : List String :=
  ["capability_install_intake:file@sha256:" ++ artifactSha256,
    "capability_install_job@sha256:" ++ artifactSha256]

def IncidentPackInstallPermitReceipt.validate (receipt : IncidentPackInstallPermitReceipt) :
    Check Unit := do
  requireFields "Pack install permit is missing required fields: "
    (requiredText
        [("permit_id", receipt.permitId), ("capability_code", receipt.capabilityCode),
          ("current_version", receipt.currentVersion),
          ("candidate_version", receipt.candidateVersion),
          ("artifact_sha256", receipt.artifactSha256),
          ("migration_files_digest", receipt.migrationFilesDigest),
          ("backout_install_id", receipt.backoutInstallId),
          ("backout_artifact_sha256", receipt.backoutArtifactSha256),
          ("expires_at", receipt.expiresAt), ("owner", receipt.owner),
          ("owner_authorization", receipt.ownerAuthorization)] ++
      requiredEntries "preflight_evidence_paths" receipt.preflightEvidencePaths ++
      if ∃ revision ∈ receipt.migrationRevisions, Blank revision then
        ["migration_revisions"] else [])
  require (receipt.schemaMutationRequired = false) "pack_install_permit_forbids_schema_mutation"
  validateSha256 p receipt.artifactSha256 "artifact_sha256"
  validateSha256 p receipt.migrationFilesDigest "migration_files_digest"
  require (receipt.migrationRevisions = [] →
      p.lower (strip receipt.migrationFilesDigest) = emptyMigrationFilesDigest)
    "pack_install_permit_empty_migration_set_digest_mismatch"
  validateSha256 p receipt.backoutArtifactSha256 "backout_artifact_sha256"
  let requiredKeys := packInstallKeys (p.lower (strip receipt.artifactSha256))
  require (receipt.allowedOperationKeys ⊆ requiredKeys ∧
      requiredKeys ⊆ receipt.allowedOperationKeys)
    "pack_install_permit_operation_keys_must_be_exact"
  require (receipt.allowedOperationKeys.length = requiredKeys.length)
    "pack_install_permit_operation_keys_must_be_unique"
  let _ ← parseTimestamp p receipt.expiresAt "pack_install_permit_expires_at"

structure IncidentTargetedMigrationPermitReceipt where
  permitId : String
  alembicConfigName : String
  revision : String
  migrationFileSha256 : String
  migrationMode : String
  createdRelations : List String
  allowedOperationKey : String
  preflightEvidencePaths : List String
  expiresAt : String
  owner : String
  ownerAuthorization : String
deriving DecidableEq

def IncidentTargetedMigrationPermitReceipt.validate
    (receipt : IncidentTargetedMigrationPermitReceipt) : Check Unit := do
  requireFields "Targeted migration permit is missing required fields: "
    (requiredText
        [("permit_id", receipt.permitId), ("alembic_config_name", receipt.alembicConfigName),
          ("revision", receipt.revision),
          ("migration_file_sha256", receipt.migrationFileSha256),
          ("migration_mode", receipt.migrationMode),
          ("allowed_operation_key", receipt.allowedOperationKey),
          ("expires_at", receipt.expiresAt), ("owner", receipt.owner),
          ("owner_authorization", receipt.ownerAuthorization)] ++
      requiredEntries "created_relations" receipt.createdRelations ++
      requiredEntries "preflight_evidence_paths" receipt.preflightEvidencePaths)
  validateSha256 p receipt.migrationFileSha256 "migration_file_sha256"
  require (receipt.migrationMode = "create_only")
    "targeted_migration_permit_requires_create_only"
  require (receipt.allowedOperationKey =
      "alembic_upgrade:" ++ receipt.alembicConfigName ++ ":" ++ receipt.revision)
    "targeted_migration_permit_operation_key_must_be_exact"
  require (∀ relation ∈ receipt.createdRelations,
      '*' ∉ (strip relation).toList ∧ Unspaced (strip relation))
    "targeted_migration_permit_relations_must_be_exact"
  let _ ← parseTimestamp p receipt.expiresAt "targeted_migration_permit_expires_at"

end MindscapeLocalCore.RuntimeDatabaseIncident.Receipts
