import Mathlib.Data.Rat.Defs
import MindscapeLocalCore.Library.Guarded
/-!
Fail-closed verification of runtime owner decisions. The documents are those that
pass their contract; digests, clocks and signatures are given by a `Verifier`.
-/

namespace MindscapeLocalCore.DurableState.RuntimeOwnerReceipts

open Library.Guarded

inductive WorkflowKind where
  | execution
  | productIteration
  | productRelease
deriving DecidableEq

inductive PolicyMode where
  | disabled
  | shadow
  | enforced
deriving DecidableEq

/-- `exact_canary_admission` -/
structure CanaryAdmission where
  workspaceId : String
  authorizationScopes : List String
  pilotCohortHash : String
  windowStartsAt : String
  windowEndsAt : String
  backoutOwnerId : String
  candidateAttestations : List (String × String)
  fixtureDescriptors : List (String × String)
deriving DecidableEq

structure ReleasePolicy where
  workspaceId : String
  workflowKind : WorkflowKind
  mode : PolicyMode
  canaryReceiptId : String
  canaryReceiptSha256 : String
  canary : CanaryAdmission
deriving DecidableEq

/-- `durable_release_policy_cas`. The mode `absent` is `none`. -/
structure ReleasePolicyCas where
  workspaceId : String
  workflowKind : WorkflowKind
  expectedRevision : ℤ
  targetRevision : ℤ
  fromMode : Option PolicyMode
  toMode : PolicyMode
  policy : ReleasePolicy
  policyHash : String
  casAuthorityId : String
deriving DecidableEq

inductive Payload where
  | exactCanaryAdmission (payload : CanaryAdmission)
  | durableReleasePolicyCas (payload : ReleasePolicyCas)
  | rpoRtoPolicy (dataClasses : List String)
  | signingKeyProvisioning (notBefore notAfter : String)
  | unchecked (receiptType : String)
deriving DecidableEq

def Payload.receiptType : Payload → String
  | .exactCanaryAdmission _ => "exact_canary_admission"
  | .durableReleasePolicyCas _ => "durable_release_policy_cas"
  | .rpoRtoPolicy _ => "rpo_rto_policy"
  | .signingKeyProvisioning _ _ => "signing_key_provisioning"
  | .unchecked receiptType => receiptType

structure OwnerReceipt where
  receiptId : String
  ownerId : String
  ownerRole : String
  authorityRef : String
  issuedAt : String
  expiresAt : String
  revocationRef : String
  payload : Payload
  payloadSha256 : String
  keyId : String
  publicKeyFingerprintSha256 : String
  signature : String
deriving DecidableEq

structure TrustedKey where
  keyId : String
  ownerId : String
  ownerRole : String
  publicKeyBase64 : String
  fingerprintSha256 : String
  authorizedReceiptTypes : List String
  authorityRefs : List String
  notBefore : String
  notAfter : String
  revokedAt : Option String
  revocationRef : String
deriving DecidableEq

structure TrustedRegistry where
  registryRevision : String
  keys : List TrustedKey
deriving DecidableEq

/-- What the verification asks of its environment. A digest is missing for a
document over its size limit, a fingerprint for what is no 32-byte base64 key. -/
structure Verifier where
  timestamp : String → Option ℚ
  registrySha256 : TrustedRegistry → Option String
  payloadSha256 : Payload → Option String
  policySha256 : ReleasePolicy → Option String
  receiptSha256 : OwnerReceipt → Option String
  fingerprint : String → Option String
  signatureValid : TrustedKey → OwnerReceipt → Bool

/-- `RuntimeOwnerReceiptError`, by its text. -/
abbrev Check (α : Type) := Except String α

def policyTransitions : List (Option PolicyMode × PolicyMode) :=
  [(none, .shadow), (some .disabled, .shadow), (some .shadow, .enforced),
    (some .shadow, .disabled), (some .enforced, .shadow), (some .enforced, .disabled)]

def policyModeAuthorizationScope : PolicyMode → String
  | .shadow => "durable_workflow:shadow"
  | .enforced => "durable_workflow:enforced"
  | .disabled => "durable_workflow:disable"

def rpoDataClasses : List String :=
  ["ledger_metadata", "object_evidence", "signing_verification_material",
    "contract_mirror_registry", "projection"]

structure VerifiedOwnerDecision where
  receipt : OwnerReceipt
  receiptSha256 : String
  registryRevision : String
  registrySha256 : String
deriving DecidableEq

variable (v : Verifier)

def timestamp (value field : String) : Check ℚ :=
  match v.timestamp value with
  | some parsed => .ok parsed
  | none => .error (field ++ "_invalid")

def digest (found : Option String) : Check String :=
  match found with
  | some sha256 => .ok sha256
  | none => .error "canonical_json_too_large"

def validateKey (key : TrustedKey) : Check Unit := do
  let notBefore ← timestamp v key.notBefore "key_not_before"
  let notAfter ← timestamp v key.notAfter "key_not_after"
  require (notBefore < notAfter) "trusted_key_validity_window_invalid"
  match key.revokedAt with
  | none => pure ()
  | some revokedAt => do
      let revokedAt ← timestamp v revokedAt "revoked_at"
      require (notBefore ≤ revokedAt) "trusted_key_revocation_before_validity"

def validateRegistry (registry : TrustedRegistry) : Check Unit := do
  require (registry.keys.map (·.keyId)).Nodup "trusted_key_id_duplicate"
  require (registry.keys.map (·.fingerprintSha256)).Nodup
    "trusted_key_fingerprint_duplicate"
  registry.keys.forM (validateKey v)

def trustedKey (receipt : OwnerReceipt) (registry : TrustedRegistry) : Check TrustedKey :=
  match registry.keys.filter fun key => key.keyId == receipt.keyId with
  | [key] => do
      require (key.ownerId = receipt.ownerId) "trusted_key_owner_mismatch"
      require (key.ownerRole = receipt.ownerRole) "trusted_key_role_mismatch"
      require (key.fingerprintSha256 = receipt.publicKeyFingerprintSha256)
        "trusted_key_fingerprint_receipt_mismatch"
      require (receipt.payload.receiptType ∈ key.authorizedReceiptTypes)
        "trusted_key_receipt_type_unauthorized"
      require (receipt.authorityRef ∈ key.authorityRefs)
        "trusted_key_authority_ref_unauthorized"
      require (receipt.revocationRef = key.revocationRef)
        "trusted_key_revocation_ref_mismatch"
      pure key
  | _ => .error "trusted_key_not_unique"

def validateCanary (payload : CanaryAdmission) (checkedAt : ℚ) : Check Unit := do
  let startsAt ← timestamp v payload.windowStartsAt "canary_starts_at"
  let endsAt ← timestamp v payload.windowEndsAt "canary_ends_at"
  require (startsAt < endsAt) "canary_window_invalid"
  require (startsAt ≤ checkedAt) "canary_window_not_started"
  require (checkedAt < endsAt) "canary_window_expired"
  require (payload.candidateAttestations.map (·.1)).Nodup
    "candidate_attestation_id_duplicate"
  require ((payload.fixtureDescriptors.map (·.1)).eraseDups.length = 2)
    "fixture_descriptor_id_not_distinct"
  require ((payload.fixtureDescriptors.map (·.2)).eraseDups.length = 2)
    "fixture_descriptor_hash_not_distinct"

def validateCas (receipt : OwnerReceipt) (payload : ReleasePolicyCas) : Check Unit := do
  let policy := payload.policy
  require (payload.targetRevision = payload.expectedRevision + 1)
    "policy_cas_revision_not_contiguous"
  require (payload.expectedRevision = 0 ↔ payload.fromMode = none)
    "policy_cas_absent_revision_mismatch"
  require ((payload.fromMode, payload.toMode) ∈ policyTransitions)
    "policy_cas_transition_invalid"
  require (policy.workspaceId = payload.workspaceId) "policy_cas_workspace_mismatch"
  require (policy.workflowKind = payload.workflowKind) "policy_cas_workflow_kind_mismatch"
  require (policy.mode = payload.toMode) "policy_cas_mode_mismatch"
  let policySha256 ← digest (v.policySha256 policy)
  require (policySha256 = payload.policyHash) "policy_cas_policy_hash_mismatch"
  require (policyModeAuthorizationScope payload.toMode ∈ policy.canary.authorizationScopes)
    "policy_cas_scope_unauthorized"
  require (payload.casAuthorityId = receipt.ownerId) "policy_cas_authority_mismatch"
  require (payload.toMode = .disabled → receipt.ownerId = policy.canary.backoutOwnerId)
    "policy_cas_backout_owner_mismatch"

def validatePayload (receipt : OwnerReceipt) (checkedAt : ℚ) : Check Unit :=
  match receipt.payload with
  | .exactCanaryAdmission payload => validateCanary v payload checkedAt
  | .durableReleasePolicyCas payload => validateCas v receipt payload
  | .rpoRtoPolicy dataClasses =>
      require (dataClasses ⊆ rpoDataClasses ∧ rpoDataClasses ⊆ dataClasses)
        "rpo_rto_data_classes_not_exact"
  | .signingKeyProvisioning notBefore notAfter => do
      let notBefore ← timestamp v notBefore "workflow_key_not_before"
      let notAfter ← timestamp v notAfter "workflow_key_not_after"
      require (notBefore < notAfter) "workflow_key_validity_window_invalid"
  | .unchecked _ => pure ()

def checkRevocation (key : TrustedKey) (issuedAt checkedAt : ℚ) : Check Unit :=
  match key.revokedAt with
  | none => pure ()
  | some revokedAt => do
      let revokedAt ← timestamp v revokedAt "revoked_at"
      require (issuedAt < revokedAt ∧ checkedAt < revokedAt) "trusted_key_revoked"

def checkPublicKey (key : TrustedKey) : Check Unit :=
  match v.fingerprint key.publicKeyBase64 with
  | none => .error "trusted_public_key_length_invalid"
  | some fingerprint =>
      require (fingerprint = key.fingerprintSha256) "trusted_key_fingerprint_invalid"

/-- `MAX_FUTURE_SKEW`, in seconds. -/
def maxFutureSkew : ℚ := 300

def verifyOwnerDecision (receipt : OwnerReceipt) (registry : TrustedRegistry)
    (expectedRegistrySha256 : String) (checkedAt : ℚ) : Check VerifiedOwnerDecision := do
  let registrySha256 ← digest (v.registrySha256 registry)
  require (registrySha256 = expectedRegistrySha256) "trusted_key_registry_sha256_mismatch"
  validateRegistry v registry
  validatePayload v receipt checkedAt
  let payloadSha256 ← digest (v.payloadSha256 receipt.payload)
  require (payloadSha256 = receipt.payloadSha256) "payload_sha256_mismatch"
  let issuedAt ← timestamp v receipt.issuedAt "issued_at"
  let expiresAt ← timestamp v receipt.expiresAt "expires_at"
  require (issuedAt ≤ checkedAt + maxFutureSkew) "receipt_issued_in_future"
  require (issuedAt < expiresAt) "receipt_validity_window_invalid"
  require (checkedAt < expiresAt) "receipt_expired"
  let key ← trustedKey receipt registry
  let keyNotBefore ← timestamp v key.notBefore "key_not_before"
  let keyNotAfter ← timestamp v key.notAfter "key_not_after"
  require (keyNotBefore ≤ issuedAt ∧ issuedAt < keyNotAfter)
    "receipt_issued_outside_key_window"
  require (checkedAt < keyNotAfter) "trusted_key_expired"
  checkRevocation v key issuedAt checkedAt
  checkPublicKey v key
  require (v.signatureValid key receipt = true) "signature_invalid"
  let receiptSha256 ← digest (v.receiptSha256 receipt)
  pure
    { receipt
      receiptSha256
      registryRevision := registry.registryRevision
      registrySha256 }

/-- What a release-policy receipt promises about the rows it is applied to. -/
structure CasValid (payload : ReleasePolicyCas) : Prop where
  contiguous : payload.targetRevision = payload.expectedRevision + 1
  first : payload.expectedRevision = 0 ↔ payload.fromMode = none
  transition : (payload.fromMode, payload.toMode) ∈ policyTransitions
  mode : payload.policy.mode = payload.toMode

theorem casValid_of_validateCas {receipt : OwnerReceipt} {payload : ReleasePolicyCas}
    (h : validateCas v receipt payload = .ok ()) : CasValid payload := by
  simp only [validateCas, bind_eq_ok, require_eq_ok, exists_unit] at h
  obtain ⟨hcontiguous, hfirst, htransition, -, -, hmode, -⟩ := h
  exact ⟨hcontiguous, hfirst, htransition, hmode⟩

theorem casValid_of_verified {receipt : OwnerReceipt} {registry : TrustedRegistry}
    {expectedRegistrySha256 : String} {checkedAt : ℚ} {decision : VerifiedOwnerDecision}
    (h : verifyOwnerDecision v receipt registry expectedRegistrySha256 checkedAt =
      .ok decision) :
    decision.receipt = receipt ∧
      ∀ payload, receipt.payload = .durableReleasePolicyCas payload → CasValid payload := by
  simp only [verifyOwnerDecision, bind_eq_ok, exists_unit] at h
  obtain ⟨_, -, -, -, hpayload, _, -, -, _, -, _, -, -, -, -, _, -, _, -, _, -, -, -, -, -, -,
    _, -, hdecision⟩ := h
  obtain rfl := Except.ok.inj hdecision
  refine ⟨rfl, fun payload heq => ?_⟩
  rw [validatePayload, heq] at hpayload
  exact casValid_of_validateCas v hpayload

end MindscapeLocalCore.DurableState.RuntimeOwnerReceipts
