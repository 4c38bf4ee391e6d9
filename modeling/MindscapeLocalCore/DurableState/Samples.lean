import MindscapeLocalCore.DurableState.SingleWorkflow
import MindscapeLocalCore.Library.HashChain

/-!
Documents that every contract accepts, and how far a workflow that is opened with them
can be driven.
-/

namespace MindscapeLocalCore.DurableState.Samples

open Library Library.Guarded Library.Json Library.JsonText Library.Table
open CanonicalJson Contracts Errors Facade FacadeAppend Progress Records Records.Ledger Reducers
open Repository SingleWorkflow Transitions

/-! ## Surroundings -/

def testSigner : Signer where
  publicKey := ByteArray.mk (Array.replicate 32 7)
  sign message := Sha256.sha256 message ++ Sha256.sha256 (message.push 1)

def moment : String := "2026-07-26T00:00:00Z"

def nextDay : String := "2026-07-27T00:00:00Z"

def testWorld : World where
  sha256 := Sha256.sha256
  ed25519Verify _ message signature := decide (signature = testSigner.signature message)
  fromisoformat text :=
    [moment, nextDay].any fun time => text == time.replace "Z" "+00:00"
  timestamptz text :=
    [(moment, 1785024000000000), (nextDay, 1785110400000000)].lookup text

def testFacade : Facade where
  signer := testSigner
  workflowDefinitions := ["workflow.v1"]
  reducers := ["reducer.v1"]
  effectAdapters := ["effects.v1"]
  verificationKeys keyId :=
    if keyId = testSigner.keyId testWorld then some testSigner.publicKey else none

/-- The surroundings of the call that stores the `n`th event. -/
def context (n : Nat) : Context := contextAt testFacade n

/-! ## Documents -/

def zeros : String := "0000000000000000000000000000000000000000000000000000000000000000"

def capability : Dict :=
  [("capability_code", .str "test_capability"), ("manifest_sha256", .str zeros),
    ("pack_version", .str "1.0.0")]

def identity (kind : WorkflowKind) : Dict :=
  [("attempt_id", .str "attempt:test"), ("capability_identity", .obj capability),
    ("cloud_contract_manifest_sha256", .str zeros),
    ("configuration_fingerprint", .str zeros),
    ("consumer_compatibility_class", .str "compatible"),
    ("contract_id", .str "mindscape.durable-product-semantic-workflow.v1"),
    ("contract_version", .str "1.0.0"), ("critical_durability", .str "sync"),
    ("data_fingerprint", .str zeros),
    ("development_attestation_id", .str "attestation:test"),
    ("development_attestation_sha256", .str zeros),
    ("effect_adapter_registry_version", .str "effects.v1"),
    ("environment_fingerprint", .str zeros), ("execution_id", .str "execution:test"),
    ("predecessor_segment_id", .null), ("predecessor_terminal_hash", .null),
    ("psc_ids", .arr
      [.str "psc.cloud.durable-product-semantic-workflow-publication.v1",
        .str "psc.local-core.durable-product-semantic-workflow-runtime.v1"]),
    ("reducer_version", .str "reducer.v1"), ("replay_compatibility_class", .str "exact"),
    ("root_workflow_id", .str "workflow:test"), ("runtime_build_id", .str "test-build"),
    ("segment_id", .str "workflow:test:segment:0"), ("segment_number", Json.nat 0),
    ("workflow_definition_version", .str "workflow.v1"),
    ("workflow_id", .str "workflow:test"), ("workflow_kind", .str kind.name),
    ("workspace_id", .str "workspace:test")]

theorem identity_isValid (kind : WorkflowKind) :
    validateContract "semantic_execution_identity" (identity kind) = .ok () := by
  cases kind <;> exact require_of (by decide)

theorem size_identity (kind : WorkflowKind) :
    size canonical (.obj (identity kind)) ≤ 4096 ∧
      size jsonbStyle (.obj (identity kind)) ≤ 4096 := by
  rw [← byteSize_eq, ← byteSize_eq]
  cases kind <;> decide

/-! ## Opening -/

def openedRow (kind : WorkflowKind) (identityHash : String) : InstanceRow where
  workflowId := "workflow:test"
  rootWorkflowId := "workflow:test"
  segmentId := "workflow:test:segment:0"
  segmentNumber := 0
  predecessorSegmentId := none
  predecessorTerminalHash := none
  workflowKind := kind
  workspaceId := "workspace:test"
  executionId := some "execution:test"
  semanticIdentity := identity kind
  semanticIdentityHash := identityHash
  currentSequence := 0
  currentEventHash := none
  currentState := initialState kind
  terminal := false
  workflowDefinitionVersion := "workflow.v1"
  reducerVersion := "reducer.v1"
  effectAdapterRegistryVersion := "effects.v1"
  runtimeBuildId := "test-build"
  eventCount := 0
  canonicalEventBytes := 0
  nextDurableDeadline := none
  cancellationState := none

def openedLedger (kind : WorkflowKind) (identityHash : String) : Ledger :=
  { Ledger.empty with instances := [openedRow kind identityHash] }

theorem openWorkflowKind_isOk (world : World) (kind : WorkflowKind) :
    ∃ identityHash, openWorkflowKind world testFacade (identity kind) Ledger.empty =
      .ok (openedRow kind identityHash, openedLedger kind identityHash) := by
  have hkind : kindOf (identity kind) = .ok kind := by
    cases kind <;> rfl
  have hcompatible : requireCompatible testFacade (identity kind) = .ok () := rfl
  obtain ⟨encoded, hencoded, -⟩ := @encode_isOk (.obj (identity kind))
    ((size_identity kind).1.trans (by decide))
  have hrow : ∀ identityHash, identityRow (identity kind) identityHash (initialState kind) =
      .ok (openedRow kind identityHash) := by
    cases kind <;> exact fun _ => rfl
  have hinsert : ∀ identityHash, insertInstance Ledger.empty (openedRow kind identityHash) =
      .ok (openedLedger kind identityHash) := by
    intro identityHash
    have hoctets : octetLength (identity kind) ≤ 16384 := by
      rw [octetLength_eq_size]
      exact (size_identity kind).2.trans (by decide)
    simp only [insertInstance, bind_eq_ok, exists_unit, constrain_eq_ok]
    exact ⟨rfl, rfl, rfl, .inl ⟨rfl, rfl, rfl⟩, hoctets, rfl⟩
  refine ⟨hexdigest (world.sha256 encoded), ?_⟩
  rw [openWorkflowKind, identity_isValid, check_ok, ok_bind, hcompatible, check_ok, ok_bind,
    hkind, check_ok, ok_bind, insertIdentity, sha256Hex, hencoded, ok_bind, check_ok, ok_bind,
    hrow, check_ok, ok_bind, hinsert]
  rfl

theorem solo_opened (kind : WorkflowKind) (identityHash : String) :
    Solo (openedRow kind identityHash) 0 (fun _ => False)
      (initialProjection (.str (initialState kind).name) .null (Json.nat 0) .null)
      (openedLedger kind identityHash) where
  instances := rfl
  currentSequence := rfl
  eventCount := rfl
  nonterminal := rfl
  canonicalEventBytes := Nat.le_refl 0
  hash := fun _ h => nomatch h
  workflowId := by
    change Short "workflow:test"
    decide
  segmentId := by
    change Short "workflow:test:segment:0"
    decide
  events := fun _ h => nomatch h
  projections := .inl rfl
  state := rfl

end MindscapeLocalCore.DurableState.Samples
