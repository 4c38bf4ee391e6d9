import MindscapeLocalCore.DurableState.Errors
import MindscapeLocalCore.Library.JsonSchema

/-!
The v1 machine contract: the JSON schemas of the records that the durable
workflow facade accepts, and `validate_contract`.
-/

namespace MindscapeLocalCore.DurableState.Contracts

open Library.Guarded Library.Hex Library.Json Library.JsonSchema Errors

/-! ## Patterns -/

def isLower (c : Char) : Bool := decide ('a' ≤ c) && decide (c ≤ 'z')

def isUpper (c : Char) : Bool := decide ('A' ≤ c) && decide (c ≤ 'Z')

def isDigit (c : Char) : Bool := decide ('0' ≤ c) && decide (c ≤ '9')

def isLetter (c : Char) : Bool := isLower c || isUpper c

def atLeastOne (accepts : Char → Bool) : Piece := ⟨accepts, 1, none⟩

/-- `^[a-z][a-z0-9_]{1,63}$`, without its anchors. -/
def capabilityCodePieces : List Piece :=
  [exactly 1 isLower, ⟨fun c => isLower c || isDigit c || c == '_', 1, some 63⟩]

def capabilityCode : Pattern := [capabilityCodePieces]

/-- `^[0-9]+\.[0-9]+\.[0-9]+(?:[-+][0-9A-Za-z.-]+)?$` -/
def semanticVersion : Pattern :=
  let dot := exactly 1 (· == '.')
  let core := [atLeastOne isDigit, dot, atLeastOne isDigit, dot, atLeastOne isDigit]
  [core,
    core ++ [exactly 1 (fun c => c == '-' || c == '+'),
      atLeastOne (fun c => isDigit c || isLetter c || c == '.' || c == '-')]]

/-- `^[A-Za-z][A-Za-z0-9._-]{0,199}$` -/
def componentCode : Pattern :=
  [[exactly 1 isLetter,
    ⟨fun c => isLetter c || isDigit c || c == '.' || c == '_' || c == '-',
      0, some 199⟩]]

/-- `^[A-Za-z][A-Za-z0-9_]{0,199}$` -/
def exportName : Pattern :=
  [[exactly 1 isLetter, ⟨fun c => isLetter c || isDigit c || c == '_', 0, some 199⟩]]

/-- `^capabilities\.[a-z][a-z0-9_]{1,63}\.[a-z][a-z0-9_\.]*:[A-Za-z][A-Za-z0-9_]*$` -/
def evaluatorEntrypoint : Pattern :=
  [literal "capabilities." ++ capabilityCodePieces ++
    [exactly 1 (· == '.'), exactly 1 isLower,
      ⟨fun c => isLower c || isDigit c || c == '_' || c == '.', 0, none⟩,
      exactly 1 (· == ':'), exactly 1 isLetter,
      ⟨fun c => isLetter c || isDigit c || c == '_', 0, none⟩]]

/-- `^sha256-[A-Za-z0-9+/]{43}=$` -/
def subresourceIntegrity : Pattern :=
  [literal "sha256-" ++
    [exactly 43 (fun c => isLetter c || isDigit c || c == '+' || c == '/'),
      exactly 1 (· == '=')]]

/-- `^sha256:[a-f0-9]{64}$` -/
def imageDigest : Pattern := [literal "sha256:" ++ [exactly 64 isHexDigit]]

/-! ## Schemas of single values -/

def anyText : Schema := .type [.string]

/-- A string with the annotation `format: date-time`. -/
def dateTime : Schema := .type [.string]

def anyNumber : Schema := .type [.number]

def sha256Text : Schema := textMatching (hexPattern 64)

def optionalSha256Text : Schema :=
  .allOf [.type [.string, .null], .pattern (hexPattern 64)]

def optionalText (most : Nat) : Schema :=
  .allOf [.type [.string, .null], .maxLength most]

def integerFrom (least : Int) : Schema :=
  .allOf [.type [.integer], .minimum (.int least)]

/-! ## Parts of several schemas -/

def capabilityIdentity : Schema :=
  object
    ["capability_code", "pack_version", "manifest_sha256"]
    [
      ("capability_code", textMatching capabilityCode),
      ("pack_version", text 1 100),
      ("manifest_sha256", sha256Text)]

def objectRef : Schema :=
  object
    ["uri", "sha256", "bytes", "schema_id"]
    [
      ("uri", text 1 2048),
      ("sha256", sha256Text),
      ("bytes", integerFrom 0),
      ("schema_id", text 1 240)]

def objectRefOrNull : Schema :=
  .allOf [.type [.object, .null], .onlyKeys ["uri", "sha256", "bytes", "schema_id"],
    .required ["uri", "sha256", "bytes", "schema_id"],
    .property "uri" (text 1 2048), .property "sha256" sha256Text,
    .property "bytes" (integerFrom 0), .property "schema_id" (text 1 240)]

def observationWindow : Schema :=
  object
    ["starts_at", "ends_at"]
    [
      ("starts_at", dateTime),
      ("ends_at", dateTime)]

def reviewLens : Schema :=
  .oneOf [
    .type [.null],
    (object
      ["component_code", "integrity", "runtime", "export"]
      [
        ("component_code", textMatching componentCode),
        ("integrity",
          .allOf [.type [.string], .pattern subresourceIntegrity,
             .maxLength 128]),
        ("runtime", .const (.str "esm")),
        ("export", textMatching exportName)])]

def eventActor : Schema :=
  object
    ["actor_type", "actor_id"]
    [
      ("actor_type", oneOfTexts ["user", "service", "worker", "operator"]),
      ("actor_id", text 1 200),
      ("authorization_ref", optionalText 240)]

/-! ## Schemas of records -/

def semanticExecutionIdentity : Schema :=
  .allOf [
    (object
      ["contract_id", "contract_version", "workflow_id", "root_workflow_id",
       "segment_id", "segment_number", "workflow_kind", "workspace_id",
       "attempt_id", "capability_identity", "psc_ids",
       "cloud_contract_manifest_sha256", "workflow_definition_version",
       "reducer_version", "effect_adapter_registry_version",
       "runtime_build_id", "replay_compatibility_class",
       "development_attestation_id", "development_attestation_sha256",
       "consumer_compatibility_class", "configuration_fingerprint",
       "environment_fingerprint", "data_fingerprint",
       "critical_durability"]
      [
        ("contract_id",
          .const (.str "mindscape.durable-product-semantic-workflow.v1")),
        ("contract_version", .const (.str "1.0.0")),
        ("workflow_id", text 1 200),
        ("root_workflow_id", text 1 200),
        ("segment_id", text 1 200),
        ("segment_number", integerFrom 0),
        ("predecessor_segment_id", optionalText 200),
        ("predecessor_terminal_hash", optionalSha256Text),
        ("workflow_kind",
          oneOfTexts ["execution", "product_iteration", "product_release"]),
        ("workspace_id", text 1 200),
        ("execution_id", optionalText 200),
        ("attempt_id", text 1 200),
        ("capability_identity", capabilityIdentity),
        ("psc_ids",
          .allOf [
            .type [.array],
            .minItems 2,
            .uniqueItems,
            .items (text 1 240)]),
        ("cloud_contract_manifest_sha256", sha256Text),
        ("workflow_definition_version", text 1 100),
        ("reducer_version", text 1 100),
        ("effect_adapter_registry_version", text 1 100),
        ("runtime_build_id", text 1 240),
        ("replay_compatibility_class",
          oneOfTexts ["exact", "backward_compatible", "migration_required"]),
        ("critical_durability", .const (.str "sync")),
        ("development_attestation_id", text 1 240),
        ("development_attestation_sha256", sha256Text),
        ("consumer_compatibility_class",
          oneOfTexts ["compatible", "needs_review", "incompatible"]),
        ("configuration_fingerprint", sha256Text),
        ("environment_fingerprint", sha256Text),
        ("data_fingerprint", sha256Text),
        ("created_at", dateTime)]),
    .ifThenElse
      (.property "workflow_kind" (.const (.str "execution")))
      (.property "execution_id" (text 1 200))
      (.allOf []),
    .ifThenElse
      (.property "segment_number" (.const (.num (.int 0))))
      (.allOf [
        .property "predecessor_segment_id" (.type [.null]),
        .property "predecessor_terminal_hash" (.type [.null])])
      (.allOf [
        .required ["predecessor_segment_id", "predecessor_terminal_hash"],
        .property "predecessor_segment_id"
          (.allOf [.type [.string], .minLength 1]),
        .property "predecessor_terminal_hash" sha256Text])]

def workflowEvent : Schema :=
  .allOf [
    (object
      ["event_id", "workflow_id", "segment_id", "sequence", "event_type",
       "occurred_at", "actor", "payload_sha256", "previous_event_hash",
       "event_hash", "critical_durability"]
      [
        ("event_id", text 1 200),
        ("workflow_id", text 1 200),
        ("segment_id", text 1 200),
        ("sequence", integerFrom 1),
        ("event_type",
          oneOfTexts ["transition", "timer_recorded", "timer_fired",
             "external_message_recorded",
             "external_message_consumed",
             "cancellation_requested",
             "cancellation_acknowledged",
             "compensation_recorded", "segment_rollover",
             "product_iteration_defined",
             "iteration_enrollment_accepted",
             "outcome_observation_accepted",
             "outcome_observation_rejected",
             "product_release_linked"]),
        ("occurred_at", dateTime),
        ("actor", eventActor),
        ("payload", .type [.object]),
        ("payload_ref", objectRef),
        ("payload_sha256", sha256Text),
        ("canonical_bytes",
          .allOf [.type [.integer], .minimum (.int 2), .maximum (.int 16384)]),
        ("previous_event_hash", optionalSha256Text),
        ("event_hash", sha256Text),
        ("critical_durability", .const (.str "sync")),
        ("signature", text 1 4096)]),
    .oneOf [.required ["payload"], .required ["payload_ref"]]]

def checkpoint : Schema :=
  object
    ["checkpoint_id", "workflow_id", "segment_id", "sequence", "state_hash",
     "event_hash", "reducer_version", "effect_frontier",
     "approval_frontier", "timer_frontier", "message_frontier",
     "cancellation_frontier", "segment_event_count",
     "segment_canonical_bytes", "committed_at", "critical_durability",
     "signature"]
    [
      ("checkpoint_id", text 1 200),
      ("workflow_id", text 1 200),
      ("segment_id", text 1 200),
      ("sequence", integerFrom 0),
      ("state_hash", sha256Text),
      ("event_hash", sha256Text),
      ("reducer_version", text 1 100),
      ("effect_frontier", integerFrom 0),
      ("approval_frontier", integerFrom 0),
      ("timer_frontier", integerFrom 0),
      ("message_frontier", integerFrom 0),
      ("cancellation_frontier", integerFrom 0),
      ("segment_event_count",
        .allOf [.type [.integer], .minimum (.int 0), .maximum (.int 10000)]),
      ("segment_canonical_bytes",
        .allOf [.type [.integer], .minimum (.int 0), .maximum (.int 67108864)]),
      ("predecessor_segment_id", optionalText 200),
      ("predecessor_terminal_hash", optionalSha256Text),
      ("state_ref", objectRef),
      ("committed_at", dateTime),
      ("critical_durability", .const (.str "sync")),
      ("signature", text 1 4096)]

def approval : Schema :=
  .allOf [
    (object
      ["approval_id", "workflow_id", "interrupt_id", "tool_call_id", "phase",
       "action_hash", "resume_payload_hash", "requested_by",
       "created_at", "expires_at", "signature"]
      [
        ("approval_id", text 1 200),
        ("workflow_id", text 1 200),
        ("interrupt_id", text 1 200),
        ("tool_call_id", text 1 200),
        ("phase",
          oneOfTexts ["request", "decision", "delivery", "consumption"]),
        ("action_hash", sha256Text),
        ("resume_payload_hash", sha256Text),
        ("requested_by", text 1 200),
        ("decided_by", optionalText 200),
        ("decision", oneOfTexts ["approved", "rejected"]),
        ("quorum",
          .allOf [.type [.integer], .minimum (.int 1), .maximum (.int 20)]),
        ("separation_of_duties", .type [.boolean]),
        ("decision_receipt_id", optionalText 200),
        ("delivery_id", optionalText 200),
        ("consumed_effect_id", optionalText 200),
        ("created_at", dateTime),
        ("expires_at", dateTime),
        ("signature", text 1 4096)]),
    .ifThenElse
      (.property "phase" (.const (.str "decision")))
      (.required ["decided_by", "decision", "quorum", "separation_of_duties"])
      (.allOf []),
    .ifThenElse
      (.property "phase" (.const (.str "delivery")))
      (.required ["decision_receipt_id", "delivery_id"])
      (.allOf []),
    .ifThenElse
      (.property "phase" (.const (.str "consumption")))
      (.required ["decision_receipt_id", "delivery_id", "consumed_effect_id"])
      (.allOf [])]

def sideEffectReceipt : Schema :=
  object
    ["receipt_id", "workflow_id", "effect_id", "effect_type", "owner",
     "request_hash", "adapter_id", "adapter_version", "status",
     "replay_disposition", "attempt", "recorded_at", "signature"]
    [
      ("receipt_id", text 1 200),
      ("workflow_id", text 1 200),
      ("effect_id", text 1 200),
      ("effect_type", text 1 120),
      ("owner", text 1 200),
      ("request_hash", sha256Text),
      ("response_hash", optionalSha256Text),
      ("adapter_id", text 1 200),
      ("adapter_version", text 1 100),
      ("status",
        oneOfTexts ["prepared", "succeeded", "failed", "compensated"]),
      ("replay_disposition",
        oneOfTexts ["reuse_receipt", "retry_idempotently",
           "requires_approval", "never_replay"]),
      ("attempt", integerFrom 1),
      ("approval_consumption_id", optionalText 200),
      ("result_ref", objectRefOrNull),
      ("recorded_at", dateTime),
      ("signature", text 1 4096)]

def replayEnvelope : Schema :=
  .allOf [
    (object
      ["replay_id", "source_root_workflow_id", "source_segments",
       "source_sequence", "mode", "workflow_definition_version",
       "reducer_version", "effect_adapter_registry_version",
       "runtime_build_id", "compatibility_result", "effect_policy",
       "created_by", "created_at", "signature"]
      [
        ("replay_id", text 1 200),
        ("source_root_workflow_id", text 1 200),
        ("source_segments",
          .allOf [
            .type [.array],
            .minItems 1,
            .uniqueItems,
            .items
              (object
                ["segment_id", "segment_number", "terminal_hash"]
                [
                  ("segment_id", text 1 200),
                  ("segment_number", integerFrom 0),
                  ("terminal_hash", sha256Text)])]),
        ("source_sequence", integerFrom 0),
        ("mode",
          oneOfTexts ["as_of", "fork", "replay", "compare", "re_evaluate"]),
        ("fork_workflow_id", optionalText 200),
        ("workflow_definition_version", text 1 100),
        ("reducer_version", text 1 100),
        ("effect_adapter_registry_version", text 1 100),
        ("runtime_build_id", text 1 240),
        ("compatibility_result",
          oneOfTexts ["exact", "semantic", "incompatible"]),
        ("effect_policy", .const (.str "receipts_only_no_direct_effect")),
        ("created_by", text 1 200),
        ("created_at", dateTime),
        ("signature", text 1 4096)]),
    .ifThenElse
      (.property "mode" (.const (.str "fork")))
      (.allOf [
        .required ["fork_workflow_id"],
        .property "fork_workflow_id" (.allOf [.type [.string], .minLength 1])])
      (.allOf [])]

def executionTerminalReceipt : Schema :=
  object
    ["receipt_id", "workflow_id", "root_workflow_id", "execution_id",
     "attempt_id", "terminal_sequence", "workspace_id",
     "capability_identity", "terminal_state", "terminal_event_hash",
     "result_ref", "resource_summary", "artifact_refs",
     "development_attestation_id", "development_attestation_sha256",
     "consumer_compatibility_class", "configuration_fingerprint",
     "environment_fingerprint", "data_fingerprint",
     "workflow_definition_version", "reducer_version",
     "effect_adapter_registry_version", "runtime_build_id", "started_at",
     "completed_at", "key_id", "signature"]
    [
      ("receipt_id", text 1 200),
      ("workflow_id", text 1 200),
      ("root_workflow_id", text 1 200),
      ("execution_id", text 1 200),
      ("attempt_id", text 1 200),
      ("terminal_sequence", integerFrom 1),
      ("workspace_id", text 1 200),
      ("capability_identity", capabilityIdentity),
      ("terminal_state",
        oneOfTexts ["succeeded", "failed", "cancelled", "compensated"]),
      ("terminal_event_hash", sha256Text),
      ("result_ref", objectRef),
      ("resource_summary",
        object
          ["duration_ms", "attempts", "task_count"]
          [
            ("duration_ms", integerFrom 0),
            ("attempts", integerFrom 1),
            ("task_count", integerFrom 0),
            ("cpu_ms", integerFrom 0),
            ("peak_memory_bytes", integerFrom 0)]),
      ("artifact_refs",
        .allOf [.type [.array], .maxItems 100, .items objectRef]),
      ("development_attestation_id", text 1 240),
      ("development_attestation_sha256", sha256Text),
      ("consumer_compatibility_class",
        oneOfTexts ["compatible", "needs_review", "incompatible"]),
      ("configuration_fingerprint", sha256Text),
      ("environment_fingerprint", sha256Text),
      ("data_fingerprint", sha256Text),
      ("workflow_definition_version", text 1 100),
      ("reducer_version", text 1 100),
      ("effect_adapter_registry_version", text 1 100),
      ("runtime_build_id", text 1 240),
      ("started_at", dateTime),
      ("completed_at", dateTime),
      ("key_id", text 1 200),
      ("signature", text 1 4096)]

def outcomeAdapterDescriptor : Schema :=
  object
    ["descriptor_id", "port_id", "contract_export_id",
     "adapter_contract_version", "evaluator_version",
     "capability_identity", "selector", "input_schema_id",
     "output_schema_id", "evaluator_entrypoint", "authorized_lane",
     "installed_artifact_sha256", "manifest_sha256", "descriptor_sha256",
     "activated_at", "key_id", "signature"]
    [
      ("descriptor_id", text 1 200),
      ("port_id", .const (.str "mindscape.product-outcome-adapter-port.v1")),
      ("contract_export_id", .const (.str "product_outcome_adapter")),
      ("adapter_contract_version",
        .allOf [.type [.string], .pattern semanticVersion, .maxLength 100]),
      ("evaluator_version", text 1 100),
      ("capability_identity",
        object
          ["capability_code", "pack_version", "release_id"]
          [
            ("capability_code", textMatching capabilityCode),
            ("pack_version", text 1 100),
            ("release_id", text 1 200)]),
      ("selector",
        object
          ["terminal_states", "result_schema_ids"]
          [
            ("terminal_states",
              .allOf [
                .type [.array],
                .minItems 1,
                .uniqueItems,
                .items
                  (oneOfTexts ["succeeded", "failed", "cancelled",
                     "compensated"])]),
            ("result_schema_ids",
              .allOf [
                .type [.array],
                .minItems 1,
                .uniqueItems,
                .items (text 1 240)])]),
      ("input_schema_id",
        .const (.str "mindscape://durable-product-semantic-workflow/v1/execution_terminal_receipt")),
      ("output_schema_id",
        .const (.str "mindscape://durable-product-semantic-workflow/v1/outcome_observation")),
      ("evaluator_entrypoint",
        .allOf [.type [.string], .pattern evaluatorEntrypoint, .maxLength 300]),
      ("review_lens", reviewLens),
      ("authorized_lane", text 1 120),
      ("installed_artifact_sha256", sha256Text),
      ("manifest_sha256", sha256Text),
      ("descriptor_sha256", sha256Text),
      ("activated_at", dateTime),
      ("key_id", text 1 200),
      ("signature", text 1 4096)]

def iterationEnrollment : Schema :=
  object
    ["enrollment_id", "iteration_id", "arm_id", "case_id",
     "terminal_receipt_id", "capability_identity", "port_id",
     "contract_export_id", "adapter_contract_version",
     "descriptor_sha256", "evaluator_version",
     "evaluator_contract_sha256", "cohort_manifest_sha256",
     "development_attestation_id", "development_attestation_sha256",
     "consumer_compatibility_class", "configuration_fingerprint",
     "environment_fingerprint", "data_fingerprint", "observation_window",
     "budget", "idempotency_key", "enrolled_at", "key_id", "signature"]
    [
      ("enrollment_id", text 1 200),
      ("iteration_id", text 1 200),
      ("arm_id", text 1 120),
      ("case_id", text 1 200),
      ("terminal_receipt_id", text 1 200),
      ("capability_identity", capabilityIdentity),
      ("port_id", .const (.str "mindscape.product-outcome-adapter-port.v1")),
      ("contract_export_id", .const (.str "product_outcome_adapter")),
      ("adapter_contract_version",
        .allOf [.type [.string], .pattern semanticVersion, .maxLength 100]),
      ("descriptor_sha256", sha256Text),
      ("review_lens", reviewLens),
      ("evaluator_version", text 1 100),
      ("evaluator_contract_sha256", sha256Text),
      ("cohort_manifest_sha256", sha256Text),
      ("development_attestation_id", text 1 240),
      ("development_attestation_sha256", sha256Text),
      ("consumer_compatibility_class",
        oneOfTexts ["compatible", "needs_review", "incompatible"]),
      ("configuration_fingerprint", sha256Text),
      ("environment_fingerprint", sha256Text),
      ("data_fingerprint", sha256Text),
      ("observation_window", observationWindow),
      ("budget",
        object
          ["max_attempts", "timeout_seconds"]
          [
            ("max_attempts", integerFrom 1),
            ("timeout_seconds", integerFrom 1),
            ("max_cost", .allOf [.type [.number, .null], .minimum (.int 0)])]),
      ("idempotency_key", text 1 240),
      ("enrolled_at", dateTime),
      ("key_id", text 1 200),
      ("signature", text 1 4096)]

def productIteration : Schema :=
  object
    ["iteration_id", "revision", "parent_iteration_id", "workspace_id",
     "objective", "state", "arms", "cohort", "metric_definitions",
     "validation_design", "evaluator", "evidence_frontier",
     "promotion_policy", "observation_window", "budget",
     "release_target", "definition_sha256", "created_at"]
    [
      ("iteration_id", text 1 200),
      ("revision", integerFrom 1),
      ("parent_iteration_id",
        .allOf [.type [.string, .null], .minLength 1, .maxLength 200]),
      ("workspace_id", text 1 200),
      ("objective", text 1 1000),
      ("state",
        oneOfTexts ["draft", "admitted", "collecting", "evidence_ready",
           "decision_pending", "inconclusive", "rejected",
           "promoted", "cancelled", "superseded"]),
      ("arms",
        .allOf [
          .type [.array],
          .minItems 1,
          .maxItems 20,
          .items
            (object
              ["arm_id", "development_attestation_id",
               "development_attestation_sha256",
               "consumer_compatibility_class",
               "capability_identity",
               "configuration_fingerprint",
               "environment_fingerprint", "data_fingerprint",
               "consumer_impact_manifest_sha256",
               "allocation_weight"]
              [
                ("arm_id", text 1 120),
                ("development_attestation_id", text 1 240),
                ("development_attestation_sha256", sha256Text),
                ("consumer_compatibility_class",
                  oneOfTexts ["compatible", "needs_review", "incompatible"]),
                ("capability_identity", capabilityIdentity),
                ("configuration_fingerprint", sha256Text),
                ("environment_fingerprint", sha256Text),
                ("data_fingerprint", sha256Text),
                ("consumer_impact_manifest_sha256", sha256Text),
                ("allocation_weight",
                  .allOf [.type [.number], .exclusiveMinimum (.int 0),
                     .maximum (.int 1)])])]),
      ("cohort",
        object
          ["definition_hash", "case_manifest_ref", "population", "holdout",
           "randomization_method"]
          [
            ("definition_hash", sha256Text),
            ("case_manifest_ref", objectRef),
            ("population", integerFrom 1),
            ("holdout", .type [.boolean]),
            ("randomization_method", text 1 500),
            ("exclusion_hash", optionalSha256Text)]),
      ("metric_definitions",
        .allOf [
          .type [.array],
          .minItems 1,
          .maxItems 100,
          .items
            (object
              ["metric_id", "direction", "denominator_definition",
               "quality_gate"]
              [
                ("metric_id", text 1 120),
                ("direction",
                  oneOfTexts ["increase", "decrease", "within_range"]),
                ("denominator_definition", text 1 500),
                ("quality_gate", text 1 500)])]),
      ("validation_design",
        object
          ["power", "minimum_detectable_effect", "minimum_sample_size",
           "stopping_rule", "multiplicity_control",
           "holdout_policy", "leakage_guard",
           "missing_data_policy", "sequential_look_schedule",
           "evaluator_calibration", "evaluator_drift_threshold",
           "adjudication_policy"]
          [
            ("power",
              .allOf [.type [.number], .minimum (.float false 8 (-1)),
                 .maximum (.int 1)]),
            ("minimum_detectable_effect",
              .allOf [.type [.number], .exclusiveMinimum (.int 0)]),
            ("minimum_sample_size", integerFrom 2),
            ("stopping_rule", text 1 500),
            ("multiplicity_control", text 1 200),
            ("holdout_policy", text 1 500),
            ("leakage_guard", text 1 500),
            ("missing_data_policy", text 1 500),
            ("sequential_look_schedule",
              .allOf [
                .type [.array],
                .minItems 1,
                .uniqueItems,
                .items (integerFrom 1)]),
            ("evaluator_calibration", text 1 500),
            ("evaluator_drift_threshold",
              .allOf [.type [.number], .minimum (.int 0)]),
            ("adjudication_policy", text 1 500)]),
      ("evaluator",
        object
          ["evaluator_id", "version", "contract_hash"]
          [
            ("evaluator_id", text 1 200),
            ("version", text 1 100),
            ("contract_hash", sha256Text)]),
      ("evidence_frontier",
        object
          ["last_observation_sequence", "frontier_hash"]
          [
            ("last_observation_sequence", integerFrom 0),
            ("frontier_hash", sha256Text)]),
      ("promotion_policy",
        object
          ["required_gates", "approval_policy_id"]
          [
            ("required_gates",
              .allOf [
                .type [.array],
                .minItems 1,
                .uniqueItems,
                .items (text 1 120)]),
            ("approval_policy_id", text 1 200)]),
      ("observation_window", observationWindow),
      ("budget",
        object
          ["max_observations", "max_evaluation_attempts"]
          [
            ("max_observations", integerFrom 1),
            ("max_evaluation_attempts", integerFrom 1),
            ("max_cost", .allOf [.type [.number, .null], .minimum (.int 0)])]),
      ("release_target",
        object
          ["arm_id", "owner_id", "target_revision", "target_sha256"]
          [
            ("arm_id", text 1 120),
            ("owner_id", text 1 200),
            ("target_revision", text 1 200),
            ("target_sha256", sha256Text)]),
      ("definition_sha256", sha256Text),
      ("created_at", dateTime),
      ("admitted_at", .type [.string, .null])]

def outcomeObservation : Schema :=
  .allOf [
    (object
      ["observation_id", "iteration_id", "arm_id", "case_id",
       "terminal_receipt_id", "enrollment_id", "descriptor_id",
       "capability_identity", "adapter_contract_version",
       "descriptor_sha256", "evaluator_id", "evaluator_version",
       "development_attestation_id", "development_attestation_sha256",
       "configuration_fingerprint", "environment_fingerprint",
       "data_fingerprint", "consumer_compatibility_class", "metric_id",
       "denominator", "comparability_key", "provenance_hash", "status",
       "observed_at", "key_id", "signature"]
      [
        ("observation_id", text 1 200),
        ("iteration_id", text 1 200),
        ("arm_id", text 1 120),
        ("case_id", text 1 200),
        ("terminal_receipt_id", text 1 200),
        ("enrollment_id", text 1 200),
        ("descriptor_id", text 1 200),
        ("capability_identity", capabilityIdentity),
        ("adapter_contract_version",
          .allOf [.type [.string], .pattern semanticVersion, .maxLength 100]),
        ("descriptor_sha256", sha256Text),
        ("evaluator_id", text 1 200),
        ("evaluator_version", text 1 100),
        ("development_attestation_id", text 1 240),
        ("development_attestation_sha256", sha256Text),
        ("configuration_fingerprint", sha256Text),
        ("environment_fingerprint", sha256Text),
        ("data_fingerprint", sha256Text),
        ("consumer_compatibility_class",
          oneOfTexts ["compatible", "needs_review", "incompatible"]),
        ("metric_id", text 1 120),
        ("value", anyNumber),
        ("missing_reason", text 1 500),
        ("denominator", .allOf [.type [.number], .exclusiveMinimum (.int 0)]),
        ("unit", optionalText 80),
        ("comparability_key", text 1 240),
        ("quality_state", oneOfTexts ["valid", "invalid", "needs_review"]),
        ("provenance_hash", sha256Text),
        ("status",
          oneOfTexts ["accepted_candidate", "rejected_invalid",
             "needs_human_review"]),
        ("raw_evidence_ref", objectRefOrNull),
        ("observed_at", dateTime),
        ("key_id", text 1 200),
        ("signature", text 1 4096)]),
    .oneOf [
      .allOf [.required ["value"], .not (.required ["missing_reason"])],
      .allOf [.required ["missing_reason"], .not (.required ["value"])]]]

def evaluationReceipt : Schema :=
  object
    ["evaluation_id", "evaluation_attempt_id", "iteration_id",
     "definition_sha256", "development_attestation_set_sha256",
     "consumer_compatibility_class", "evaluator_id", "evaluator_version",
     "frontier_sequence", "frontier_hash", "comparability_fingerprint",
     "source_observation_ref", "gate_results", "decision",
     "recommendation", "evaluated_at", "key_id", "signature"]
    [
      ("evaluation_id", text 1 200),
      ("evaluation_attempt_id", text 1 200),
      ("iteration_id", text 1 200),
      ("definition_sha256", sha256Text),
      ("development_attestation_set_sha256", sha256Text),
      ("consumer_compatibility_class",
        oneOfTexts ["compatible", "needs_review", "incompatible"]),
      ("evaluator_id", text 1 200),
      ("evaluator_version", text 1 100),
      ("frontier_sequence", integerFrom 0),
      ("frontier_hash", sha256Text),
      ("comparability_fingerprint", sha256Text),
      ("source_observation_ref", objectRef),
      ("gate_results",
        .allOf [
          .type [.array],
          .minItems 1,
          .maxItems 100,
          .items
            (object
              ["gate_id", "status", "evidence_hash"]
              [
                ("gate_id", text 1 120),
                ("status",
                  oneOfTexts ["pass", "fail", "inconclusive", "needs_review"]),
                ("evidence_hash", sha256Text)])]),
      ("decision",
        oneOfTexts ["pass", "fail", "inconclusive", "needs_review"]),
      ("recommendation",
        oneOfTexts ["promote", "reject", "inconclusive", "needs_human_review"]),
      ("promotion_effect_receipt_id", .type [.null]),
      ("evaluated_at", dateTime),
      ("key_id", text 1 200),
      ("signature", text 1 4096)]

def hashReceipt : Schema :=
  object
    ["name", "sha256", "bytes"]
    [
      ("name", text 1 300),
      ("sha256", sha256Text),
      ("bytes", integerFrom 0)]

def scanReceipt : Schema :=
  object
    ["repo_id", "tree_sha", "command_argv", "scanned_at", "output_sha256",
     "output_bytes", "finding_summary"]
    [
      ("repo_id",
        oneOfTexts ["mindscape-ai-cloud", "mindscape-ai-local-core"]),
      ("tree_sha", textMatching (hexPattern 40)),
      ("command_argv", .allOf [.type [.array], .minItems 2, .items anyText]),
      ("scanned_at", dateTime),
      ("output_sha256", sha256Text),
      ("output_bytes", integerFrom 2),
      ("finding_summary",
        object
          ["critical", "high", "forbidden", "restricted", "reciprocal",
           "unknown"]
          [
            ("critical", integerFrom 0),
            ("high", integerFrom 0),
            ("forbidden", integerFrom 0),
            ("restricted", integerFrom 0),
            ("reciprocal", integerFrom 0),
            ("unknown", integerFrom 0)])]

def developmentChangeAttestation : Schema :=
  object
    ["attestation_id", "contract_id", "repositories", "build_artifacts",
     "configuration_hashes", "data_model_tool_prompt_hashes",
     "dependency_locks", "sbom_receipts", "security_license_receipts",
     "consumer_impact_receipt", "provider", "decision", "created_at",
     "signature"]
    [
      ("attestation_id", text 1 200),
      ("contract_id",
        .const (.str "mindscape.durable-product-semantic-workflow.v1")),
      ("repositories",
        .allOf [
          .type [.array],
          .minItems 2,
          .maxItems 2,
          .items
            (object
              ["repo_id", "commit_sha", "tree_sha", "dirty"]
              [
                ("repo_id",
                  oneOfTexts ["mindscape-ai-cloud", "mindscape-ai-local-core"]),
                ("commit_sha", textMatching (hexPattern 40)),
                ("tree_sha", textMatching (hexPattern 40)),
                ("dirty", .const (.bool false))])]),
      ("build_artifacts",
        .allOf [.type [.array], .minItems 1, .items hashReceipt]),
      ("configuration_hashes",
        .allOf [.type [.array], .minItems 1, .items hashReceipt]),
      ("data_model_tool_prompt_hashes",
        .allOf [.type [.array], .items hashReceipt]),
      ("dependency_locks",
        .allOf [.type [.array], .minItems 1, .items hashReceipt]),
      ("sbom_receipts",
        .allOf [.type [.array], .minItems 2, .items scanReceipt]),
      ("security_license_receipts",
        .allOf [.type [.array], .minItems 2, .items scanReceipt]),
      ("consumer_impact_receipt", hashReceipt),
      ("provider",
        object
          ["provider_id", "image_digest", "source_commit", "database_digest",
           "commands"]
          [
            ("provider_id", .const (.str "aquasecurity.trivy.fs.v0.72.0")),
            ("image_digest",
              .const (.str "sha256:cffe3f5161a47a6823fbd23d985795b3ed72a4c806da4c4df16266c02accdd6f")),
            ("source_commit",
              .const (.str "8a32853686209a428179bb3a1688802b25691564")),
            ("database_digest", textMatching imageDigest),
            ("commands",
              .allOf [
                .type [.array],
                .minItems 2,
                .maxItems 2,
                .items (.allOf [.type [.array], .minItems 2, .items anyText])])]),
      ("decision", oneOfTexts ["admitted", "blocked", "needs_human_review"]),
      ("exceptions",
        .allOf [
          .type [.array],
          .items
            (object
              ["finding_id", "expires_at", "approver", "signature"]
              [
                ("finding_id", text 1 240),
                ("expires_at", dateTime),
                ("approver", text 1 200),
                ("signature", text 1 4096)])]),
      ("created_at", dateTime),
      ("signature", text 1 4096)]

def measurement : Schema :=
  object
    ["definition_hash", "value", "threshold", "status"]
    [
      ("definition_hash", sha256Text),
      ("value", anyNumber),
      ("threshold", anyNumber),
      ("status", oneOfTexts ["pass", "fail", "inconclusive"])]

def releaseHealthReceipt : Schema :=
  .allOf [
    (object
      ["receipt_id", "release_workflow_id", "release_id",
       "candidate_attestation_id", "window", "slo", "error_budget",
       "quality", "safety", "resource", "drift", "incident_refs",
       "decision", "recorded_at", "signature"]
      [
        ("receipt_id", text 1 200),
        ("release_workflow_id", text 1 200),
        ("release_id", text 1 200),
        ("candidate_attestation_id", text 1 200),
        ("window",
          object
            ["started_at", "ended_at", "cohort_hash"]
            [
              ("started_at", dateTime),
              ("ended_at", dateTime),
              ("cohort_hash", sha256Text)]),
        ("slo", measurement),
        ("error_budget", measurement),
        ("quality", measurement),
        ("safety", measurement),
        ("resource", measurement),
        ("drift", measurement),
        ("incident_refs",
          .allOf [.type [.array], .uniqueItems, .items (text 1 240)]),
        ("decision",
          oneOfTexts ["healthy", "degraded", "rollback_required",
             "rolled_back"]),
        ("rollback_approval_id", optionalText 200),
        ("rollback_effect_receipt_id", optionalText 200),
        ("recorded_at", dateTime),
        ("signature", text 1 4096)]),
    .ifThenElse
      (.property "decision" (oneOfTexts ["rollback_required", "rolled_back"]))
      (.required ["rollback_approval_id"])
      (.allOf []),
    .ifThenElse
      (.property "decision" (.const (.str "rolled_back")))
      (.required ["rollback_effect_receipt_id"])
      (.allOf [])]

def evidenceLifecycleManifest : Schema :=
  object
    ["manifest_id", "workflow_id", "evidence_class", "content_hash",
     "retention_policy_id", "retention_until", "privacy_classification",
     "archive_policy", "legal_hold", "redaction_policy",
     "erasure_policy", "crypto_shredding_policy", "purge_policy",
     "tombstone_policy", "reconciliation_state", "created_at",
     "signature"]
    [
      ("manifest_id", text 1 200),
      ("workflow_id", text 1 200),
      ("evidence_class", text 1 120),
      ("content_hash", sha256Text),
      ("object_ref", objectRefOrNull),
      ("retention_policy_id", text 1 200),
      ("retention_until", dateTime),
      ("privacy_classification",
        oneOfTexts ["public", "internal", "confidential", "restricted"]),
      ("archive_policy", text 1 500),
      ("legal_hold", .type [.boolean]),
      ("redaction_policy", text 1 500),
      ("erasure_policy", text 1 500),
      ("crypto_shredding_policy", text 1 500),
      ("purge_policy", text 1 500),
      ("tombstone_policy", text 1 500),
      ("lifecycle_action",
        oneOfTexts ["registered", "archived", "redacted", "erased",
           "crypto_shredded", "purged", "tombstoned"]),
      ("action_receipt_ref", optionalText 240),
      ("reconciliation_state", oneOfTexts ["pending", "verified", "failed"]),
      ("created_at", dateTime),
      ("signature", text 1 4096)]

/-- `load_schema`, over the schemas that the facade names. -/
def contracts : List (String × Schema) := [
  ("semantic_execution_identity", semanticExecutionIdentity),
  ("workflow_event", workflowEvent),
  ("checkpoint", checkpoint),
  ("approval", approval),
  ("side_effect_receipt", sideEffectReceipt),
  ("replay_envelope", replayEnvelope),
  ("execution_terminal_receipt", executionTerminalReceipt),
  ("outcome_adapter_descriptor", outcomeAdapterDescriptor),
  ("iteration_enrollment", iterationEnrollment),
  ("product_iteration", productIteration),
  ("outcome_observation", outcomeObservation),
  ("evaluation_receipt", evaluationReceipt),
  ("development_change_attestation", developmentChangeAttestation),
  ("release_health_receipt", releaseHealthReceipt),
  ("evidence_lifecycle_manifest", evidenceLifecycleManifest)]

def validateContract (name : String) (payload : Dict) : Check Unit :=
  match contracts.lookup name with
  | none => .error (.contractValidation name)
  | some schema =>
      require (schema.valid (.obj payload) = true) (.contractValidation name)

def receiptSchemas : List String := [
  "development_change_attestation",
  "evaluation_receipt",
  "evidence_lifecycle_manifest",
  "execution_terminal_receipt",
  "iteration_enrollment",
  "outcome_adapter_descriptor",
  "outcome_observation",
  "product_iteration",
  "release_health_receipt",
  "replay_envelope",
  "side_effect_receipt"]

def validateTypedReceipt (receiptType : String) (receipt : Dict) : Check Unit := do
  ensure (receiptType ∈ receiptSchemas) ("unknown typed receipt: " ++ receiptType)
  validateContract receiptType receipt

end MindscapeLocalCore.DurableState.Contracts
