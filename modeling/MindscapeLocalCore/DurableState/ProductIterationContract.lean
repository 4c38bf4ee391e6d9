import MindscapeLocalCore.DurableState.Contracts
import MindscapeLocalCore.DurableState.CanonicalJson

/-!
Pure validation helpers for the product-iteration aggregate.
-/

namespace MindscapeLocalCore.DurableState.ProductIterationContract

open Library Library.Json CanonicalJson Contracts Errors

def promotionGateOrder : List String :=
  ["development_attestation_consumer", "validation_evaluator_validity",
    "observation_cohort_coverage", "quality_correctness",
    "safety_rights_policy", "baseline_comparability_non_regression",
    "efficiency_cost"]

def eraseAll (d : Dict) (keys : List String) : Dict := keys.foldl Dict.erase d

def productIterationDefinitionSha256 (world : World) (definition : Dict) :
    Check String :=
  sha256Hex world (.obj (eraseAll definition
    ["state", "evidence_frontier", "admitted_at", "definition_sha256"]))

def immutableDefinition (definition : Dict) : Dict :=
  eraseAll definition ["state", "evidence_frontier", "admitted_at"]

/-- `next((item for item in items if item[k] == value), None)` -/
def findItem (k : String) (value : Json) : List Json → Check (Option Dict)
  | [] => .ok none
  | entry :: rest => do
      let members ← asDict entry
      let found ← item members k
      if found.pyEq value then pure (some members) else findItem k value rest

def caseManifestSha256 (definition : Dict) : Check Json := do
  let cohort ← dictItem definition "cohort"
  let manifest ← dictItem cohort "case_manifest_ref"
  item manifest "sha256"

/-- The `repr` of an identifier. -/
def quoted : Json → String
  | .str value => "'" ++ value ++ "'"
  | value => JsonText.render canonical value

def notDefined (what : String) (id : Json) : Rejection :=
  .valueError ("iteration " ++ what ++ " " ++ quoted id ++ " is not defined")

def comparabilityKey (world : World) (definition : Dict) (metricId : Json) :
    Check String := do
  let metrics ← item definition "metric_definitions" >>= asList
  match ← findItem "metric_id" metricId metrics with
  | none => .error (notDefined "metric" metricId)
  | some metric => do
      let cohort ← dictItem definition "cohort"
      let cohortHash ← item cohort "definition_hash"
      let manifest ← caseManifestSha256 definition
      let denominator ← item metric "denominator_definition"
      let evaluator ← item definition "evaluator"
      sha256Hex world (.obj [("case_manifest_sha256", manifest),
        ("cohort_definition_hash", cohortHash),
        ("denominator_definition", denominator), ("evaluator", evaluator),
        ("metric_id", metricId)])

def promotionRequestHash (world : World) (definition evaluation : Dict) :
    Check String := do
  let iterationId ← item definition "iteration_id"
  let definitionHash ← item definition "definition_sha256"
  let evaluationId ← item evaluation "evaluation_id"
  let frontierHash ← item evaluation "frontier_hash"
  let attestations ← item evaluation "development_attestation_set_sha256"
  let target ← item definition "release_target"
  sha256Hex world (.obj [("definition_sha256", definitionHash),
    ("development_attestation_set_sha256", attestations),
    ("evaluation_id", evaluationId), ("frontier_hash", frontierHash),
    ("iteration_id", iterationId), ("release_target", target)])

/-- `item[k] for item in items` -/
def column (k : String) : List Json → Check (List Json)
  | [] => .ok []
  | entry :: rest => do
      let members ← asDict entry
      let value ← item members k
      let values ← column k rest
      pure (value :: values)

def asNumber : Json → Check Number
  | .num value => .ok value
  | .bool value => .ok (.int (if value then 1 else 0))
  | _ => .error .typeError

def addNumbers (a b : Number) : Number :=
  let e := min a.exponent b.exponent
  let total := a.scaledTo e + b.scaledTo e
  .float (decide (total < 0)) total.natAbs e

/-- Whether `abs(sum(weights) - 1.0) > 1e-9`, without the rounding of a float
sum, which is below `1e-12`. -/
def weightsMiss (weights : List Number) : Bool :=
  let total := weights.foldl addNumbers (.int 0)
  !(total.valueLe (.float false 1000000001 (-9)) &&
    (Number.float false 999999999 (-9)).valueLe total)

def arms (definition : Dict) : Check (List Json) :=
  item definition "arms" >>= asList

def requireDefinition (world : World) (definition : Dict) (state : String) :
    Check Unit := do
  validateContract "product_iteration" definition
  let definitionState ← item definition "state"
  ensure (definitionState.pyEq (.str state))
    ("iteration definition must be " ++ state)
  let claimed ← item definition "definition_sha256"
  let computed ← productIterationDefinitionSha256 world definition
  ensure (claimed.pyEq (.str computed))
    "iteration definition canonical hash mismatch"
  let arms ← arms definition
  let armIds ← column "arm_id" arms
  ensure (JsonSchema.distinctItems armIds) "iteration arm IDs must be unique"
  let target ← dictItem definition "release_target"
  let targetArm ← item target "arm_id"
  ensure (armIds.any targetArm.pyEq) "release target must pin one declared arm"
  let weights ← column "allocation_weight" arms
  let weights ← weights.mapM asNumber
  ensure (weightsMiss weights = false)
    "iteration allocation weights must sum to one"

def verifySigned (world : World) (verificationKeys : String → Option ByteArray)
    (payload : Dict) : Check Unit := do
  let keyId ← textItem payload "key_id"
  match verificationKeys keyId with
  | none => .error (.valueError "signed upper receipt key is unavailable")
  | some publicKey => do
      let signed ← encode (.obj (payload.erase "signature"))
      let signature ← textItem payload "signature"
      ensure (world.ed25519Verify publicKey signed signature)
        "signed upper receipt is invalid"

def arm (definition : Dict) (armId : Json) : Check Dict := do
  let arms ← arms definition
  match ← findItem "arm_id" armId arms with
  | none => .error (notDefined "arm" armId)
  | some selected => pure selected

def enrollmentExpectation (definition selectedArm : Dict) :
    Check (List (String × Json)) := do
  let armFields ← fields selectedArm
    ["capability_identity", "development_attestation_id",
      "development_attestation_sha256", "consumer_compatibility_class",
      "configuration_fingerprint", "environment_fingerprint",
      "data_fingerprint"]
  let manifest ← caseManifestSha256 definition
  let evaluator ← dictItem definition "evaluator"
  let version ← item evaluator "version"
  let contractHash ← item evaluator "contract_hash"
  let window ← item definition "observation_window"
  pure (armFields ++ [("cohort_manifest_sha256", manifest),
    ("evaluator_version", version), ("evaluator_contract_sha256", contractHash),
    ("observation_window", window)])

def requireEnrollmentParity (definition selectedArm enrollment : Dict) :
    Check Unit := do
  let expected ← enrollmentExpectation definition selectedArm
  match firstMismatch enrollment expected with
  | some field =>
      .error (.valueError ("iteration enrollment " ++ field ++ " mismatch"))
  | none => do
      let compatibility ← item enrollment "consumer_compatibility_class"
      ensure (compatibility.pyEq (.str "compatible"))
        "iteration enrollment is not compatible"

def observationExpectation (definition selectedArm enrollment : Dict) :
    Check (List (String × Json)) := do
  let iteration ← fields definition ["iteration_id"]
  let armId ← fields selectedArm ["arm_id"]
  let enrolled ← fields enrollment
    ["enrollment_id", "terminal_receipt_id", "case_id"]
  let capability ← fields selectedArm ["capability_identity"]
  let adapter ← fields enrollment
    ["adapter_contract_version", "descriptor_sha256"]
  let evaluator ← dictItem definition "evaluator"
  let evaluatorId ← item evaluator "evaluator_id"
  let version ← item evaluator "version"
  let attestation ← fields selectedArm
    ["development_attestation_id", "development_attestation_sha256"]
  let fingerprints ← fields selectedArm
    ["configuration_fingerprint", "environment_fingerprint",
      "data_fingerprint"]
  pure (iteration ++ armId ++ enrolled ++ capability ++ adapter ++
    [("evaluator_id", evaluatorId), ("evaluator_version", version)] ++
    attestation ++ [("consumer_compatibility_class", .str "compatible")] ++
    fingerprints)

/-- `except ValueError` -/
def isValueError : Rejection → Bool
  | .valueError _ => true
  | .canonicalPayload => true
  | .contractValidation _ => true
  | .invalidTransition _ _ _ => true
  | _ => false

def observationRejection (world : World)
    (state definition selectedArm enrollment observation : Dict) :
    Check (Option String) :=
  match requireEnrollmentParity definition selectedArm enrollment with
  | .error e =>
      if isValueError e then .ok (some "enrollment_definition_mismatch")
      else .error e
  | .ok _ => do
      let expected ← observationExpectation definition selectedArm enrollment
      match firstMismatch observation expected with
      | some field => pure (some (field ++ "_mismatch"))
      | none => do
          let claimed ← item observation "comparability_key"
          let metricId ← item observation "metric_id"
          let key ← comparabilityKey world definition metricId
          if !claimed.pyEq (.str key) then pure (some "comparability_key_mismatch")
          else do
            let observationId ← item observation "observation_id"
            let accepted ← asList
              ((state.get? "accepted_observation_ids").getD (.arr []))
            if accepted.any observationId.pyEq then
              pure (some "duplicate_observation")
            else if Json.pyEqOption (observation.get? "status")
                  (some (.str "accepted_candidate")) &&
                Json.pyEqOption (observation.get? "quality_state")
                  (some (.str "valid")) then
              pure none
            else pure (some "observation_not_valid")

/-- Python's `<` on strings, by code points. -/
def textLe (a b : String) : Bool := decide (a ≤ b)

def evaluationExpectation (world : World) (state definition : Dict) :
    Check (List (String × Json)) := do
  let arms ← arms definition
  let attestations ← column "development_attestation_sha256" arms
  let attestations ← attestations.mapM asText
  let attestationSet ← sha256Hex world
    (.arr ((attestations.mergeSort textLe).map Json.str))
  let own ← fields definition ["iteration_id", "definition_sha256"]
  let evaluator ← dictItem definition "evaluator"
  let evaluatorId ← item evaluator "evaluator_id"
  let version ← item evaluator "version"
  let frontier ← dictItem state "evidence_frontier"
  let frontierSequence ← item frontier "last_observation_sequence"
  let frontierHash ← item frontier "frontier_hash"
  pure (own ++ [("development_attestation_set_sha256", .str attestationSet),
    ("consumer_compatibility_class", .str "compatible"),
    ("evaluator_id", evaluatorId), ("evaluator_version", version),
    ("frontier_sequence", frontierSequence), ("frontier_hash", frontierHash)])

def requireEvaluationParity (world : World) (state definition evaluation : Dict) :
    Check Unit := do
  let expected ← evaluationExpectation world state definition
  match firstMismatch evaluation expected with
  | some field =>
      .error (.valueError ("iteration evaluation " ++ field ++ " mismatch"))
  | none => do
      let results ← item evaluation "gate_results" >>= asList
      let gateIds ← column "gate_id" results
      ensure (Json.pyEq (.arr gateIds) (.arr (promotionGateOrder.map Json.str)))
        "iteration evaluation gate order is invalid"
      let recommendation ← item evaluation "recommendation"
      if recommendation.pyEq (.str "promote") then do
        let decision ← item evaluation "decision"
        let statuses ← column "status" results
        ensure (decision.pyEq (.str "pass") &&
            statuses.all fun status => status.pyEq (.str "pass"))
          "promotion requires every mandatory gate to pass"
      else pure ()

end MindscapeLocalCore.DurableState.ProductIterationContract
