import MindscapeLocalCore.DurableState.Samples

/-!
Documents of a product iteration that every contract accepts, signed by the test signer.
-/

namespace MindscapeLocalCore.DurableState.IterationDocuments

open Library Library.Guarded Library.Json Library.JsonSchema Library.JsonText
open CanonicalJson Contracts Errors ProductIterationContract Progress Samples

/-! ## Signatures -/

theorem escapeChar_base64Digit (n : Nat) (h : n < 64) :
    escapeChar (base64Digit n) = [base64Digit n] ∧ (base64Digit n).utf8Size = 1 := by
  interval_cases n <;> decide

theorem quoteSize_base64Url (signature : BitVec 512) :
    quoteSize (base64Url signature) = 88 := by
  have hdigits : ∀ digits : List Nat, (∀ n ∈ digits, n < 64) →
      String.utf8Len ((digits.map base64Digit).flatMap escapeChar) = digits.length := by
    intro digits hlt
    induction digits with
    | nil => rfl
    | cons n digits ih =>
        obtain ⟨hescape, hsize⟩ := escapeChar_base64Digit n (hlt n (by simp))
        have hrest := ih fun m hm => hlt m (by simp [hm])
        simp only [List.map_cons, List.flatMap_cons, hescape, List.singleton_append,
          String.utf8Len_cons, hsize, List.length_cons, hrest]
  have hlist : (List.range 86).map (fun i =>
        base64Digit (signature.toNat * 16 / 64 ^ (85 - i) % 64)) =
      ((List.range 86).map fun i =>
        signature.toNat * 16 / 64 ^ (85 - i) % 64).map base64Digit := by
    rw [List.map_map]
    rfl
  rw [quoteSize, base64Url, String.toList_ofList, hlist, hdigits]
  · simp
  · intro n hn
    obtain ⟨i, -, rfl⟩ := List.mem_map.mp hn
    exact Nat.mod_lt _ (by decide)

def signerKey : String := testSigner.keyId testWorld

theorem quoteSize_signerKey : quoteSize signerKey = 74 := by
  have hscheme : quoteSize "ed25519:" = 10 := by decide
  have hdigest := quoteSize_hexdigest (testWorld.sha256 testSigner.publicKey)
  have happend := quoteSize_append "ed25519:"
    (hexdigest (testWorld.sha256 testSigner.publicKey))
  change quoteSize ("ed25519:" ++ _) = 74
  omega

theorem length_signerKey : signerKey.length = 72 := by
  have hscheme : ("ed25519:" : String).length = 8 := by decide
  change ("ed25519:" ++ hexdigest (testWorld.sha256 testSigner.publicKey)).length = 72
  rw [String.length_append, hscheme]
  simp [hexdigest, Hex.length_hexText]

def signed (doc : Dict) : Dict :=
  doc.set "signature"
    (.str (testSigner.signature (JsonText.render canonical (.obj doc)).toUTF8))

theorem valid_text {s : String} {least most : Nat} (hleast : least ≤ s.length)
    (hmost : s.length ≤ most) : (text least most).valid (.str s) = true := by
  simp [text, Schema.valid, allValid, JsonType.admits, onString, hleast, hmost]

theorem valid_signature (bytes : ByteArray) :
    (text 1 4096).valid (.str (testSigner.signature bytes)) = true := by
  have hlength : (testSigner.signature bytes).length = 86 := length_base64Url _
  exact valid_text (by omega) (by omega)

theorem valid_signerKey : (text 1 200).valid (.str signerKey) = true := by
  have hlength := length_signerKey
  exact valid_text (by omega) (by omega)

theorem validateContract_update {name : String} {mandatory : List String}
    {properties : List (String × Schema)}
    (hname : contracts.lookup name = some (object mandatory properties))
    (hnodup : (properties.map Prod.fst).Nodup) {d : Dict}
    (hd : validateContract name d = .ok ()) {new : Dict}
    (hnew : ∀ kv ∈ new, ∃ schema, properties.lookup kv.1 = some schema ∧
      schema.valid kv.2 = true) :
    validateContract name (d.update new) = .ok () := by
  simp only [validateContract, hname, require_eq_ok] at hd ⊢
  exact valid_object_update hnodup hd hnew

/-! ## Definitions -/

def candidate : Dict :=
  [("allocation_weight", Json.nat 1), ("arm_id", .str "candidate"),
    ("capability_identity", .obj capability), ("configuration_fingerprint", .str zeros),
    ("consumer_compatibility_class", .str "compatible"),
    ("consumer_impact_manifest_sha256", .str zeros), ("data_fingerprint", .str zeros),
    ("development_attestation_id", .str "attestation:test"),
    ("development_attestation_sha256", .str zeros), ("environment_fingerprint", .str zeros)]

def caseManifest : Dict :=
  [("bytes", Json.nat 1), ("schema_id", .str "cohort.v1"), ("sha256", .str zeros),
    ("uri", .str "object://cohort/test")]

def cohort : Dict :=
  [("case_manifest_ref", .obj caseManifest), ("definition_hash", .str zeros),
    ("holdout", .bool true), ("population", Json.nat 2),
    ("randomization_method", .str "stratified assignment")]

def quality : Dict :=
  [("denominator_definition", .str "enrolled cases"), ("direction", .str "increase"),
    ("metric_id", .str "quality"), ("quality_gate", .str "valid observations")]

def validationDesign (minimum : Nat) : Dict :=
  [("adjudication_policy", .str "two owners"), ("evaluator_calibration", .str "gold set"),
    ("evaluator_drift_threshold", .num (.float false 5 (-2))),
    ("holdout_policy", .str "immutable"), ("leakage_guard", .str "partition"),
    ("minimum_detectable_effect", .num (.float false 1 (-1))),
    ("minimum_sample_size", Json.nat minimum), ("missing_data_policy", .str "explicit"),
    ("multiplicity_control", .str "holm"), ("power", .num (.float false 8 (-1))),
    ("sequential_look_schedule", .arr [Json.nat 2]), ("stopping_rule", .str "fixed sample")]

def evaluator : Dict :=
  [("contract_hash", .str zeros), ("evaluator_id", .str "evaluator:test"),
    ("version", .str "evaluator.v1")]

def startFrontier : Dict :=
  [("frontier_hash", .str zeros), ("last_observation_sequence", Json.nat 0)]

def window : Dict :=
  [("ends_at", .str nextDay), ("starts_at", .str moment)]

def budget : Dict :=
  [("max_evaluation_attempts", Json.nat 1), ("max_observations", Json.nat 2)]

def releaseTarget : Dict :=
  [("arm_id", .str "candidate"), ("owner_id", .str "release-owner:test"),
    ("target_revision", .str "revision:test"), ("target_sha256", .str zeros)]

def definitionWith (minimum : Nat) (digest state : String) : Dict :=
  [("arms", .arr [.obj candidate]), ("budget", .obj budget), ("cohort", .obj cohort),
    ("created_at", .str moment), ("definition_sha256", .str digest),
    ("evaluator", .obj evaluator), ("evidence_frontier", .obj startFrontier),
    ("iteration_id", .str "workflow:test"), ("metric_definitions", .arr [.obj quality]),
    ("objective", .str "Improve an outcome."), ("observation_window", .obj window),
    ("parent_iteration_id", .null),
    ("promotion_policy", .obj
      [("approval_policy_id", .str "policy:test"),
        ("required_gates", .arr (promotionGateOrder.map Json.str))]),
    ("release_target", .obj releaseTarget), ("revision", Json.nat 1), ("state", .str state),
    ("validation_design", .obj (validationDesign minimum)),
    ("workspace_id", .str "workspace:test")]

theorem definitionWith_isValid {minimum : Nat} {digest state : String}
    (hcase : (minimum = 2 ∧ (state = "draft" ∨ state = "admitted")) ∨
      (minimum = 3 ∧ state = "admitted")) (hdigest : IsDigest digest) :
    validateContract "product_iteration" (definitionWith minimum digest state) = .ok () := by
  have hset : definitionWith minimum digest state =
      (definitionWith 2 zeros "draft").update [("definition_sha256", .str digest),
        ("state", .str state), ("validation_design", .obj (validationDesign minimum))] := by
    simp only [Dict.update, List.foldl_cons, List.foldl_nil]
    rfl
  have hbase : validateContract "product_iteration" (definitionWith 2 zeros "draft") =
      .ok () := require_of (by decide)
  rw [hset]
  refine validateContract_update rfl (by decide) hbase ?_
  simp only [List.forall_mem_cons, List.not_mem_nil, false_imp_iff, implies_true, and_true]
  refine ⟨⟨_, rfl, sha256Text_of_isDigest hdigest⟩, ⟨_, rfl, ?_⟩, ⟨_, rfl, ?_⟩⟩
  · rcases hcase with ⟨-, rfl | rfl⟩ | ⟨-, rfl⟩ <;> decide
  · rcases hcase with ⟨rfl, -⟩ | ⟨rfl, -⟩ <;> decide

theorem size_definitionWith {minimum : Nat} {digest state : String}
    (hcase : (minimum = 2 ∧ (state = "draft" ∨ state = "admitted")) ∨
      (minimum = 3 ∧ state = "admitted")) (hdigest : IsDigest digest) :
    size canonical (.obj (definitionWith minimum digest state)) ≤ 3200 ∧
      size jsonbStyle (.obj (definitionWith minimum digest state)) ≤ 3200 := by
  have hset : definitionWith minimum digest state =
      (definitionWith minimum zeros state).set "definition_sha256" (.str digest) := rfl
  have hbase : size canonical (.obj (definitionWith minimum zeros state)) ≤ 3060 ∧
      size jsonbStyle (.obj (definitionWith minimum zeros state)) ≤ 3060 := by
    rw [← byteSize_eq, ← byteSize_eq]
    rcases hcase with ⟨rfl, rfl | rfl⟩ | ⟨rfl, rfl⟩ <;> decide
  have hkey : quoteSize "definition_sha256" = 19 := by decide
  have hseparators : canonical.itemSeparator.utf8ByteSize = 1 ∧
      canonical.keySeparator.utf8ByteSize = 1 ∧
      jsonbStyle.itemSeparator.utf8ByteSize = 2 ∧
      jsonbStyle.keySeparator.utf8ByteSize = 2 := by decide
  have hvalue : ∀ st : Style, size st (.str digest) = 66 := fun _ =>
    quoteSize_of_isDigest hdigest
  have hcanonical := size_set_le canonical (definitionWith minimum zeros state)
    "definition_sha256" (.str digest)
  have hjsonb := size_set_le jsonbStyle (definitionWith minimum zeros state)
    "definition_sha256" (.str digest)
  rw [hset]
  simp only [hkey, hseparators, hvalue] at hcanonical hjsonb
  omega

def definitionDigest : String :=
  hexdigest (testWorld.sha256 (JsonText.render canonical (.obj (eraseAll
    (definitionWith 2 zeros "draft")
    ["state", "evidence_frontier", "admitted_at", "definition_sha256"]))).toUTF8)

theorem isDigest_definitionDigest : IsDigest definitionDigest := ⟨_, rfl⟩

def definition (state : String) : Dict := definitionWith 2 definitionDigest state

theorem definitionSha256_definition (state : String) :
    productIterationDefinitionSha256 testWorld (definition state) = .ok definitionDigest := by
  have hcore : ∀ digest, eraseAll (definitionWith 2 digest state)
      ["state", "evidence_frontier", "admitted_at", "definition_sha256"] =
      eraseAll (definitionWith 2 zeros "draft")
        ["state", "evidence_frontier", "admitted_at", "definition_sha256"] := fun _ => rfl
  rw [productIterationDefinitionSha256, definition, hcore, sha256Hex_eq_ok]
  refine ⟨?_, rfl⟩
  rw [← byteSize_eq]
  decide

theorem requireDefinition_definition {state : String}
    (hstate : state = "draft" ∨ state = "admitted") :
    requireDefinition testWorld (definition state) state = .ok () := by
  have hvalid : validateContract "product_iteration" (definition state) = .ok () :=
    definitionWith_isValid (.inl ⟨rfl, hstate⟩) isDigest_definitionDigest
  have hown : item (definition state) "state" = .ok (.str state) := rfl
  have hclaimed : item (definition state) "definition_sha256" =
      .ok (.str definitionDigest) := rfl
  have harms : arms (definition state) = .ok [.obj candidate] := rfl
  have hids : column "arm_id" [.obj candidate] = .ok [.str "candidate"] := rfl
  have hdistinct : JsonSchema.distinctItems [.str "candidate"] = true := rfl
  have htarget : dictItem (definition state) "release_target" = .ok releaseTarget := rfl
  have htargetArm : item releaseTarget "arm_id" = .ok (.str "candidate") := rfl
  have hpinned : [Json.str "candidate"].any (Json.str "candidate").pyEq = true := by simp
  have hweights : column "allocation_weight" [.obj candidate] = .ok [Json.nat 1] := rfl
  have hnumbers : [Json.nat 1].mapM asNumber = .ok [.int 1] := rfl
  have hsum : weightsMiss [.int 1] = false := by decide
  rw [requireDefinition, hvalid, ok_bind, hown, ok_bind, ensure_of (Json.pyEq_refl _), ok_bind,
    hclaimed, ok_bind, definitionSha256_definition, ok_bind, ensure_of (Json.pyEq_refl _),
    ok_bind, harms, ok_bind, hids, ok_bind, ensure_of hdistinct, ok_bind, htarget, ok_bind,
    htargetArm, ok_bind, ensure_of hpinned, ok_bind, hweights, ok_bind, hnumbers, ok_bind]
  exact ensure_of hsum

/-! ## Observations -/

theorem separators : canonical.itemSeparator.utf8ByteSize = 1 ∧
    canonical.keySeparator.utf8ByteSize = 1 ∧ jsonbStyle.itemSeparator.utf8ByteSize = 2 ∧
    jsonbStyle.keySeparator.utf8ByteSize = 2 := by
  decide

/-- A document of at most `b` bytes in both styles. -/
def Within (b : Nat) (value : Json) : Prop :=
  size canonical value ≤ b ∧ size jsonbStyle value ≤ b

theorem within_mono {b c : Nat} {value : Json} (h : Within b value) (hle : b ≤ c) :
    Within c value := ⟨h.1.trans hle, h.2.trans hle⟩

theorem within_set {b c : Nat} {d : Dict} {k : String} {v : Json} (hd : Within b (.obj d))
    (hv : Within c v) : Within (b + c + quoteSize k + 4) (.obj (d.set k v)) := by
  have hcanonical := size_set_le canonical d k v
  have hjsonb := size_set_le jsonbStyle d k v
  obtain ⟨hitem, hkey, hitem', hkey'⟩ := separators
  obtain ⟨hdc, hdj⟩ := hd
  obtain ⟨hvc, hvj⟩ := hv
  constructor <;> omega

theorem within_single {c : Nat} {k : String} {v : Json} (hv : Within c v) :
    Within (c + quoteSize k + 4) (.obj [(k, v)]) := by
  obtain ⟨-, hkey, -, hkey'⟩ := separators
  obtain ⟨hcanonical, hjsonb⟩ := hv
  constructor <;>
  · simp only [size, membersSize, memberSize, hkey, hkey']
    omega

theorem within_nat {n : Nat} (h : n < 10 ^ 6) : Within 24 (Json.nat n) := size_nat_le h

theorem within_str (s : String) : Within (quoteSize s) (.str s) :=
  ⟨Nat.le_refl _, Nat.le_refl _⟩

theorem within_digest {s : String} (h : IsDigest s) : Within 66 (.str s) :=
  within_mono (within_str s) (quoteSize_of_isDigest h).le

end MindscapeLocalCore.DurableState.IterationDocuments
