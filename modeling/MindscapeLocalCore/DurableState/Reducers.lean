import MindscapeLocalCore.DurableState.Records

/-!
The pure v1 reducer for compact workflow projections.
-/

namespace MindscapeLocalCore.DurableState.Reducers

open Library.Guarded Library.Json CanonicalJson Errors Records

/-- Whether a value is present and is the text `s`. -/
def isText (value : Option Json) (s : String) : Bool :=
  match value with
  | some (.str t) => t == s
  | _ => false

theorem isText_iff {value : Option Json} {s : String} :
    isText value s = true ↔ value = some (.str s) := by
  unfold isText
  split <;> simp_all

/-- The value `payload.get("typed_receipt") or {}`. -/
def typedReceipt (payload : Dict) : Check Dict :=
  match payload.get? "typed_receipt" with
  | none => .ok []
  | some value => if value.truthy then asDict value else .ok []

/-- Python's `int`, on the values that a projection can hold under a counter. -/
def toInt : Json → Check Int
  | .num (.int n) => .ok n
  | .num (.float negative digits exponent) =>
      let n := Number.float negative digits exponent
      .ok ((n.scaledTo (min exponent 0)).tdiv (10 ^ (-exponent).toNat))
  | .bool value => .ok (if value then 1 else 0)
  | _ => .error .typeError

/-- `updated[k].append(value)`, after `updated.setdefault(k, [])`. -/
def appendItem (updated : Dict) (k : String) (value : Json) : Check (List Json) := do
  let items ← asList ((updated.get? k).getD (.arr []))
  .ok (items ++ [value])

def promotionLink (payload : Dict) : Check Json := do
  let consumption ← item payload "approval_consumption_id"
  let receipt ← item payload "release_effect_receipt_id"
  let release ← item payload "release_workflow_id"
  .ok (.obj [("approval_consumption_id", consumption),
    ("release_effect_receipt_id", receipt), ("release_workflow_id", release)])

def linkPromotion (updated payload : Dict) : Check Dict :=
  if isText (payload.get? "to_state") "promoted" ∧
      ((payload.get? "release_workflow_id").getD .null).truthy then do
    let link ← promotionLink payload
    pure (updated.set "promotion_link" link)
  else .ok updated

/-- Record the definition or evaluation that a transition carries. -/
def storeReceipt (updated typed : Dict) : Check Dict :=
  if isText (typed.get? "receipt_type") "product_iteration" then do
    let receipt ← item typed "receipt"
    pure (updated.set "definition" receipt)
  else if isText (typed.get? "receipt_type") "evaluation_receipt" then do
    let receipt ← item typed "receipt"
    pure (updated.set "evaluation" receipt)
  else .ok updated

def reduceTransition (state payload : Dict) : Check Dict := do
  let current ← item state "current_state"
  let updated ← linkPromotion
    (state.set "current_state" ((payload.get? "to_state").getD current)) payload
  let typed ← typedReceipt payload
  storeReceipt updated typed

def reduceDefinition (state payload : Dict) : Check Dict := do
  let definition ← item payload "definition"
  let members ← asDict definition
  let frontier ← item members "evidence_frontier"
  pure (((((((state.set "definition" definition).set
    "evidence_frontier" frontier).set
    "enrollment_ids" (.arr [])).set
    "accepted_observation_ids" (.arr [])).set
    "accepted_observation_count" (Json.nat 0)).set
    "adapter_refs_by_arm" (.obj [])).set
    "evaluation_attempt_count" (Json.nat 0))

def adapterRef (enrollment : Dict) : Check Dict := do
  let capability ← item enrollment "capability_identity"
  let version ← item enrollment "adapter_contract_version"
  let descriptor ← item enrollment "descriptor_sha256"
  let evaluator ← item enrollment "evaluator_version"
  pure [("adapter_contract_version", version), ("capability_identity", capability),
    ("descriptor_sha256", descriptor), ("evaluator_version", evaluator),
    ("review_lens", (enrollment.get? "review_lens").getD .null)]

def reduceEnrollment (state payload : Dict) : Check Dict := do
  let enrollment ← dictItem payload "enrollment"
  let enrollmentId ← item enrollment "enrollment_id"
  let ids ← appendItem state "enrollment_ids" enrollmentId
  let arms ← asDict ((state.get? "adapter_refs_by_arm").getD (.obj []))
  let arm ← textItem enrollment "arm_id"
  let ref ← adapterRef enrollment
  pure ((state.set "enrollment_ids" (.arr ids)).set
    "adapter_refs_by_arm" (.obj (arms.set arm (.obj ref))))

def emptyFrontier : Json :=
  .obj [("frontier_hash", .str (String.ofList (List.replicate 64 '0'))),
    ("last_observation_sequence", Json.nat 0)]

def advanceFrontier (world : World) (frontier observation : Dict)
    (sequence : Nat) : Check Dict := do
  let previous ← item frontier "frontier_hash"
  let observationId ← item observation "observation_id"
  let provenance ← item observation "provenance_hash"
  let frontierHash ← sha256Hex world (.obj [("observation_id", observationId),
    ("previous_frontier_hash", previous), ("provenance_hash", provenance),
    ("sequence", Json.nat sequence)])
  pure ((frontier.set "last_observation_sequence" (Json.nat sequence)).set
    "frontier_hash" (.str frontierHash))

def reduceObservation (world : World) (state payload : Dict)
    (sequence : Nat) : Check Dict := do
  let observation ← dictItem payload "observation"
  let observationId ← item observation "observation_id"
  let ids ← appendItem state "accepted_observation_ids" observationId
  let frontier ← asDict ((state.get? "evidence_frontier").getD emptyFrontier)
  let frontier ← advanceFrontier world frontier observation sequence
  pure (((state.set "accepted_observation_ids" (.arr ids)).set
    "accepted_observation_count" (Json.nat ids.length)).set
    "evidence_frontier" (.obj frontier))

def reduceEvent (world : World) (state : Dict) (event : EventRow) : Check Dict :=
  match event.eventType with
  | .transition => reduceTransition state event.payload
  | .cancellationRequested =>
      .ok (state.set "cancellation_state" (.str "requested"))
  | .productIterationDefined => reduceDefinition state event.payload
  | .iterationEnrollmentAccepted => reduceEnrollment state event.payload
  | .outcomeObservationAccepted =>
      reduceObservation world state event.payload event.sequence
  | .productReleaseLinked => .ok (state.set "release_link" (.obj event.payload))
  | .timerRecorded | .externalMessageRecorded | .segmentRollover
  | .outcomeObservationRejected | .outcomeEvaluationIntentCreated => .ok state

def pick (receipt : Dict) : List String → Check Dict
  | [] => .ok []
  | k :: ks => do
      let value ← item receipt k
      let rest ← pick receipt ks
      pure (rest.set k value)

def releaseHealthFields : List String :=
  ["receipt_id", "release_id", "candidate_attestation_id", "window", "slo",
    "error_budget", "quality", "safety", "resource", "drift", "incident_refs",
    "decision", "recorded_at"]

def evidenceLifecycleFields : List String :=
  ["manifest_id", "evidence_class", "content_hash", "object_ref",
    "privacy_classification", "legal_hold", "lifecycle_action",
    "reconciliation_state"]

def reduceReceipt (state typed : Dict) : Check Dict :=
  if isText (typed.get? "receipt_type") "evaluation_receipt" then do
    let count ← toInt ((state.get? "evaluation_attempt_count").getD (Json.nat 0))
    pure (state.set "evaluation_attempt_count" (.num (.int (count + 1))))
  else if isText (typed.get? "receipt_type") "release_health_receipt" then do
    let receipt ← dictItem typed "receipt"
    let health ← pick receipt releaseHealthFields
    pure (state.set "release_health" (.obj health))
  else if isText (typed.get? "receipt_type") "evidence_lifecycle_manifest" then do
    let receipt ← dictItem typed "receipt"
    let lifecycle ← pick receipt evidenceLifecycleFields
    pure (state.set "evidence_lifecycle" (.obj lifecycle))
  else .ok state

def reduceV1 (world : World) (state : Dict) (event : EventRow) : Check Dict := do
  let updated ← reduceEvent world state event
  let typed ← typedReceipt event.payload
  let updated ← reduceReceipt updated typed
  pure ((updated.set "last_sequence" (Json.nat event.sequence)).set
    "last_event_hash" (.str event.eventHash))

def initialProjection (currentState cancellationState : Json)
    (lastSequence lastEventHash : Json) : Dict :=
  [("cancellation_state", cancellationState), ("current_state", currentState),
    ("last_event_hash", lastEventHash), ("last_sequence", lastSequence)]

def reduceAll (world : World) (state : Dict) (events : List EventRow) :
    Check Dict :=
  events.foldlM (reduceV1 world) state

theorem reduceAll_append_singleton (world : World) (state : Dict)
    (events : List EventRow) (event : EventRow) :
    reduceAll world state (events ++ [event]) =
      reduceAll world state events >>= fun s => reduceV1 world s event := by
  simp only [reduceAll, List.foldlM_append, List.foldlM_cons, List.foldlM_nil]
  congr 1
  funext s
  cases reduceV1 world s event <;> rfl

def project (world : World) (state : Dict) (event : EventRow) :
    Check (Dict × String) := do
  let updated ← reduceV1 world state event
  let stateHash ← sha256Hex world (.obj updated)
  pure (updated, stateHash)

/-! ## What the reducer reads and writes -/

def bookkeeping : List String := ["last_sequence", "last_event_hash"]

section Agreement

variable {world : World} {a b : Dict}

theorem item_congr (h : a.AgreeExcept bookkeeping b) {k : String}
    (hk : k ∉ bookkeeping) : item a k = item b k := by
  simp only [item, h k hk]

theorem appendItem_congr (h : a.AgreeExcept bookkeeping b) {k : String}
    (hk : k ∉ bookkeeping) (value : Json) :
    appendItem a k value = appendItem b k value := by
  simp only [appendItem, h k hk]

theorem linkPromotion_related (h : a.AgreeExcept bookkeeping b)
    (payload : Dict) :
    Related (Dict.AgreeExcept bookkeeping) (linkPromotion a payload)
      (linkPromotion b payload) := by
  unfold linkPromotion
  split
  · exact related_bind_same fun link => .ok (Dict.agreeExcept_set h _ _)
  · exact .ok h

theorem storeReceipt_related (h : a.AgreeExcept bookkeeping b) (typed : Dict) :
    Related (Dict.AgreeExcept bookkeeping) (storeReceipt a typed)
      (storeReceipt b typed) := by
  unfold storeReceipt
  split
  · exact related_bind_same fun receipt => .ok (Dict.agreeExcept_set h _ _)
  · split
    · exact related_bind_same fun receipt => .ok (Dict.agreeExcept_set h _ _)
    · exact .ok h

theorem reduceTransition_related (h : a.AgreeExcept bookkeeping b)
    (payload : Dict) :
    Related (Dict.AgreeExcept bookkeeping) (reduceTransition a payload)
      (reduceTransition b payload) := by
  unfold reduceTransition
  rw [item_congr h (by decide)]
  refine related_bind_same fun current => ?_
  refine related_bind (linkPromotion_related (Dict.agreeExcept_set h _ _) _)
    fun c d hcd => ?_
  exact related_bind_same fun typed => storeReceipt_related hcd typed

theorem reduceDefinition_related (h : a.AgreeExcept bookkeeping b)
    (payload : Dict) :
    Related (Dict.AgreeExcept bookkeeping) (reduceDefinition a payload)
      (reduceDefinition b payload) := by
  unfold reduceDefinition
  refine related_bind_same fun definition => ?_
  refine related_bind_same fun members => ?_
  refine related_bind_same fun frontier => .ok ?_
  iterate 7 refine Dict.agreeExcept_set ?_ _ _
  exact h

theorem reduceEnrollment_related (h : a.AgreeExcept bookkeeping b)
    (payload : Dict) :
    Related (Dict.AgreeExcept bookkeeping) (reduceEnrollment a payload)
      (reduceEnrollment b payload) := by
  unfold reduceEnrollment
  rw [h "adapter_refs_by_arm" (by decide)]
  simp only [appendItem_congr h (k := "enrollment_ids") (by decide)]
  refine related_bind_same fun enrollment => ?_
  refine related_bind_same fun enrollmentId => ?_
  refine related_bind_same fun ids => ?_
  refine related_bind_same fun arms => ?_
  refine related_bind_same fun arm => ?_
  refine related_bind_same fun ref => .ok ?_
  exact Dict.agreeExcept_set (Dict.agreeExcept_set h _ _) _ _

theorem reduceObservation_related (h : a.AgreeExcept bookkeeping b)
    (payload : Dict) (sequence : Nat) :
    Related (Dict.AgreeExcept bookkeeping)
      (reduceObservation world a payload sequence)
      (reduceObservation world b payload sequence) := by
  unfold reduceObservation
  rw [h "evidence_frontier" (by decide)]
  simp only [appendItem_congr h (k := "accepted_observation_ids") (by decide)]
  refine related_bind_same fun observation => ?_
  refine related_bind_same fun observationId => ?_
  refine related_bind_same fun ids => ?_
  refine related_bind_same fun frontier => ?_
  refine related_bind_same fun frontier => .ok ?_
  iterate 3 refine Dict.agreeExcept_set ?_ _ _
  exact h

theorem reduceEvent_related (h : a.AgreeExcept bookkeeping b)
    (event : EventRow) :
    Related (Dict.AgreeExcept bookkeeping) (reduceEvent world a event)
      (reduceEvent world b event) := by
  unfold reduceEvent
  split
  · exact reduceTransition_related h _
  · exact .ok (Dict.agreeExcept_set h _ _)
  · exact reduceDefinition_related h _
  · exact reduceEnrollment_related h _
  · exact reduceObservation_related h _ _
  · exact .ok (Dict.agreeExcept_set h _ _)
  all_goals exact .ok h

theorem reduceReceipt_related (h : a.AgreeExcept bookkeeping b) (typed : Dict) :
    Related (Dict.AgreeExcept bookkeeping) (reduceReceipt a typed)
      (reduceReceipt b typed) := by
  unfold reduceReceipt
  rw [h "evaluation_attempt_count" (by decide)]
  split
  · exact related_bind_same fun count => .ok (Dict.agreeExcept_set h _ _)
  · split
    · exact related_bind_same fun receipt => related_bind_same fun health =>
        .ok (Dict.agreeExcept_set h _ _)
    · split
      · exact related_bind_same fun receipt => related_bind_same fun lifecycle =>
          .ok (Dict.agreeExcept_set h _ _)
      · exact .ok h

theorem reduceV1_related (h : a.AgreeExcept bookkeeping b) (event : EventRow) :
    Related (Dict.AgreeExcept bookkeeping) (reduceV1 world a event)
      (reduceV1 world b event) := by
  unfold reduceV1
  refine related_bind (reduceEvent_related h event) fun c d hcd => ?_
  refine related_bind_same fun typed => ?_
  refine related_bind (reduceReceipt_related hcd typed) fun c d hcd => .ok ?_
  exact Dict.agreeExcept_set (Dict.agreeExcept_set hcd _ _) _ _

theorem reduceAll_related (h : a.AgreeExcept bookkeeping b)
    (events : List EventRow) :
    Related (Dict.AgreeExcept bookkeeping) (reduceAll world a events)
      (reduceAll world b events) := by
  induction events generalizing a b with
  | nil => exact .ok h
  | cons event events ih =>
      simp only [reduceAll, List.foldlM_cons] at ih ⊢
      exact related_bind (reduceV1_related h event) fun c d hcd => ih hcd

end Agreement

section Fields

variable {world : World} {state state' : Dict} {event : EventRow}

theorem linkPromotion_get? {payload : Dict}
    (h : linkPromotion state payload = .ok state') {k : String}
    (hk : k ≠ "promotion_link") : state'.get? k = state.get? k := by
  unfold linkPromotion at h
  split at h
  · simp only [bind_eq_ok, pure_eq_ok, Except.ok.injEq] at h
    obtain ⟨link, -, rfl⟩ := h
    exact Dict.get?_set_of_ne _ _ hk
  · cases h
    rfl

theorem storeReceipt_get? {typed : Dict} (h : storeReceipt state typed = .ok state')
    {k : String} (hdefinition : k ≠ "definition") (hevaluation : k ≠ "evaluation") :
    state'.get? k = state.get? k := by
  unfold storeReceipt at h
  split at h
  · simp only [bind_eq_ok, pure_eq_ok, Except.ok.injEq] at h
    obtain ⟨receipt, -, rfl⟩ := h
    exact Dict.get?_set_of_ne _ _ hdefinition
  · split at h
    · simp only [bind_eq_ok, pure_eq_ok, Except.ok.injEq] at h
      obtain ⟨receipt, -, rfl⟩ := h
      exact Dict.get?_set_of_ne _ _ hevaluation
    · cases h
      rfl

/-- What a transition leaves under `current_state`, and that it leaves the
cancellation alone. -/
theorem reduceTransition_fields {payload : Dict}
    (h : reduceTransition state payload = .ok state') :
    ∃ current, state.get? "current_state" = some current ∧
      state'.get? "current_state" =
        some ((payload.get? "to_state").getD current) ∧
      state'.get? "cancellation_state" = state.get? "cancellation_state" := by
  unfold reduceTransition at h
  simp only [bind_eq_ok, item_eq_ok] at h
  obtain ⟨current, hcurrent, updated, hupdated, typed, -, h⟩ := h
  refine ⟨current, hcurrent, ?_, ?_⟩
  · rw [storeReceipt_get? h (by decide) (by decide),
      linkPromotion_get? hupdated (by decide), Dict.get?_set_self]
  · rw [storeReceipt_get? h (by decide) (by decide),
      linkPromotion_get? hupdated (by decide),
      Dict.get?_set_of_ne _ _ (by decide)]

theorem reduceReceipt_get? {typed : Dict} (h : reduceReceipt state typed = .ok state')
    {k : String} (hcount : k ≠ "evaluation_attempt_count")
    (hhealth : k ≠ "release_health") (hlifecycle : k ≠ "evidence_lifecycle") :
    state'.get? k = state.get? k := by
  unfold reduceReceipt at h
  split at h
  · simp only [bind_eq_ok, pure_eq_ok, Except.ok.injEq] at h
    obtain ⟨count, -, rfl⟩ := h
    exact Dict.get?_set_of_ne _ _ hcount
  · split at h
    · simp only [bind_eq_ok, pure_eq_ok, Except.ok.injEq] at h
      obtain ⟨receipt, -, health, -, rfl⟩ := h
      exact Dict.get?_set_of_ne _ _ hhealth
    · split at h
      · simp only [bind_eq_ok, pure_eq_ok, Except.ok.injEq] at h
        obtain ⟨receipt, -, lifecycle, -, rfl⟩ := h
        exact Dict.get?_set_of_ne _ _ hlifecycle
      · cases h
        rfl

theorem reduceEvent_fields (h : reduceEvent world state event = .ok state')
    (htype : event.eventType ≠ .transition) :
    state'.get? "current_state" = state.get? "current_state" ∧
      state'.get? "cancellation_state" =
        if event.eventType = .cancellationRequested then some (.str "requested")
        else state.get? "cancellation_state" := by
  unfold reduceEvent at h
  split at h <;> rename_i heq <;> simp only [heq, reduceCtorEq, if_false, if_true]
  · exact absurd heq htype
  · cases h
    simp [Dict.get?_set]
  · simp only [reduceDefinition, bind_eq_ok, pure_eq_ok, Except.ok.injEq] at h
    obtain ⟨definition, -, members, -, frontier, -, rfl⟩ := h
    simp [Dict.get?_set]
  · simp only [reduceEnrollment, bind_eq_ok, pure_eq_ok, Except.ok.injEq] at h
    obtain ⟨enrollment, -, enrollmentId, -, ids, -, arms, -, arm, -, ref, -, rfl⟩ := h
    simp [Dict.get?_set]
  · simp only [reduceObservation, bind_eq_ok, pure_eq_ok, Except.ok.injEq] at h
    obtain ⟨observation, -, observationId, -, ids, -, frontier, -, next, -, rfl⟩ := h
    simp [Dict.get?_set]
  · cases h
    simp [Dict.get?_set]
  all_goals
    cases h
    exact ⟨rfl, rfl⟩

def nextState (current : Json) (event : EventRow) : Json :=
  if event.eventType = .transition then
    (event.payload.get? "to_state").getD current
  else current

structure Mirrors (state : Dict) (currentState cancellationState : Json)
    (lastSequence lastEventHash : Json) : Prop where
  currentState : state.get? "current_state" = some currentState
  cancellationState : state.get? "cancellation_state" = some cancellationState
  lastSequence : state.get? "last_sequence" = some lastSequence
  lastEventHash : state.get? "last_event_hash" = some lastEventHash

theorem mirrors_initialProjection (currentState cancellationState : Json)
    (lastSequence lastEventHash : Json) :
    Mirrors
      (initialProjection currentState cancellationState lastSequence lastEventHash)
      currentState cancellationState lastSequence lastEventHash := by
  constructor <;> simp [initialProjection, Dict.get?_cons]

theorem mirrors_of_reduceV1 {currentState cancellationState : Json}
    {lastSequence lastEventHash : Json}
    (hstate : Mirrors state currentState cancellationState lastSequence
      lastEventHash)
    (h : reduceV1 world state event = .ok state') :
    Mirrors state' (nextState currentState event)
      (if event.eventType = .cancellationRequested then .str "requested"
        else cancellationState)
      (Json.nat event.sequence) (.str event.eventHash) := by
  unfold reduceV1 at h
  simp only [bind_eq_ok, pure_eq_ok, Except.ok.injEq] at h
  obtain ⟨middle, hmiddle, typed, -, last, hlast, rfl⟩ := h
  have hfields : middle.get? "current_state" =
        some (nextState currentState event) ∧
      middle.get? "cancellation_state" =
        some (if event.eventType = .cancellationRequested then .str "requested"
          else cancellationState) := by
    unfold nextState
    by_cases htype : event.eventType = .transition
    · simp only [reduceEvent, htype] at hmiddle
      obtain ⟨current, hcurrent, hnext, hcancel⟩ := reduceTransition_fields hmiddle
      have : current = currentState := by
        simpa [hstate.currentState] using hcurrent.symm
      subst this
      simp [htype, hnext, hcancel, hstate.cancellationState]
    · obtain ⟨hcurrent, hcancel⟩ := reduceEvent_fields hmiddle htype
      rw [hcurrent, hcancel, hstate.currentState, hstate.cancellationState]
      refine ⟨by simp [htype], ?_⟩
      split <;> rfl
  have hread : ∀ k, k = "current_state" ∨ k = "cancellation_state" →
      last.get? k = middle.get? k := by
    rintro k (rfl | rfl) <;>
      exact reduceReceipt_get? hlast (by decide) (by decide) (by decide)
  constructor
  · simp [Dict.get?_set, hread, hfields]
  · simp only [Dict.get?_set, hread _ (.inr rfl), hfields]
    rfl
  · simp [Dict.get?_set]
  · simp

end Fields

end MindscapeLocalCore.DurableState.Reducers
