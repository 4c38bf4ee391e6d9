import MindscapeLocalCore.DurableState.ExecutionRuns
import MindscapeLocalCore.DurableState.IterationDocuments

/-!
The rollover of the test execution at its last event, and the first message on the
segment that follows.
-/

namespace MindscapeLocalCore.DurableState.RolloverRuns

open Library Library.Guarded Library.Json Library.JsonSchema Library.JsonText
open Library.Table AppendEffects Calls CanonicalJson Contracts Errors ExecutionRuns Facade
open FacadeAppend IterationDocuments Progress Records Records.Ledger Reducers Repository Samples
open SingleWorkflow Transitions

/-! ## The successor -/

/-- The identity of the successor, but for the hash that links it to the rollover. -/
def nextBase : Dict := (identity .execution).update
  [("workflow_id", .str "workflow:next"), ("root_workflow_id", .str "workflow:test"),
    ("segment_id", .str "workflow:next:segment:1"), ("segment_number", Json.nat 1),
    ("predecessor_segment_id", .str "workflow:test:segment:0")]

def nextIdentity (eventHash : String) : Dict :=
  nextBase.set "predecessor_terminal_hash" (.str eventHash)

def nextRow (state : State) (eventHash identityHash : String) : InstanceRow :=
  { openedRow .execution identityHash with
    workflowId := "workflow:next"
    segmentId := "workflow:next:segment:1"
    segmentNumber := 1
    predecessorSegmentId := some "workflow:test:segment:0"
    predecessorTerminalHash := some eventHash
    semanticIdentity := nextIdentity eventHash
    currentState := state }

theorem size_nextIdentity {eventHash : String} (h : IsDigest eventHash) :
    Within 6000 (.obj (nextIdentity eventHash)) := by
  have hbase : Within 5000 (.obj nextBase) := by
    simp only [Within, ← byteSize_eq]
    decide
  have hkey : quoteSize "predecessor_terminal_hash" = 27 := by decide
  refine within_mono (within_set hbase (within_digest h)) ?_
  omega

theorem valid_property {k : String} {schema : Schema} {d : Dict} {v : Json}
    (h : d.get? k = some v) : (Schema.property k schema).valid (.obj d) = schema.valid v := by
  simp [Schema.valid, onObject, h]

theorem valid_ifThenElse {condition a b : Schema} {j : Json} :
    (Schema.ifThenElse condition a b).valid j =
      if condition.valid j then a.valid j else b.valid j := by
  simp [Schema.valid]

theorem valid_allOf {a b c : Schema} {j : Json} :
    (Schema.allOf [a, b, c]).valid j = true ↔
      a.valid j = true ∧ b.valid j = true ∧ c.valid j = true := by
  simp [Schema.valid, allValid]

theorem get?_nextIdentity {k : String} {v : Json} (eventHash : String)
    (hk : k ≠ "predecessor_terminal_hash") (h : nextBase.get? k = some v) :
    (nextIdentity eventHash).get? k = some v := by
  rw [nextIdentity, Dict.get?_set_of_ne _ _ hk, h]

theorem nextIdentity_isValid {eventHash : String} (h : IsDigest eventHash) :
    validateContract "semantic_execution_identity" (nextIdentity eventHash) = .ok () := by
  have hname : contracts.lookup "semantic_execution_identity" =
      some semanticExecutionIdentity := rfl
  have hzeros : semanticExecutionIdentity.valid (.obj (nextIdentity zeros)) = true := by
    decide
  have hagain : nextIdentity eventHash =
      (nextIdentity zeros).set "predecessor_terminal_hash" (.str eventHash) := by
    simp only [nextIdentity, Dict.set_set]
  have hhash : (nextIdentity eventHash).get? "predecessor_terminal_hash" =
      some (.str eventHash) := Dict.get?_set_self _ _ _
  have hdigest := sha256Text_of_isDigest h
  simp only [validateContract, hname, require_eq_ok]
  rw [semanticExecutionIdentity, valid_allOf] at hzeros ⊢
  refine ⟨?_, ?_, ?_⟩
  · rw [hagain]
    exact valid_object_set (by decide) hzeros.1 rfl hdigest
  · rw [valid_ifThenElse, valid_property (get?_nextIdentity _ (by decide) rfl),
      if_pos (by decide), valid_property (get?_nextIdentity _ (by decide) rfl)]
    decide
  · rw [valid_ifThenElse, valid_property (get?_nextIdentity _ (by decide) rfl),
      if_neg (by decide), valid_allOf, valid_property hhash,
      valid_property (get?_nextIdentity _ (by decide) rfl)]
    refine ⟨?_, by decide, hdigest⟩
    simp [Schema.valid, onObject, Dict.has, hhash,
      get?_nextIdentity eventHash (k := "predecessor_segment_id") (by decide) rfl]

/-! ## The rollover -/

variable {used : EventRow → Prop} {row : InstanceRow} {state : Dict} {L : Ledger}

structure Rolled (row : InstanceRow) (L : Ledger) (event : EventRow) (identityHash : String)
    (L' : Ledger) : Prop where
  executed : exec testWorld (context 9999)
    (.rolloverSegment (inputAt 9999 "key:rollover" service) "workflow:next") L =
      .ok (.instance (nextRow row.currentState event.eventHash identityHash), L')
  eventId : event.eventId = (drawAt 9999).eventId
  eventHash : IsDigest event.eventHash
  workflowId : event.workflowId = "workflow:test"
  events : L'.events = L.events ++ [event]
  instances : L'.instances =
    [appendedRow row (rolloverAppend "workflow:next") event none,
      nextRow row.currentState event.eventHash identityHash]
  projections : ∃ p, L'.projections = [p] ∧ p.workflowId = "workflow:test"

theorem fits_rollover (h : Stage 9999 used row state L)
    (hkey : ∀ e, used e → e.idempotencyKey ≠ "key:rollover") :
    Fits testWorld (drawAt 9999) row "key:rollover" service (rolloverAppend "workflow:next")
      {} L := by
  have hsolo := h.solo
  have hcount := hsolo.eventCount
  have hcurrent := hsolo.currentSequence
  have hbytes := hsolo.canonicalEventBytes
  constructor
  case row => exact row?_of_solo hsolo
  case nonterminal => exact hsolo.nonterminal
  case capacity => exact fun hne => absurd rfl hne
  case capacityRollover =>
    simp only [maxSegmentBytes]
    omega
  case hash => exact hsolo.hash
  case workflowId => exact hsolo.workflowId
  case segmentId => exact hsolo.segmentId
  case sequence => omega
  case eventId => exact short_numbered (by decide) (by decide) 9999
  case occurredAt => decide
  case contractual => exact EventType.noConfusion
  case actorValid => exact welcome_service.valid
  case actorSize => exact ⟨welcome_service.size.1.trans (by decide), welcome_service.size.2⟩
  case payloadSize =>
    rw [← byteSize_eq, ← byteSize_eq]
    decide
  case fresh => exact findIdempotentEvent_of_solo hsolo hkey
  case freshEventId =>
    intro e he heq
    obtain ⟨-, -, -, i, hi, hid⟩ := hsolo.events e he
    have hsame := numbered_injective (by omega) (by omega) (hid.symm.trans heq)
    omega
  case freshSequence =>
    intro e he
    rw [eventsOf_of_solo hsolo] at he
    have hsequence := (hsolo.events e he).2.2.1
    omega
  case timer => rfl
  case message => rfl
  case deadline => rfl
  case freshTimer => rintro _ ⟨⟩
  case freshMessage => rintro _ ⟨⟩
  case freshReceipts =>
    intro e htype hpayload
    have hrollover : e.eventType = .segmentRollover := htype
    exact ⟨partialKey_of_none (by simp [terminalReceiptId, hrollover]),
      partialKey_of_none (by simp [enrollmentTerminalReceiptId, hrollover])⟩
  case projected =>
    intro e htype hpayload hsequence hhash
    obtain ⟨state', hreduce, hbare⟩ : ∃ state', reduceV1 testWorld state e = .ok state' ∧
        Bare state' row.currentState row.cancellationState :=
      reduce_recorded h.bare (.inr (.inr htype)) (by rw [hpayload]; rfl) (by omega) hhash
    obtain ⟨hcanonical, hjsonb⟩ := size_of_bare hbare
    exact ⟨state, state', hsolo.state, hreduce, hcanonical.trans (by decide),
      hjsonb.trans (by decide)⟩

theorem textItem_nextIdentity {k s : String} (eventHash : String)
    (hk : k ≠ "predecessor_terminal_hash") (h : nextBase.get? k = some (.str s)) :
    textItem (nextIdentity eventHash) k = .ok s :=
  textItem_eq_ok.mpr (get?_nextIdentity eventHash hk h)

theorem optionalText_nextIdentity {k s : String} (eventHash : String)
    (hk : k ≠ "predecessor_terminal_hash") (h : nextBase.get? k = some (.str s)) :
    Errors.optionalText (nextIdentity eventHash) k = .ok (some s) := by
  simp only [Errors.optionalText, get?_nextIdentity eventHash hk h]

theorem requireCompatible_nextIdentity (eventHash : String) :
    requireCompatible testFacade (nextIdentity eventHash) = .ok () := by
  simp only [requireCompatible,
    textItem_nextIdentity eventHash (k := "workflow_definition_version") (by decide) rfl,
    textItem_nextIdentity eventHash (k := "reducer_version") (by decide) rfl,
    textItem_nextIdentity eventHash (k := "effect_adapter_registry_version") (by decide) rfl,
    ok_bind]
  rfl

theorem identityRow_nextIdentity (state : State) (eventHash identityHash : String) :
    identityRow (nextIdentity eventHash) identityHash state =
      .ok (nextRow state eventHash identityHash) := by
  have hhash : Errors.optionalText (nextIdentity eventHash) "predecessor_terminal_hash" =
      .ok (some eventHash) := by
    simp [Errors.optionalText, nextIdentity]
  have hnumber : item (nextIdentity eventHash) "segment_number" = .ok (Json.nat 1) :=
    item_eq_ok.mpr (get?_nextIdentity eventHash (by decide) rfl)
  have hkind : kindOf (nextIdentity eventHash) = .ok .execution := by
    rw [kindOf, textItem_nextIdentity eventHash (by decide) rfl, ok_bind]
    rfl
  simp only [identityRow, hhash, hnumber, hkind,
    textItem_nextIdentity eventHash (k := "workflow_id") (by decide) rfl,
    textItem_nextIdentity eventHash (k := "root_workflow_id") (by decide) rfl,
    textItem_nextIdentity eventHash (k := "segment_id") (by decide) rfl,
    optionalText_nextIdentity eventHash (k := "predecessor_segment_id") (by decide) rfl,
    textItem_nextIdentity eventHash (k := "workspace_id") (by decide) rfl,
    optionalText_nextIdentity eventHash (k := "execution_id") (by decide) rfl,
    textItem_nextIdentity eventHash (k := "workflow_definition_version") (by decide) rfl,
    textItem_nextIdentity eventHash (k := "reducer_version") (by decide) rfl,
    textItem_nextIdentity eventHash (k := "effect_adapter_registry_version") (by decide) rfl,
    textItem_nextIdentity eventHash (k := "runtime_build_id") (by decide) rfl, ok_bind]
  rfl

theorem insertInstance_nextRow {M : Ledger} {eventHash : String} (state : State)
    (identityHash : String) (hrow : M.instances = [row]) (hid : row.workflowId = "workflow:test")
    (hsegment : row.segmentId = "workflow:test:segment:0") (hnumber : row.segmentNumber = 0)
    (hdigest : IsDigest eventHash) :
    ∃ M', insertInstance M (nextRow state eventHash identityHash) = .ok M' ∧
      M'.instances = [row, nextRow state eventHash identityHash] ∧ M'.events = M.events ∧
      M'.projections = M.projections := by
  have hoctets : octetLength (nextIdentity eventHash) ≤ 16384 := by
    rw [octetLength_eq_size]
    exact (size_nextIdentity hdigest).2.trans (by decide)
  simp only [insertInstance, bind_eq_ok, exists_unit, constrain_eq_ok, row?, hrow]
  refine ⟨_, ⟨?_, ?_, ?_, .inr ⟨Nat.one_pos, Option.some_ne_none _, Option.some_ne_none _⟩, hoctets, rfl⟩, rfl, rfl, rfl⟩
  · simp [lookup, hid, nextRow]
  · simp [lookup, hsegment, nextRow]
  · simp [lookup, hnumber, nextRow]

theorem rollover_step (h : Stage 9999 used row state L)
    (hkey : ∀ e, used e → e.idempotencyKey ≠ "key:rollover") :
    ∃ event identityHash L', Rolled row L event identityHash L' := by
  have hsolo := h.solo
  obtain ⟨openedHash, hidentity⟩ := h.identity
  obtain ⟨event, L₁, happend, hstored⟩ := appendLocked_isOk (fits_rollover h hkey) testFacade
  have hown := hstored.appended.own
  have hsemantic : row.semanticIdentity = identity .execution ∧
      row.rootWorkflowId = "workflow:test" ∧ row.segmentNumber = 0 ∧
      row.segmentId = "workflow:test:segment:0" := by
    rw [hidentity]
    exact ⟨rfl, rfl, rfl, rfl⟩
  have hsuccessor : successorIdentity row "workflow:next" event.eventHash =
      nextIdentity event.eventHash := by
    obtain ⟨hdocument, hroot, hnumber, hsegment⟩ := hsemantic
    have hname : "workflow:next" ++ ":segment:" ++ toString (0 + 1) =
        "workflow:next:segment:1" := by decide
    rw [successorIdentity, hdocument, hroot, hnumber, hsegment, hname]
    simp only [nextIdentity, nextBase, Dict.update, List.foldl_cons, List.foldl_nil]
  obtain ⟨encoded, hencoded, -⟩ := @encode_isOk (.obj (nextIdentity event.eventHash))
    ((size_nextIdentity hstored.eventHash).1.trans (by decide))
  have hinstances : L₁.instances =
      [appendedRow row (rolloverAppend "workflow:next") event none] := by
    rw [hstored.instances, hsolo.instances]
    simp [advancedRows, amend, appendedRow]
  have hid := workflowId_of_stage h
  obtain ⟨L', hinsert, hrows, hevents, hprojections⟩ := insertInstance_nextRow row.currentState
    (hexdigest (testWorld.sha256 encoded)) hinstances hid hsemantic.2.2.2 hsemantic.2.2.1
    hstored.eventHash
  have hbegin : ∀ isRetryOf, beginAppend L "workflow:test" 9999 "key:rollover" isRetryOf =
      .ok (row, none) := by
    intro isRetryOf
    refine beginAppend_eq_ok.mpr ⟨?_, .inl ⟨?_, rfl⟩⟩
    · rw [← workflowId_of_stage h]
      exact row?_of_solo hsolo
    · rw [hsolo.currentSequence]
      rfl
  have hfull : ¬ (row.eventCount < maxSegmentEvents - 1 ∧
      row.canonicalEventBytes < maxSegmentBytes - 16384) := by
    rw [hsolo.eventCount]
    simp [maxSegmentEvents]
  have hrollover : rolloverSegment testWorld testFacade (drawAt 9999)
      (inputAt 9999 "key:rollover" service) "workflow:next" L =
        .ok (nextRow row.currentState event.eventHash (hexdigest (testWorld.sha256 encoded)),
          L') := by
    rw [rolloverSegment]
    change (beginAppend L "workflow:test" 9999 "key:rollover" _ >>= _) = _
    rw [hbegin, ok_bind]
    simp only []
    rw [require_of hfull, ok_bind]
    change (appendLocked testWorld testFacade (drawAt 9999) row "key:rollover" service
      (rolloverAppend "workflow:next") L >>= _) = _
    rw [happend, ok_bind]
    simp only [hsuccessor]
    rw [nextIdentity_isValid hstored.eventHash, check_ok, ok_bind, requireCompatible_nextIdentity,
      check_ok, ok_bind, insertIdentity, sha256Hex, hencoded, ok_bind, check_ok, ok_bind,
      identityRow_nextIdentity, check_ok, ok_bind, hinsert]
    rfl
  refine ⟨event, hexdigest (testWorld.sha256 encoded), L', ?_⟩
  constructor
  case executed => exact replying_eq_ok.mpr ⟨_, hrollover, rfl⟩
  case eventId => exact hstored.eventId
  case eventHash => exact hstored.eventHash
  case workflowId =>
    rw [hown.isSealed.workflowId]
    exact hid
  case events => rw [hevents, hstored.events]
  case instances => exact hrows
  case projections =>
    obtain ⟨p, hp, hown⟩ := hstored.projections hsolo.projections
    exact ⟨p, by rw [hprojections, hp], hown.trans hid⟩

/-! ## The first message of the successor -/

variable {event : EventRow} {identityHash : String} {L' : Ledger}

end MindscapeLocalCore.DurableState.RolloverRuns
