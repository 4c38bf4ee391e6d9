import MindscapeLocalCore.DurableState.ExecutionRuns
import MindscapeLocalCore.DurableState.IterationDocuments

/-!
Terminal receipts of the test execution: one that a generic operation stores, and one
that a full segment refuses halfway.
-/

namespace MindscapeLocalCore.DurableState.TerminalRuns

open Library Library.Guarded Library.Json Library.JsonText AppendEffects Calls
open CanonicalJson Contracts Errors Events ExecutionRuns Facade FacadeAppend IterationDocuments
open Progress Records Records.Ledger Reducers Repository Samples SingleWorkflow TerminalReceipts
open Transitions

/-! ## The receipt -/

def resultRef : Dict :=
  [("bytes", Json.nat 1), ("schema_id", .str "result.v1"), ("sha256", .str zeros),
    ("uri", .str "memory://result")]

/-- A receipt of the test execution that ends in `cancelled`. -/
def cancelledReceipt : Dict :=
  [("artifact_refs", .arr []), ("attempt_id", .str "attempt:test"),
    ("capability_identity", .obj capability), ("completed_at", .str moment),
    ("configuration_fingerprint", .str zeros),
    ("consumer_compatibility_class", .str "compatible"), ("data_fingerprint", .str zeros),
    ("development_attestation_id", .str "attestation:test"),
    ("development_attestation_sha256", .str zeros),
    ("effect_adapter_registry_version", .str "effects.v1"),
    ("environment_fingerprint", .str zeros), ("execution_id", .str "execution:test"),
    ("key_id", .str "key"), ("receipt_id", .str "receipt:test"),
    ("reducer_version", .str "reducer.v1"),
    ("resource_summary", .obj [("attempts", Json.nat 1), ("duration_ms", Json.nat 1),
      ("task_count", Json.nat 1)]),
    ("result_ref", .obj resultRef), ("root_workflow_id", .str "workflow:test"),
    ("runtime_build_id", .str "test-build"), ("signature", .str "signature"),
    ("started_at", .str moment), ("terminal_event_hash", .str zeros),
    ("terminal_sequence", Json.nat 1), ("terminal_state", .str "cancelled"),
    ("workflow_definition_version", .str "workflow.v1"),
    ("workflow_id", .str "workflow:test"), ("workspace_id", .str "workspace:test")]

theorem cancelledReceipt_isValid :
    validateContract executionTerminalReceiptType cancelledReceipt = .ok () :=
  require_of (by decide)

theorem requireParity_cancelledReceipt :
    requireParity cancelledReceipt (identity .execution) = .ok () := by
  have hnone : parityMismatch cancelledReceipt (identity .execution) = none := by
    decide
  rw [requireParity, hnone]

theorem signReceipt_cancelledReceipt {transition : EventRow}
    (hsequence : transition.sequence + 1 < 10 ^ 6) (hleast : 1 ≤ transition.sequence)
    (hhash : IsDigest transition.eventHash) :
    ∃ signed, signReceipt testWorld testFacade cancelledReceipt transition = .ok signed ∧
      Within 2900 (.obj signed) := by
  have hupdate : ∀ sequence hash key signature,
      ((((cancelledReceipt.set "terminal_sequence" sequence).set "terminal_event_hash" hash).set
        "key_id" key).erase "signature").set "signature" signature =
        cancelledReceipt.update [("terminal_sequence", sequence),
          ("terminal_event_hash", hash), ("key_id", key), ("signature", signature)] := by
    intros
    simp only [Dict.update, List.foldl_cons, List.foldl_nil]
    rfl
  have herase : ∀ sequence hash key, (((cancelledReceipt.set "terminal_sequence" sequence).set
      "terminal_event_hash" hash).set "key_id" key).erase "signature" =
        (cancelledReceipt.erase "signature").update [("terminal_sequence", sequence),
          ("terminal_event_hash", hash), ("key_id", key)] := by
    intros
    simp only [Dict.update, List.foldl_cons, List.foldl_nil]
    rfl
  have hkeys : quoteSize "terminal_sequence" = 19 ∧ quoteSize "terminal_event_hash" = 21 ∧
      quoteSize "key_id" = 8 ∧ quoteSize "signature" = 11 := by decide
  have hbase : Within 2400 (.obj (cancelledReceipt.erase "signature")) := by
    simp only [Within, ← byteSize_eq]
    decide
  have hquoted : quoteSize signerKey = 74 := quoteSize_signerKey
  have hunsigned : Within 2700 (.obj (boundReceipt testWorld testFacade cancelledReceipt
      transition)) := by
    rw [boundReceipt, herase]
    simp only [Dict.update, List.foldl_cons, List.foldl_nil]
    refine within_mono (within_set (within_set (within_set hbase
      (within_nat (by omega))) (within_digest hhash)) (within_str signerKey)) ?_
    omega
  obtain ⟨encoded, hencoded, -⟩ := encode_isOk (hunsigned.1.trans (by decide))
  refine ⟨(boundReceipt testWorld testFacade cancelledReceipt transition).set "signature"
    (.str (testFacade.signer.signature encoded)), ?_, ?_⟩
  · have hvalid : validateContract executionTerminalReceiptType
        ((boundReceipt testWorld testFacade cancelledReceipt transition).set "signature"
          (.str (testFacade.signer.signature encoded))) = .ok () := by
      rw [boundReceipt, hupdate]
      refine validateContract_update rfl (by decide) cancelledReceipt_isValid ?_
      simp only [List.forall_mem_cons, List.not_mem_nil, false_imp_iff, implies_true, and_true]
      exact ⟨⟨_, rfl, valid_integerFrom hleast⟩, ⟨_, rfl, sha256Text_of_isDigest hhash⟩,
        ⟨_, rfl, valid_signerKey⟩, ⟨_, rfl, valid_signature _⟩⟩
    rw [signReceipt]
    simp only []
    rw [hencoded, ok_bind, hvalid]
    rfl
  · have hsignature : quoteSize (testFacade.signer.signature encoded) = 88 :=
      quoteSize_base64Url _
    refine within_mono (within_set hunsigned (within_str _)) ?_
    omega

/-! ## Full segments -/

theorem appendLocked_full {world : World} {draw : Draw} {locked : InstanceRow} {key : String}
    {actor : Dict} {append : Append} {L : Ledger} (facade : Facade)
    (h : Signable draw locked actor append) (hopen : locked.terminal = false)
    (hfresh : findIdempotentEvent L locked.workflowId key = none)
    (htype : append.eventType ≠ .segmentRollover) (hfull : 9999 ≤ locked.eventCount) :
    appendLocked world facade draw locked key actor append L =
      .error (.conflict .rolloverRequired) := by
  obtain ⟨event, hevent, -⟩ := @buildSignedEvent_isOk world _ _ _ _ h facade.signer
  have hpayload := h.payloadSize
  obtain ⟨encoded, hencoded, -⟩ := @encode_isOk (.obj append.payload)
    (by simp only [maxInlineBytes]; omega)
  have hcapacity : requireCapacity locked append.eventType event.canonicalBytes =
      .error (.conflict .rolloverRequired) := by
    refine bind_eq_error.mpr (.inl (require_eq_error.mpr ⟨not_not.mpr ⟨htype, .inl ?_⟩, rfl⟩))
    simpa [maxSegmentEvents] using hfull
  rw [appendLocked, require_of hopen, ok_bind, sha256Hex, hencoded, ok_bind, check_ok, ok_bind,
    hfresh]
  simp only []
  rw [appendFresh, hevent, check_ok, ok_bind, hcapacity]
  rfl

variable {used : EventRow → Prop} {row : InstanceRow} {state : Dict} {L : Ledger}

def transitionKey : String := "key:terminal" ++ ":transition"

def receiptKey : String := "key:terminal" ++ ":receipt"

theorem size_terminalReceipt {signed : Dict} (h : Within 2900 (.obj signed)) :
    size canonical (.obj (terminalReceipt .cancelled signed).payload) ≤ 12000 := by
  have hkeys : quoteSize "typed_receipt" = 15 ∧ quoteSize "receipt" = 9 ∧
      quoteSize "receipt_type" = 14 ∧ quoteSize executionTerminalReceiptType = 28 := by decide
  obtain ⟨hcanonical, -⟩ := h
  simp only [terminalReceipt, receiptMember, TypedReceipt.wrapped, size, membersSize,
    memberSize, hkeys, separators] at hcanonical ⊢
  omega

theorem terminal_refused (h : Stage 9998 used row state L)
    (hpending : row.currentState = .pending)
    (hkeys : ∀ e, used e → e.idempotencyKey ≠ transitionKey ∧ e.idempotencyKey ≠ receiptKey) :
    exec testWorld (context 9998) (.appendExecutionTerminal (inputAt 9998 "key:terminal" service)
      "cancelled" cancelledReceipt) L = .error (.conflict .rolloverRequired) := by
  have hsolo := h.solo
  have hid := workflowId_of_stage h
  obtain ⟨openedHash, hidentity⟩ := h.identity
  have hsemantic : row.semanticIdentity = identity .execution := by
    rw [hidentity]
    rfl
  have hsuits : Suits testWorld 9998 used state transitionKey service
      (terminalTransition row .cancelled) {} L := by
    constructor
    case actorValid => exact welcome_service.valid
    case actorSize => exact welcome_service.size
    case contractual => exact EventType.noConfusion
    case payloadSize =>
      rw [terminalTransition, hpending, ← byteSize_eq, ← byteSize_eq]
      decide
    case fresh => exact fun e he => (hkeys e he).1
    case timer => rfl
    case message => rfl
    case deadline => rfl
    case freshTimer => rintro _ ⟨⟩
    case freshMessage => rintro _ ⟨⟩
    case freshReceipts =>
      intro e htype hpayload
      have htransition : e.eventType = .transition := htype
      refine ⟨partialKey_of_none ?_, partialKey_of_none ?_⟩
      · rw [terminalReceiptId, hpayload]
        exact if_neg (by rintro ⟨-, ⟨⟩⟩)
      · simp [enrollmentTerminalReceiptId, htransition]
    case reduced =>
      intro e htype hpayload hsequence hhash
      obtain ⟨state', hreduce, hbare⟩ : ∃ state', reduceV1 testWorld state e = .ok state' ∧
          Bare state' .cancelled row.cancellationState :=
        reduce_transition h.bare htype hpayload State.noConfusion (by omega) hhash
      obtain ⟨hcanonical, hjsonb⟩ := size_of_bare hbare
      exact ⟨state', hreduce, hcanonical.trans (by decide), hjsonb.trans (by decide)⟩
  obtain ⟨transition, state', L₁, happend, hgrown⟩ :=
    appendLocked_of_suits hsolo (by decide) hsuits testFacade
  have hafter := hgrown.solo rfl
  have hsequence : transition.sequence = 9999 := by
    rw [hgrown.appended.own.isSealed.sequence, hsolo.currentSequence]
  obtain ⟨signed, hsigned, hsize⟩ := signReceipt_cancelledReceipt
    (by omega) (by omega) hgrown.eventHash
  have hfull : appendLocked testWorld testFacade (drawAt 9999)
      (appendedRow row (terminalTransition row .cancelled) transition none) receiptKey service
      (terminalReceipt .cancelled signed) L₁ = .error (.conflict .rolloverRequired) := by
    refine appendLocked_full testFacade ?_ hafter.nonterminal ?_ EventType.noConfusion
      hafter.eventCount.ge
    · have hcurrent := hafter.currentSequence
      exact
        { hash := hafter.hash
          workflowId := hafter.workflowId
          segmentId := hafter.segmentId
          sequence := by
            rw [hcurrent]
            decide
          eventId := short_numbered (by decide) (by decide) 9999
          occurredAt := by decide
          actorSize := welcome_service.size.1.trans (by decide)
          payloadSize := size_terminalReceipt hsize }
    · refine findIdempotentEvent_of_solo hafter ?_
      rintro e (he | rfl)
      · exact (hkeys e he).2
      · rw [hgrown.appended.own.idempotencyKey]
        decide
  have hnew : findIdempotentEvent L "workflow:test" receiptKey = none := by
    rw [← hid]
    exact findIdempotentEvent_of_solo hsolo fun e he => (hkeys e he).2
  have hlock : lockInstance L "workflow:test" = .ok row := by
    rw [lockInstance_eq_ok, ← hid]
    exact row?_of_solo hsolo
  have hlockAfter : lockInstance L₁ "workflow:test" = .ok
      (appendedRow row (terminalTransition row .cancelled) transition none) := by
    rw [lockInstance_eq_ok, ← hid]
    exact row?_of_solo hafter
  have hsequenceIs : (row.currentSequence : Int) = 9998 := by
    rw [hsolo.currentSequence]
    rfl
  have htarget : requireTransition .execution row.currentState "cancelled" =
      .ok (.cancelled, true) := by
    rw [hpending]
    rfl
  have hfreshTerminal : appendFreshTerminal testWorld testFacade (context 9998).draw
      (inputAt 9998 "key:terminal" service) "cancelled" cancelledReceipt L =
        .error (.conflict .rolloverRequired) := by
    rw [appendFreshTerminal]
    change (check (lockInstance L "workflow:test") >>= _) = _
    rw [hlock, check_ok, ok_bind]
    change (check (ensure ((row.currentSequence : Int) = 9998) _) >>= _) = _
    rw [ensure_of hsequenceIs, check_ok, ok_bind, ensure_of (kind_of_stage h), check_ok,
      ok_bind, htarget, check_ok, ok_bind]
    simp only []
    rw [ensure_of trivial, check_ok, ok_bind, hsemantic, requireParity_cancelledReceipt, check_ok,
      ok_bind]
    change (appendLocked testWorld testFacade (drawAt 9998) row transitionKey service
      (terminalTransition row .cancelled) L >>= _) = _
    rw [happend, ok_bind]
    simp only []
    rw [hsigned, check_ok, ok_bind]
    change (check (lockInstance L₁ "workflow:test") >>= _) = _
    rw [hlockAfter, check_ok, ok_bind]
    change (appendLocked testWorld testFacade (drawAt 9999) _ receiptKey service
      (terminalReceipt .cancelled signed) L₁ >>= _) = _
    rw [hfull]
    rfl
  refine replying_eq_error.mpr ?_
  have hseen : findIdempotentEvent L (inputAt 9998 "key:terminal" service).workflowId
      ((inputAt 9998 "key:terminal" service).idempotencyKey ++ ":receipt") = none := hnew
  rw [appendExecutionTerminal, hseen]
  exact hfreshTerminal

/-! ## Generic receipts -/

def genericReceipt : TypedReceipt := ⟨executionTerminalReceiptType, cancelledReceipt⟩

theorem reduce_genericReceipt {s : State} {cancellation : Option String} {event : EventRow}
    (h : Bare state s cancellation) (htype : event.eventType = .transition)
    (hpayload : event.payload = receiptMember (some genericReceipt))
    (hsequence : event.sequence < 10 ^ 6) (hhash : IsDigest event.eventHash) :
    ∃ state', reduceV1 testWorld state event = .ok state' ∧ Bare state' s cancellation := by
  obtain ⟨⟨sequence, hash, rfl, -, -⟩, hcancellation⟩ := h
  refine ⟨initialProjection (.str s.name) (Json.ofOption cancellation)
    (Json.nat event.sequence) (.str event.eventHash), ?_,
    ⟨⟨_, _, rfl, hsequence, .inr ⟨_, hhash, rfl⟩⟩, hcancellation⟩⟩
  rw [reduceV1]
  simp only [reduceEvent, htype, hpayload]
  rfl

theorem generic_receipt_step (h : Stage 0 (fun _ => False) row state L) :
    ∃ event state' L', exec testWorld (context 0) (.append (inputAt 0 "key:test" service)
        (.appendTypedReceipt genericReceipt)) L = .ok (.event event, L') ∧
      Grown testWorld row 0 (fun _ => False) state "key:test" service
        { eventType := .transition
          payload := receiptMember (some genericReceipt)
          currentState := some row.currentState
          terminal := some row.terminal } {} event state' L L' := by
  have hempty : L.events = [] :=
    List.eq_nil_iff_forall_not_mem.mpr fun e he => (h.solo.events e he).1
  have hsuits : Suits testWorld 0 (fun _ => False) state "key:test" service
      { eventType := .transition
        payload := receiptMember (some genericReceipt)
        currentState := some row.currentState
        terminal := some row.terminal } {} L := by
    constructor
    case actorValid => exact welcome_service.valid
    case actorSize => exact welcome_service.size
    case contractual => exact EventType.noConfusion
    case payloadSize =>
      change size canonical (.obj (receiptMember (some genericReceipt))) ≤ 4800 ∧
        size jsonbStyle (.obj (receiptMember (some genericReceipt))) ≤ 16384
      rw [← byteSize_eq, ← byteSize_eq]
      decide
    case fresh => rintro _ ⟨⟩
    case timer => rfl
    case message => rfl
    case deadline => rfl
    case freshTimer => rintro _ ⟨⟩
    case freshMessage => rintro _ ⟨⟩
    case freshReceipts =>
      intro e _ _
      rw [hempty]
      constructor <;> rintro _ _ _ ⟨⟩
    case reduced =>
      intro e htype hpayload hsequence hhash
      obtain ⟨state', hreduce, hbare⟩ := reduce_genericReceipt h.bare htype hpayload
        (by omega) hhash
      obtain ⟨hcanonical, hjsonb⟩ := size_of_bare hbare
      exact ⟨state', hreduce, hcanonical.trans (by decide), hjsonb.trans (by decide)⟩
  have hkind : ∀ kind, some WorkflowKind.execution = some kind → row.workflowKind = kind := by
    rintro _ ⟨⟩
    exact kind_of_stage h
  obtain ⟨event, state', L', hgrown, hexec⟩ := exec_append_of_suits testFacade
    (.appendTypedReceipt genericReceipt) (inputAt 0 "key:test" service) h.solo (by decide)
    (workflowId_of_stage h).symm rfl cancelledReceipt_isValid (require_of hkind) rfl hsuits
  exact ⟨event, state', L', hexec L' rfl, hgrown⟩

end MindscapeLocalCore.DurableState.TerminalRuns
