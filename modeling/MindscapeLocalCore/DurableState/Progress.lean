import MindscapeLocalCore.DurableState.AppendEffects

/-!
When an append goes through: the conditions under which `_append_locked` stores a new
event, and what the ledger holds afterwards.
-/

namespace MindscapeLocalCore.DurableState.Progress

open Library.Guarded Library.Hex Library.Json Library.JsonSchema Library.JsonText Library.Table
open AppendEffects CanonicalJson Contracts Errors Events FacadeAppend Records Records.Ledger
open Reducers Repository

/-! ## Hashes -/

def IsDigest (s : String) : Prop := ∃ digest, s = hexdigest digest

def HashColumn (s : Option String) : Prop := ∀ text, s = some text → IsDigest text

theorem hexValue_hexDigit (n : Nat) (h : n < 16) :
    (hexDigit n).isWhitespace = false ∧ hexValue (hexDigit n) = some n := by
  interval_cases n <;> decide

theorem fromHex_hexText (count n : Nat) :
    ∃ bytes, fromHex (hexText (2 * count) n) = some bytes := by
  induction count with
  | zero => exact ⟨[], rfl⟩
  | succ count ih =>
      obtain ⟨bytes, hbytes⟩ := ih
      obtain ⟨hspace, hhigh⟩ := hexValue_hexDigit (n / 16 ^ (2 * count + 1) % 16)
        (Nat.mod_lt _ (by decide))
      obtain ⟨-, hlow⟩ := hexValue_hexDigit (n / 16 ^ (2 * count) % 16)
        (Nat.mod_lt _ (by decide))
      refine ⟨UInt8.ofNat (16 * (n / 16 ^ (2 * count + 1) % 16) +
        n / 16 ^ (2 * count) % 16) :: bytes, ?_⟩
      change fromHex (hexDigit (n / 16 ^ (2 * count + 1) % 16) ::
        hexDigit (n / 16 ^ (2 * count) % 16) :: hexText (2 * count) n) = _
      simp only [fromHex, hspace, hhigh, hlow, hbytes]
      rfl

theorem previousBytes_isOk {hash : Option String} (h : HashColumn hash) :
    ∃ bytes, previousBytes hash = .ok bytes := by
  cases hash with
  | none => exact ⟨_, rfl⟩
  | some text =>
      obtain ⟨digest, rfl⟩ := h text rfl
      obtain ⟨bytes, hbytes⟩ := fromHex_hexText 32 digest.toNat
      refine ⟨ByteArray.mk bytes.toArray, ?_⟩
      simp only [previousBytes, hexdigest, String.toList_ofList]
      rw [hbytes]

theorem quoteSize_of_isDigest {s : String} (h : IsDigest s) : quoteSize s = 66 := by
  obtain ⟨digest, rfl⟩ := h
  exact quoteSize_hexdigest digest

theorem sha256Text_of_isDigest {s : String} (h : IsDigest s) :
    sha256Text.valid (.str s) = true := by
  obtain ⟨digest, rfl⟩ := h
  have hmatches : (hexPattern 64).matches (hexdigest digest) = true :=
    hexPattern_matches 64 digest.toNat
  simp [sha256Text, textMatching, Schema.valid, allValid, JsonType.admits, onString, hmatches]

/-! ## Sizes -/

theorem size_nat_le {n : Nat} (h : n < 10 ^ 6) :
    size canonical (Json.nat n) ≤ 24 ∧ size jsonbStyle (Json.nat n) ≤ 24 :=
  ⟨utf8ByteSize_repr_le (by decide) h, utf8ByteSize_repr_le (by decide) h⟩

/-- A name that fits every text column and contract. -/
def Short (s : String) : Prop := 1 ≤ s.length ∧ s.length ≤ 200 ∧ quoteSize s ≤ 250

instance (s : String) : Decidable (Short s) :=
  inferInstanceAs (Decidable (_ ∧ _ ∧ _))

theorem quoteSize_eventType (eventType : EventType) : quoteSize eventType.name ≤ 40 := by
  cases eventType <;> decide

section Events

variable {eventId workflowId segmentId occurredAt payloadSha256 eventHash : String}
  {sequence : Nat} {eventType : EventType} {actor payload : Dict}
  {previousEventHash : Option String}

theorem size_signedContent_le (heventId : quoteSize eventId ≤ 250)
    (hworkflowId : quoteSize workflowId ≤ 250) (hsegmentId : quoteSize segmentId ≤ 250)
    (hoccurredAt : quoteSize occurredAt ≤ 250) (hsequence : sequence < 10 ^ 6)
    (hpayloadSha256 : IsDigest payloadSha256) (heventHash : IsDigest eventHash)
    (hprevious : HashColumn previousEventHash) :
    size canonical (.obj (signedContent (eventCore eventId workflowId segmentId sequence
      eventType occurredAt actor payload payloadSha256 previousEventHash) eventHash)) ≤
      size canonical (.obj actor) + size canonical (.obj payload) + 1600 := by
  have hprevious : size canonical (Json.ofOption previousEventHash) ≤ 66 := by
    cases previousEventHash with
    | none => decide
    | some text => exact (quoteSize_of_isDigest (hprevious text rfl)).le
  have hcontent : signedContent (eventCore eventId workflowId segmentId sequence eventType
      occurredAt actor payload payloadSha256 previousEventHash) eventHash =
      [("actor", .obj actor), ("critical_durability", .str "sync"),
        ("event_hash", .str eventHash), ("event_id", .str eventId),
        ("event_type", .str eventType.name),
        ("occurred_at", .str occurredAt), ("payload", .obj payload),
        ("payload_sha256", .str payloadSha256),
        ("previous_event_hash", Json.ofOption previousEventHash),
        ("segment_id", .str segmentId), ("sequence", Json.nat sequence),
        ("workflow_id", .str workflowId)] := rfl
  have hsize := size_obj canonical ("actor", .obj actor)
    [("critical_durability", .str "sync"), ("event_hash", .str eventHash),
      ("event_id", .str eventId), ("event_type", .str eventType.name),
      ("occurred_at", .str occurredAt), ("payload", .obj payload),
      ("payload_sha256", .str payloadSha256),
      ("previous_event_hash", Json.ofOption previousEventHash),
      ("segment_id", .str segmentId), ("sequence", Json.nat sequence),
      ("workflow_id", .str workflowId)]
  have hkeys : (["actor", "critical_durability", "event_hash", "event_id", "event_type",
    "occurred_at", "payload", "payload_sha256", "previous_event_hash", "segment_id",
    "sequence", "workflow_id"].map quoteSize).sum ≤ 200 := by decide
  have hseparators : canonical.itemSeparator.utf8ByteSize = 1 ∧
    canonical.keySeparator.utf8ByteSize = 1 := by decide
  have hsync : quoteSize "sync" = 6 := by decide
  have htype := quoteSize_eventType eventType
  have hdigits := (size_nat_le hsequence).1
  have hhash := quoteSize_of_isDigest heventHash
  have hpayloadHash := quoteSize_of_isDigest hpayloadSha256
  rw [hcontent]
  simp only [List.map_cons, List.map_nil, List.sum_cons, List.sum_nil, List.length_cons,
    List.length_nil, hseparators.1, hseparators.2] at hsize hkeys
  have hvalues : ∀ s, size canonical (.str s) = quoteSize s := fun _ => rfl
  simp only [hvalues, hhash, hpayloadHash, hsync] at hsize
  omega

theorem size_eventCore_le (eventHash : String) :
    size canonical (.obj (eventCore eventId workflowId segmentId sequence eventType
      occurredAt actor payload payloadSha256 previousEventHash)) ≤
      size canonical (.obj (signedContent (eventCore eventId workflowId segmentId sequence
        eventType occurredAt actor payload payloadSha256 previousEventHash) eventHash)) := by
  change size canonical (.obj [("actor", _), ("critical_durability", _), ("event_id", _),
    ("event_type", _), ("occurred_at", _), ("payload", _), ("payload_sha256", _),
    ("previous_event_hash", _), ("segment_id", _), ("sequence", _), ("workflow_id", _)]) ≤
    size canonical (.obj [("actor", _), ("critical_durability", _),
      ("event_hash", .str eventHash), ("event_id", _), ("event_type", _),
      ("occurred_at", _), ("payload", _), ("payload_sha256", _),
      ("previous_event_hash", _), ("segment_id", _), ("sequence", _), ("workflow_id", _)])
  simp only [size, membersSize]
  omega

end Events

theorem octetLength_eq_size (d : Dict) : octetLength d = size jsonbStyle (.obj d) :=
  render_utf8ByteSize jsonbStyle (.obj d)

/-! ## The contract of an event -/

theorem valid_text_of_short {s : String} (h : Short s) :
    (text 1 200).valid (.str s) = true := by
  simp [text, Schema.valid, allValid, JsonType.admits, onString, h.1, h.2.1]

theorem valid_integerFrom {least n : Nat} (h : least ≤ n) :
    (integerFrom least).valid (Json.nat n) = true := by
  simp [integerFrom, Json.nat, Schema.valid, allValid, JsonType.admits, onNumber,
    Number.isInteger, Number.valueLe, Number.exponent, Number.scaledTo, Number.mantissa]
  omega

theorem contract_isOk {event : SignedEvent} (heventId : Short event.eventId)
    (hworkflowId : Short event.workflowId) (hsegmentId : Short event.segmentId)
    (hsequence : 1 ≤ event.sequence)
    (htype : event.eventType ≠ .outcomeEvaluationIntentCreated)
    (hactor : eventActor.valid (.obj event.actor) = true)
    (hpayload : IsDigest event.payloadSha256)
    (hprevious : HashColumn event.previousEventHash) (hhash : IsDigest event.eventHash)
    (hbytes : 2 ≤ event.canonicalBytes ∧ event.canonicalBytes ≤ 16384)
    (hsignature : event.signature.length = 86) :
    validateContract "workflow_event" event.contract = .ok () := by
  have hcontract : event.contract =
      [("actor", .obj event.actor), ("canonical_bytes", Json.nat event.canonicalBytes),
        ("critical_durability", .str "sync"), ("event_hash", .str event.eventHash),
        ("event_id", .str event.eventId), ("event_type", .str event.eventType.name),
        ("occurred_at", .str event.occurredAt), ("payload", .obj event.payload),
        ("payload_sha256", .str event.payloadSha256),
        ("previous_event_hash", Json.ofOption event.previousEventHash),
        ("segment_id", .str event.segmentId), ("sequence", Json.nat event.sequence),
        ("signature", .str event.signature),
        ("workflow_id", .str event.workflowId)] := rfl
  have hlookup : contracts.lookup "workflow_event" = some workflowEvent := rfl
  rw [validateContract, hlookup]
  refine require_of ?_
  have hname : (oneOfTexts ["transition", "timer_recorded", "timer_fired",
      "external_message_recorded", "external_message_consumed", "cancellation_requested",
      "cancellation_acknowledged", "compensation_recorded", "segment_rollover",
      "product_iteration_defined", "iteration_enrollment_accepted",
      "outcome_observation_accepted", "outcome_observation_rejected",
      "product_release_linked"]).valid (.str event.eventType.name) = true := by
    cases htypeOf : event.eventType <;> first | decide | exact absurd htypeOf htype
  have hprevious : optionalSha256Text.valid (Json.ofOption event.previousEventHash) = true := by
    cases hhashOf : event.previousEventHash with
    | none => rfl
    | some text =>
        have hvalid := sha256Text_of_isDigest (hprevious text hhashOf)
        simpa [optionalSha256Text, sha256Text, textMatching, Schema.valid, allValid,
          JsonType.admits] using hvalid
  have hsequence := valid_integerFrom hsequence
  have hcanonical : (Schema.allOf [.type [.integer], .minimum (.int 2),
      .maximum (.int 16384)]).valid (Json.nat event.canonicalBytes) = true := by
    simp [Json.nat, Schema.valid, allValid, JsonType.admits, onNumber,
      Number.isInteger, Number.valueLe, Number.exponent, Number.scaledTo, Number.mantissa]
    omega
  have hsignature : (text 1 4096).valid (.str event.signature) = true := by
    simp [text, Schema.valid, allValid, JsonType.admits, onString, hsignature]
  have heventId := valid_text_of_short heventId
  have hworkflowId := valid_text_of_short hworkflowId
  have hsegmentId := valid_text_of_short hsegmentId
  have hpayload := sha256Text_of_isDigest hpayload
  have hhash := sha256Text_of_isDigest hhash
  rw [hcontract, workflowEvent]
  simp only [Schema.valid, allValid, Bool.and_eq_true, Bool.and_true]
  refine ⟨valid_object_of_members (by decide) ?_ ?_, rfl⟩
  · simp only [List.map_cons, List.map_nil]
    decide
  · simp only [List.forall_mem_cons, List.not_mem_nil, false_imp_iff, implies_true, and_true]
    exact ⟨⟨_, rfl, hactor⟩, ⟨_, rfl, hcanonical⟩, ⟨_, rfl, rfl⟩, ⟨_, rfl, hhash⟩,
      ⟨_, rfl, heventId⟩, ⟨_, rfl, hname⟩, ⟨_, rfl, rfl⟩, ⟨_, rfl, rfl⟩, ⟨_, rfl, hpayload⟩,
      ⟨_, rfl, hprevious⟩, ⟨_, rfl, hsegmentId⟩, ⟨_, rfl, hsequence⟩, ⟨_, rfl, hsignature⟩,
      ⟨_, rfl, hworkflowId⟩⟩

/-! ## Appends -/

/-- What the optional arguments of an append are stored as. -/
structure Bindings where
  timerId : Option String := none
  externalMessageId : Option String := none
  deadline : Option Timestamp := none

/-- An append for which everything is in order: the row is open and has room, the key
and the identifiers are new, the values are small, and the reducer accepts the event. -/
structure Fits (world : World) (draw : Draw) (locked : InstanceRow) (key : String)
    (actor : Dict) (append : Append) (bound : Bindings) (L : Ledger) : Prop where
  row : L.row? locked.workflowId = some locked
  nonterminal : locked.terminal = false
  capacity : append.eventType ≠ .segmentRollover → locked.eventCount < 9999 ∧
    locked.canonicalEventBytes + 2 * 16384 ≤ maxSegmentBytes
  capacityRollover : locked.eventCount ≤ 9999 ∧
    locked.canonicalEventBytes + 16384 ≤ maxSegmentBytes
  hash : HashColumn locked.currentEventHash
  workflowId : Short locked.workflowId
  segmentId : Short locked.segmentId
  sequence : locked.currentSequence + 1 < 10 ^ 6
  eventId : Short draw.eventId
  occurredAt : quoteSize draw.occurredAt ≤ 250
  contractual : append.eventType ≠ .outcomeEvaluationIntentCreated
  actorValid : eventActor.valid (.obj actor) = true
  actorSize : size canonical (.obj actor) ≤ 500 ∧ size jsonbStyle (.obj actor) ≤ 4096
  payloadSize : size canonical (.obj append.payload) ≤ 12000 ∧
    size jsonbStyle (.obj append.payload) ≤ 16384
  fresh : findIdempotentEvent L locked.workflowId key = none
  freshEventId : ∀ e ∈ L.events, e.eventId ≠ draw.eventId
  freshSequence : ∀ e ∈ L.eventsOf locked.workflowId, e.sequence ≤ locked.currentSequence
  timer : bindText append.timerId = .ok bound.timerId
  message : bindText append.externalMessageId = .ok bound.externalMessageId
  deadline : bindTimestamp world append.nextDurableDeadline = .ok bound.deadline
  freshTimer : ∀ id, bound.timerId = some id →
    ∀ e ∈ L.eventsOf locked.workflowId, e.timerId ≠ some id
  freshMessage : ∀ id, bound.externalMessageId = some id →
    ∀ e ∈ L.eventsOf locked.workflowId, e.externalMessageId ≠ some id
  freshReceipts : ∀ e : EventRow, e.eventType = append.eventType →
    e.payload = append.payload → partialKey terminalReceiptId e L.events ∧
      partialKey enrollmentTerminalReceiptId e L.events
  projected : ∀ e : EventRow, e.eventType = append.eventType →
    e.payload = append.payload → e.sequence = locked.currentSequence + 1 →
    IsDigest e.eventHash → ∃ prior state,
      priorState (L.projection? locked.workflowId) locked = .ok prior ∧
      reduceV1 world prior e = .ok state ∧ size canonical (.obj state) ≤ 16384 ∧
      size jsonbStyle (.obj state) ≤ 16384

structure Signable (draw : Draw) (locked : InstanceRow) (actor : Dict) (append : Append) :
    Prop where
  hash : HashColumn locked.currentEventHash
  workflowId : Short locked.workflowId
  segmentId : Short locked.segmentId
  sequence : locked.currentSequence + 1 < 10 ^ 6
  eventId : Short draw.eventId
  occurredAt : quoteSize draw.occurredAt ≤ 250
  actorSize : size canonical (.obj actor) ≤ 500
  payloadSize : size canonical (.obj append.payload) ≤ 12000

theorem Fits.signable {world : World} {draw : Draw} {locked : InstanceRow} {key : String}
    {actor : Dict} {append : Append} {bound : Bindings} {L : Ledger}
    (h : Fits world draw locked key actor append bound L) :
    Signable draw locked actor append where
  hash := h.hash
  workflowId := h.workflowId
  segmentId := h.segmentId
  sequence := h.sequence
  eventId := h.eventId
  occurredAt := h.occurredAt
  actorSize := h.actorSize.1
  payloadSize := h.payloadSize.1

structure SameControls (L L' : Ledger) : Prop where
  approvalRequests : L'.approvalRequests = L.approvalRequests
  approvalDecisions : L'.approvalDecisions = L.approvalDecisions
  approvalConsumptions : L'.approvalConsumptions = L.approvalConsumptions
  sideEffects : L'.sideEffects = L.sideEffects

def advancedRows (locked : InstanceRow) (append : Append) (event : EventRow)
    (deadline : Option Timestamp) (rows : List InstanceRow) : List InstanceRow :=
  amend InstanceRow.workflowId locked.workflowId
    (fun row => advancedRow row event.eventHash event.canonicalBytes
      (append.currentState.getD locked.currentState)
      (append.terminal.getD locked.terminal) deadline
      (append.cancellationState.or locked.cancellationState)) rows

/-- What the ledger holds after an append that fits. -/
structure Stored (world : World) (draw : Draw) (locked : InstanceRow) (key : String)
    (actor : Dict) (append : Append) (bound : Bindings) (event : EventRow)
    (L L' : Ledger) : Prop where
  appended : Appended world key actor locked append event L L'
  eventId : event.eventId = draw.eventId
  timerId : event.timerId = bound.timerId
  externalMessageId : event.externalMessageId = bound.externalMessageId
  eventHash : IsDigest event.eventHash
  canonicalBytes : event.canonicalBytes ≤
    size canonical (.obj actor) + size canonical (.obj append.payload) + 1600
  events : L'.events = L.events ++ [event]
  instances : L'.instances = advancedRows locked append event bound.deadline L.instances
  projections : L.projections = [] ∨
    (∃ p, L.projections = [p] ∧ p.workflowId = locked.workflowId) →
      ∃ p, L'.projections = [p] ∧ p.workflowId = locked.workflowId
  controls : SameControls L L'

variable {world : World} {draw : Draw} {locked : InstanceRow} {key : String} {actor : Dict}
  {append : Append} {bound : Bindings} {L : Ledger}

theorem encode_isOk {value : Json} (h : size canonical value ≤ maxInlineBytes) :
    ∃ bytes, encode value = .ok bytes ∧ bytes.size = size canonical value := by
  have hencode := encode_eq_ok.mpr ⟨h, rfl⟩
  exact ⟨_, hencode, size_of_encode hencode⟩

theorem buildSignedEvent_isOk (h : Signable draw locked actor append) (signer : Signer) :
    ∃ event, buildSignedEvent world signer draw locked append.eventType actor
        append.payload = .ok event ∧
      IsDigest event.payloadSha256 ∧ IsDigest event.eventHash ∧
      2 ≤ event.canonicalBytes ∧ event.canonicalBytes ≤
        size canonical (.obj actor) + size canonical (.obj append.payload) + 1600 ∧
      event.signature.length = 86 := by
  have hactor := h.actorSize
  have hpayload := h.payloadSize
  obtain ⟨encodedPayload, hencodedPayload, -⟩ :=
    @encode_isOk (.obj append.payload) (by simp only [maxInlineBytes]; omega)
  have hdigest : sha256Hex world (.obj append.payload) =
      .ok (hexdigest (world.sha256 encodedPayload)) := by
    rw [sha256Hex, hencodedPayload]
    rfl
  generalize hsha : hexdigest (world.sha256 encodedPayload) = digest at hdigest
  have hisDigest : IsDigest digest := ⟨_, hsha.symm⟩
  let core := eventCore draw.eventId locked.workflowId locked.segmentId
    (locked.currentSequence + 1) append.eventType draw.occurredAt actor append.payload
    digest locked.currentEventHash
  have hsize : ∀ eventHash, IsDigest eventHash → size canonical
      (.obj (signedContent core eventHash)) ≤ size canonical (.obj actor) +
        size canonical (.obj append.payload) + 1600 := fun eventHash heventHash =>
    size_signedContent_le h.eventId.2.2 h.workflowId.2.2 h.segmentId.2.2 h.occurredAt
      h.sequence hisDigest heventHash h.hash
  obtain ⟨previous, hprevious⟩ := previousBytes_isOk h.hash
  have hcore : size canonical (.obj core) ≤ maxInlineBytes := by
    refine (size_eventCore_le (hexdigest 0)).trans ?_
    refine (hsize _ ⟨0, rfl⟩).trans ?_
    simp only [maxInlineBytes]
    omega
  obtain ⟨encodedCore, hencodedCore, -⟩ := encode_isOk hcore
  have hhash : chainedHash world locked.currentEventHash (.obj core) =
      .ok (hexdigest (world.sha256 (previous ++ encodedCore))) := by
    rw [chainedHash, hprevious, ok_bind, hencodedCore]
    rfl
  have hsigned := hsize _ ⟨world.sha256 (previous ++ encodedCore), rfl⟩
  obtain ⟨encoded, hencoded, hbytes⟩ := @encode_isOk
    (.obj (signedContent core (hexdigest (world.sha256 (previous ++ encodedCore)))))
    (by simp only [maxInlineBytes]; omega)
  have hleast : 2 ≤ encoded.size := by
    rw [hbytes]
    exact Nat.le_add_right 2 _
  have hlength : (signer.signature encoded).length = 86 := length_base64Url _
  rw [hbytes] at hleast
  have hbuilt : buildSignedEvent world signer draw locked append.eventType actor
      append.payload = .ok
        { eventId := draw.eventId
          workflowId := locked.workflowId
          segmentId := locked.segmentId
          sequence := locked.currentSequence + 1
          eventType := append.eventType
          occurredAt := draw.occurredAt
          actor := actor
          payload := append.payload
          payloadSha256 := digest
          previousEventHash := locked.currentEventHash
          eventHash := hexdigest (world.sha256 (previous ++ encodedCore))
          canonicalBytes := size canonical (.obj (signedContent core
            (hexdigest (world.sha256 (previous ++ encodedCore)))))
          keyId := signer.keyId world
          signature := signer.signature encoded } := by
    simp only [buildSignedEvent, hdigest, ok_bind]
    rw [hhash, ok_bind, hencoded, ok_bind, hbytes]
    rfl
  exact ⟨_, hbuilt, hisDigest, ⟨_, rfl⟩, hleast, hsigned, hlength⟩

theorem insertEvent_isOk {event : EventRow}
    (heventId : ∀ e ∈ L.events, e.eventId ≠ event.eventId)
    (hsequence : ∀ e ∈ L.eventsOf event.workflowId, e.sequence ≠ event.sequence)
    (hkey : findIdempotentEvent L event.workflowId event.idempotencyKey = none)
    (hbytes : 2 ≤ event.canonicalBytes ∧ event.canonicalBytes ≤ 16384)
    (hactor : size jsonbStyle (.obj event.actor) ≤ 4096)
    (hpayload : size jsonbStyle (.obj event.payload) ≤ 16384)
    (htimer : partialKey EventRow.timerId event (L.eventsOf event.workflowId))
    (hmessage : partialKey EventRow.externalMessageId event (L.eventsOf event.workflowId))
    (hterminal : partialKey terminalReceiptId event L.events)
    (henrollment : partialKey enrollmentTerminalReceiptId event L.events) :
    insertEvent L event = .ok { L with events := L.events ++ [event] } := by
  have hprimary : lookup EventRow.eventId event.eventId L.events = none :=
    lookup_eq_none_iff.mpr fun hmem => by
      obtain ⟨e, he, heq⟩ := List.mem_map.mp hmem
      exact heventId e he heq
  have hunique : lookup EventRow.sequence event.sequence (L.eventsOf event.workflowId) =
      none := lookup_eq_none_iff.mpr fun hmem => by
    obtain ⟨e, he, heq⟩ := List.mem_map.mp hmem
    exact hsequence e he heq
  simp only [insertEvent, bind_eq_ok, exists_unit, constrain_eq_ok, octetLength_eq_size,
    and_true]
  exact ⟨hprimary, hunique, hkey, hbytes, hactor, hpayload, htimer, hmessage, hterminal,
    henrollment⟩

theorem upsertProjection_isOk {p : ProjectionRow}
    (hsize : size jsonbStyle (.obj p.state) ≤ 16384)
    (hnext : ∀ stored, L.projection? p.workflowId = some stored →
      stored.lastSequence + 1 = p.lastSequence) :
    ∃ L', upsertProjection L p = .ok L' ∧ L'.instances = L.instances ∧
      L'.events = L.events ∧ SameControls L L' ∧
      (L.projections = [] ∨
        (∃ q, L.projections = [q] ∧ q.workflowId = p.workflowId) →
        L'.projections = [p]) := by
  have hoctets : octetLength p.state ≤ 16384 := octetLength_eq_size _ ▸ hsize
  have hconstrain : constrain (octetLength p.state ≤ 16384) .projectionStateSize = .ok () :=
    constrain_eq_ok.mpr hoctets
  rw [upsertProjection, hconstrain, ok_bind]
  cases hstored : readProjection L p.workflowId with
  | none =>
      refine ⟨_, rfl, rfl, rfl, ⟨rfl, rfl, rfl, rfl⟩, ?_⟩
      rintro (hnone | ⟨q, hq, hqw⟩)
      · simp [hnone]
      · simp [readProjection, projection?, hq, lookup, hqw] at hstored
  | some stored =>
      refine ⟨_, if_pos (hnext stored hstored), rfl, rfl, ⟨rfl, rfl, rfl, rfl⟩, ?_⟩
      rintro (hnone | ⟨q, hq, hqw⟩)
      · simp [readProjection, projection?, hnone] at hstored
      · simp [hq, amend, hqw]

theorem advanceInstance_isOk {event : EventRow}
    (hrow : L.row? locked.workflowId = some locked)
    (hcount : locked.eventCount ≤ 9999)
    (hbytes : locked.canonicalEventBytes + event.canonicalBytes ≤ maxSegmentBytes) :
    advanceInstance L locked.workflowId locked.currentSequence event.eventHash
      event.canonicalBytes (append.currentState.getD locked.currentState)
      (append.terminal.getD locked.terminal) bound.deadline
      (append.cancellationState.or locked.cancellationState) =
      .ok { L with
        instances := advancedRows locked append event bound.deadline L.instances } := by
  have hevents : constrain (locked.eventCount + 1 ≤ maxSegmentEvents) .eventCountRange =
      .ok () := constrain_eq_ok.mpr (by simp only [maxSegmentEvents]; omega)
  have hroom : constrain (locked.canonicalEventBytes + event.canonicalBytes ≤
      maxSegmentBytes) .canonicalEventBytesRange = .ok () := constrain_eq_ok.mpr hbytes
  simp only [advanceInstance, hrow, if_true]
  rw [hevents, ok_bind, hroom]
  rfl

theorem storeEvent_isOk (h : Fits world draw locked key actor append bound L)
    {event : EventRow} (hworkflow : event.workflowId = locked.workflowId)
    (heventId : event.eventId = draw.eventId)
    (hsequence : event.sequence = locked.currentSequence + 1)
    (htype : event.eventType = append.eventType) (hkey : event.idempotencyKey = key)
    (htimer : event.timerId = bound.timerId)
    (hmessage : event.externalMessageId = bound.externalMessageId)
    (hactor : event.actor = actor) (hpayload : event.payload = append.payload)
    (hhash : IsDigest event.eventHash)
    (hbytes : 2 ≤ event.canonicalBytes ∧ event.canonicalBytes ≤ 16384) :
    ∃ L', storeEvent world locked append event L = .ok L' ∧
      L'.events = L.events ++ [event] ∧
      L'.instances = advancedRows locked append event bound.deadline L.instances ∧
      SameControls L L' ∧
      (L.projections = [] ∨
        (∃ p, L.projections = [p] ∧ p.workflowId = locked.workflowId) →
        ∃ p, L'.projections = [p] ∧ p.workflowId = locked.workflowId) := by
  obtain ⟨hterminal, henrollment⟩ := h.freshReceipts event htype hpayload
  have hinsert : insertEvent L event = .ok { L with events := L.events ++ [event] } := by
    refine insertEvent_isOk ?_ ?_ ?_ hbytes ?_ ?_ ?_ ?_ hterminal henrollment
    · rw [heventId]
      exact h.freshEventId
    · rw [hworkflow, hsequence]
      intro e he heq
      have hold := h.freshSequence e he
      omega
    · rw [hworkflow, hkey]
      exact h.fresh
    · rw [hactor]
      exact h.actorSize.2
    · rw [hpayload]
      exact h.payloadSize.2
    · rw [hworkflow]
      intro k hk
      rw [htimer] at hk
      exact h.freshTimer k hk
    · rw [hworkflow]
      intro k hk
      rw [hmessage] at hk
      exact h.freshMessage k hk
  have hadvance := @advanceInstance_isOk locked append bound
    { L with events := L.events ++ [event] } event h.row h.capacityRollover.1
    (by have hroom := h.capacityRollover.2; omega)
  obtain ⟨prior, state, hprior, hreduce, hcanonical, hoctets⟩ :=
    h.projected event htype hpayload hsequence hhash
  have hproject : ∃ stateHash, project world prior event = .ok (state, stateHash) := by
    obtain ⟨encoded, hencoded, -⟩ := @encode_isOk (.obj state) hcanonical
    refine ⟨hexdigest (world.sha256 encoded), ?_⟩
    rw [project, hreduce, ok_bind, sha256Hex, hencoded]
    rfl
  obtain ⟨stateHash, hproject⟩ := hproject
  obtain ⟨L', hupsert, hinstances, hevents, hcontrols, hprojections⟩ :=
    @upsertProjection_isOk
      { L with
        events := L.events ++ [event]
        instances := advancedRows locked append event bound.deadline L.instances }
      ⟨locked.workflowId, event.sequence, locked.reducerVersion, stateHash, state⟩ hoctets
      (fun stored hstored => by
        have hlast := lastSequence_of_priorState hprior stored hstored
        rw [hlast, hsequence])
  have hsame : SameControls L L' := ⟨hcontrols.1, hcontrols.2, hcontrols.3, hcontrols.4⟩
  refine ⟨L', ?_, hevents, hinstances, hsame, fun hold => ⟨_, hprojections hold, rfl⟩⟩
  have hpriorOf : priorState (readProjection
      { L with
        events := L.events ++ [event]
        instances := advancedRows locked append event bound.deadline L.instances }
      locked.workflowId)
      locked = .ok prior := hprior
  rw [storeEvent, hinsert, ok_bind, h.deadline, check_ok, ok_bind, hadvance,
    ok_bind, hpriorOf, ok_bind, hproject, check_ok, ok_bind]
  exact hupsert

theorem appendLocked_isOk
    (h : Fits world draw locked key actor append bound L) (facade : Facade) :
    ∃ event L', appendLocked world facade draw locked key actor append L =
        .ok (event, L') ∧
      Stored world draw locked key actor append bound event L L' := by
  obtain ⟨signed, hsigned, hpayloadHash, hhash, hleast, hmost, hsignature⟩ :=
    @buildSignedEvent_isOk world _ _ _ _ h.signable facade.signer
  have hactorSize := h.actorSize.1
  have hpayloadSize := h.payloadSize.1
  have hcapacity : requireCapacity locked append.eventType signed.canonicalBytes =
      .ok () := by
    refine requireCapacity_eq_ok.mpr ⟨fun htype => ?_, fun _ => ?_⟩
    · have hroom := h.capacity htype
      simp only [maxSegmentEvents, maxSegmentBytes] at hroom ⊢
      omega
    · have hroom := h.capacityRollover.2
      omega
  have hbytes : signed.canonicalBytes ≤ 16384 := by omega
  obtain ⟨hsealed, htype, hactor, hpayload⟩ :=
    sealed_of_buildSignedEvent hsigned key bound.timerId bound.externalMessageId
  have heventId : signed.eventId = draw.eventId := by
    simp only [buildSignedEvent, bind_eq_ok, pure_eq_ok, Except.ok.injEq] at hsigned
    obtain ⟨_, -, _, -, _, -, rfl⟩ := hsigned
    rfl
  have hcontract : validateContract "workflow_event" signed.contract = .ok () := by
    refine contract_isOk ?_ ?_ ?_ ?_ ?_ ?_ hpayloadHash ?_ hhash ⟨hleast, hbytes⟩ hsignature
    · rw [heventId]
      exact h.eventId
    · have hworkflowId : signed.workflowId = _ := hsealed.workflowId
      exact hworkflowId ▸ h.workflowId
    · have hsegmentId : signed.segmentId = _ := hsealed.segmentId
      exact hsegmentId ▸ h.segmentId
    · have hsequence : signed.sequence = _ := hsealed.sequence
      omega
    · rw [htype]
      exact h.contractual
    · rw [hactor]
      exact h.actorValid
    · have hprevious : signed.previousEventHash = _ := hsealed.previousEventHash
      exact hprevious ▸ h.hash
  obtain ⟨L', hstore, hevents, hinstances, hcontrols, hprojections⟩ :=
    @storeEvent_isOk _ _ _ _ _ _ _ _ h (signed.stored key bound.timerId bound.externalMessageId)
      hsealed.workflowId heventId hsealed.sequence htype rfl rfl rfl hactor hpayload hhash
      ⟨hleast, hbytes⟩
  have hfresh : appendFresh world facade draw locked key actor append L =
      .ok (signed.stored key bound.timerId bound.externalMessageId, L') := by
    rw [appendFresh, hsigned, check_ok, ok_bind, hcapacity, ok_bind, hcontract, check_ok,
      ok_bind, h.timer, check_ok, ok_bind, h.message, check_ok, ok_bind]
    change storeEvent _ _ _ _ _ >>= _ = _
    rw [hstore]
    rfl
  obtain ⟨encodedPayload, hencodedPayload, -⟩ :=
    @encode_isOk (.obj append.payload) (by simp only [maxInlineBytes]; omega)
  have hopen : require (locked.terminal = false) (Failure.conflict .insertClosed) =
      .ok () := require_of h.nonterminal
  refine ⟨signed.stored key bound.timerId bound.externalMessageId, L', ?_, ?_⟩
  · rw [appendLocked, hopen, ok_bind, sha256Hex, hencodedPayload, ok_bind, check_ok,
      ok_bind, h.fresh]
    exact hfresh
  · exact
      { appended := appended_of_appendFresh h.row h.nonterminal hfresh
        eventId := heventId
        timerId := rfl
        externalMessageId := rfl
        eventHash := hhash
        canonicalBytes := hmost
        events := hevents
        instances := hinstances
        projections := hprojections
        controls := hcontrols }

end MindscapeLocalCore.DurableState.Progress
