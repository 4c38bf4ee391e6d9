import MindscapeLocalCore.DurableState.Contracts
import MindscapeLocalCore.DurableState.Records

/-!
Canonical event construction and bounded chain verification.
-/

namespace MindscapeLocalCore.DurableState.Events

open Library.Guarded Library.Json Library.JsonText CanonicalJson Errors Records

/-- What `uuid4()` and `datetime.now(timezone.utc)` gave for one event. -/
structure Draw where
  eventId : String
  occurredAt : String

/-- The event that the `workflow_event` contract describes. -/
structure SignedEvent where
  eventId : String
  workflowId : String
  segmentId : String
  sequence : Nat
  eventType : EventType
  occurredAt : String
  actor : Dict
  payload : Dict
  payloadSha256 : String
  previousEventHash : Option String
  eventHash : String
  canonicalBytes : Nat
  keyId : String
  signature : String

def eventCore (eventId workflowId segmentId : String) (sequence : Nat)
    (eventType : EventType) (occurredAt : String) (actor payload : Dict)
    (payloadSha256 : String) (previousEventHash : Option String) : Dict :=
  [("actor", .obj actor), ("critical_durability", .str "sync"),
    ("event_id", .str eventId), ("event_type", .str eventType.name),
    ("occurred_at", .str occurredAt), ("payload", .obj payload),
    ("payload_sha256", .str payloadSha256),
    ("previous_event_hash", Json.ofOption previousEventHash),
    ("segment_id", .str segmentId), ("sequence", Json.nat sequence),
    ("workflow_id", .str workflowId)]

def eventCoreFromRow (event : EventRow) : Dict :=
  eventCore event.eventId event.workflowId event.segmentId event.sequence
    event.eventType event.occurredAt event.actor event.payload
    event.payloadSha256 event.previousEventHash

def signedContent (core : Dict) (eventHash : String) : Dict :=
  core.set "event_hash" (.str eventHash)

def buildSignedEvent (world : World) (signer : Signer) (draw : Draw)
    (locked : InstanceRow) (eventType : EventType) (actor payload : Dict) :
    Check SignedEvent := do
  let payloadSha256 ← sha256Hex world (.obj payload)
  let core := eventCore draw.eventId locked.workflowId locked.segmentId
    (locked.currentSequence + 1) eventType draw.occurredAt actor payload
    payloadSha256 locked.currentEventHash
  let eventHash ← chainedHash world locked.currentEventHash (.obj core)
  let encoded ← encode (.obj (signedContent core eventHash))
  pure {
    eventId := draw.eventId
    workflowId := locked.workflowId
    segmentId := locked.segmentId
    sequence := locked.currentSequence + 1
    eventType := eventType
    occurredAt := draw.occurredAt
    actor := actor
    payload := payload
    payloadSha256 := payloadSha256
    previousEventHash := locked.currentEventHash
    eventHash := eventHash
    canonicalBytes := encoded.size
    keyId := signer.keyId world
    signature := signer.signature encoded }

namespace SignedEvent

def stored (event : SignedEvent) (idempotencyKey : String)
    (timerId externalMessageId : Option String) : EventRow where
  eventId := event.eventId
  workflowId := event.workflowId
  segmentId := event.segmentId
  sequence := event.sequence
  eventType := event.eventType
  idempotencyKey := idempotencyKey
  timerId := timerId
  externalMessageId := externalMessageId
  actor := event.actor
  payload := event.payload
  payloadSha256 := event.payloadSha256
  previousEventHash := event.previousEventHash
  eventHash := event.eventHash
  canonicalBytes := event.canonicalBytes
  occurredAt := event.occurredAt
  keyId := event.keyId
  signature := event.signature

/-- The event as the contract sees it, without its `key_id`. -/
def contract (event : SignedEvent) : Dict :=
  ((signedContent
    (eventCore event.eventId event.workflowId event.segmentId event.sequence
      event.eventType event.occurredAt event.actor event.payload
      event.payloadSha256 event.previousEventHash)
    event.eventHash).set "canonical_bytes" (Json.nat event.canonicalBytes)).set
    "signature" (.str event.signature)

end SignedEvent

/-- The chain fields of a stored event are those of the locked row, and its hash
and size are computed from its own content. -/
structure Sealed (world : World) (locked : InstanceRow) (event : EventRow) :
    Prop where
  workflowId : event.workflowId = locked.workflowId
  segmentId : event.segmentId = locked.segmentId
  sequence : event.sequence = locked.currentSequence + 1
  previousEventHash : event.previousEventHash = locked.currentEventHash
  payloadSha256 : sha256Hex world (.obj event.payload) = .ok event.payloadSha256
  eventHash : chainedHash world event.previousEventHash
    (.obj (eventCoreFromRow event)) = .ok event.eventHash
  canonicalBytes : event.canonicalBytes = size canonical
    (.obj (signedContent (eventCoreFromRow event) event.eventHash))
  canonicalBytes_le : event.canonicalBytes ≤ maxInlineBytes

theorem sealed_of_buildSignedEvent {world : World} {signer : Signer} {draw : Draw}
    {locked : InstanceRow} {eventType : EventType} {actor payload : Dict}
    {event : SignedEvent}
    (h : buildSignedEvent world signer draw locked eventType actor payload =
      .ok event)
    (idempotencyKey : String) (timerId externalMessageId : Option String) :
    Sealed world locked
        (event.stored idempotencyKey timerId externalMessageId) ∧
      event.eventType = eventType ∧ event.actor = actor ∧
      event.payload = payload := by
  simp only [buildSignedEvent, bind_eq_ok, pure_eq_ok, Except.ok.injEq] at h
  obtain ⟨digest, hdigest, hash, hhash, encoded, hencoded, rfl⟩ := h
  refine ⟨?_, rfl, rfl, rfl⟩
  constructor
  case payloadSha256 => exact hdigest
  case eventHash => exact hhash
  case canonicalBytes => exact size_of_encode hencoded
  case canonicalBytes_le => exact size_le_of_encode hencoded
  all_goals rfl

end MindscapeLocalCore.DurableState.Events
