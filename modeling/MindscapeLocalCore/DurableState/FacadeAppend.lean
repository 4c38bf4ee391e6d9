import MindscapeLocalCore.DurableState.Events
import MindscapeLocalCore.DurableState.Reducers
import MindscapeLocalCore.DurableState.Repository

/-!
The atomic append and projection seam of the durable facade.
-/

namespace MindscapeLocalCore.DurableState.FacadeAppend

open Library.Guarded Library.Json CanonicalJson Contracts Errors Events Records Reducers Repository
open Transitions

/-- What one caller's facade was built from.  The version lists are the
`CompatibilityRegistry`. -/
structure Facade where
  signer : Signer
  workflowDefinitions : List String
  reducers : List String
  effectAdapters : List String
  verificationKeys : String → Option ByteArray

/-- The surroundings of one call: the facade, the time of the transaction and the
draws of the events that the call may build. -/
structure Context where
  facade : Facade
  now : Timestamp
  draw : Nat → Draw

/-- The arguments of `_append_locked` that say what is appended. -/
structure Append where
  eventType : EventType
  payload : Dict
  currentState : Option State := none
  terminal : Option Bool := none
  timerId : Option Json := none
  externalMessageId : Option Json := none
  nextDurableDeadline : Option String := none
  cancellationState : Option String := none

/-- The locked row, and the event that an earlier call with this key stored when
the sequence has moved on. -/
def beginAppend (L : Ledger) (workflowId : String) (expected : Int)
    (idempotencyKey : String) (isRetryOf : EventRow → Bool) :
    Attempt (InstanceRow × Option EventRow) := do
  let locked ← check (lockInstance L workflowId)
  if (locked.currentSequence : Int) = expected then .ok (locked, none)
  else
    match findIdempotentEvent L workflowId idempotencyKey with
    | some prior =>
        if isRetryOf prior then .ok (locked, some prior)
        else .error (.conflict (.staleSequence expected locked.currentSequence))
    | none => .error (.conflict (.staleSequence expected locked.currentSequence))

def bindText : Option Json → Check (Option String)
  | none => .ok none
  | some .null => .ok none
  | some (.str value) => .ok (some value)
  | some (.num value) => .ok (some (jsonbStyle.number value))
  | some (.bool value) => .ok (some (if value then "true" else "false"))
  | some (.arr _) => .error (.dataError "text")
  | some (.obj _) => .error (.dataError "text")

def bindTimestamp (world : World) : Option String → Check (Option Timestamp)
  | none => .ok none
  | some text =>
      match world.timestamptz text with
      | some time => .ok (some time)
      | none => .error (.dataError "timestamptz")

def priorState (stored : Option ProjectionRow) (locked : InstanceRow) :
    Attempt Dict :=
  match stored with
  | none => do
      require (locked.currentSequence = 0) (.conflict .projectionMissing)
      pure (initialProjection (.str locked.currentState.name)
        (Json.ofOption locked.cancellationState) (Json.nat locked.currentSequence)
        (Json.ofOption locked.currentEventHash))
  | some projection => do
      require (projection.lastSequence = locked.currentSequence)
        (.conflict .projectionSequenceMismatch)
      pure projection.state

/-- The room that a segment keeps for the event that rolls it over. -/
def requireCapacity (locked : InstanceRow) (eventType : EventType)
    (canonicalBytes : Nat) : Attempt Unit := do
  require
    (¬ (eventType ≠ .segmentRollover ∧
      (maxSegmentEvents - 1 ≤ locked.eventCount ∨
        maxSegmentBytes - 16384 < locked.canonicalEventBytes + canonicalBytes)))
    (.conflict .rolloverRequired)
  require
    (¬ (eventType = .segmentRollover ∧
      maxSegmentBytes < locked.canonicalEventBytes + canonicalBytes))
    (.conflict .byteBoundaryExceeded)

def storeEvent (world : World) (locked : InstanceRow) (append : Append)
    (stored : EventRow) (L : Ledger) : Attempt Ledger := do
  let inserted ← insertEvent L stored
  let deadline ← check (bindTimestamp world append.nextDurableDeadline)
  let advanced ← advanceInstance inserted locked.workflowId locked.currentSequence
    stored.eventHash stored.canonicalBytes
    (append.currentState.getD locked.currentState)
    (append.terminal.getD locked.terminal) deadline
    (append.cancellationState.or locked.cancellationState)
  let prior ← priorState (readProjection advanced locked.workflowId) locked
  let (state, stateHash) ← check (project world prior stored)
  upsertProjection advanced
    { workflowId := locked.workflowId
      lastSequence := stored.sequence
      reducerVersion := locked.reducerVersion
      stateHash := stateHash
      state := state }

/-- The part of `_append_locked` after the search for an event with this key. -/
def appendFresh (world : World) (facade : Facade) (draw : Draw)
    (locked : InstanceRow) (idempotencyKey : String) (actor : Dict)
    (append : Append) (L : Ledger) : Attempt (EventRow × Ledger) := do
  let event ← check (buildSignedEvent world facade.signer draw locked
    append.eventType actor append.payload)
  requireCapacity locked append.eventType event.canonicalBytes
  check (validateContract "workflow_event" event.contract)
  let timerId ← check (bindText append.timerId)
  let externalMessageId ← check (bindText append.externalMessageId)
  let stored := event.stored idempotencyKey timerId externalMessageId
  let L' ← storeEvent world locked append stored L
  pure (stored, L')

def appendLocked (world : World) (facade : Facade) (draw : Draw)
    (locked : InstanceRow) (idempotencyKey : String) (actor : Dict)
    (append : Append) (L : Ledger) : Attempt (EventRow × Ledger) := do
  require (locked.terminal = false) (.conflict .insertClosed)
  let payloadSha256 ← check (sha256Hex world (.obj append.payload))
  match findIdempotentEvent L locked.workflowId idempotencyKey with
  | some prior => do
      require (prior.eventType = append.eventType ∧
        prior.payloadSha256 = payloadSha256) (.conflict .idempotencyKeyReused)
      pure (prior, L)
  | none => appendFresh world facade draw locked idempotencyKey actor append L

/-- An append operation up to its call of `_append_locked`. -/
structure Seam where
  workflowId : String
  expectedSequence : Int
  idempotencyKey : String
  actor : Dict
  /-- What is checked before the row is locked. -/
  precheck : Ledger → Check Unit
  /-- The match predicate handed to `_begin_append`. -/
  isRetryOf : EventRow → Bool
  /-- What is checked on the locked row before a retry is answered. -/
  kindCheck : InstanceRow → Attempt Unit
  /-- What is checked on the locked row before the append, and the append. -/
  plan : Ledger → InstanceRow → Attempt Append
  /-- What follows the append in the same transaction. -/
  after : Ledger → Attempt Ledger := fun L => .ok L

def Seam.run (seam : Seam) (world : World) (facade : Facade) (draw : Draw)
    (L : Ledger) : Attempt (EventRow × Ledger) := do
  check (seam.precheck L)
  let (locked, retry) ← beginAppend L seam.workflowId seam.expectedSequence
    seam.idempotencyKey seam.isRetryOf
  seam.kindCheck locked
  match retry with
  | some prior => pure (prior, L)
  | none => do
      let append ← seam.plan L locked
      let (event, L₁) ← appendLocked world facade draw locked
        seam.idempotencyKey seam.actor append L
      let L₂ ← seam.after L₁
      pure (event, L₂)

end MindscapeLocalCore.DurableState.FacadeAppend
