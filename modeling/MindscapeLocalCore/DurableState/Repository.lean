import MindscapeLocalCore.DurableState.Records

/-!
Connection-bound persistence.  A read returns a row of the ledger; a write
returns the next ledger or fails on a table constraint.
-/

namespace MindscapeLocalCore.DurableState.Repository

open Library.Guarded Library.Json Library.Table CanonicalJson Errors Records Transitions

def constrain (c : Prop) [Decidable c] (constraint : Constraint) : Attempt Unit :=
  require c (.integrity constraint)

@[simp] theorem constrain_eq_ok {c : Prop} [Decidable c]
    {constraint : Constraint} {u : Unit} :
    constrain c constraint = .ok u ↔ c := require_eq_ok

/-! ## Instances -/

def insertInstance (L : Ledger) (row : InstanceRow) : Attempt Ledger := do
  constrain (L.row? row.workflowId = none) .instancePrimaryKey
  constrain (lookup InstanceRow.segmentId row.segmentId L.instances = none)
    .segmentIdUnique
  constrain
    (lookup (fun r : InstanceRow => (r.rootWorkflowId, r.segmentNumber))
      (row.rootWorkflowId, row.segmentNumber) L.instances = none)
    .rootSegmentUnique
  constrain
    ((row.segmentNumber = 0 ∧ row.predecessorSegmentId = none ∧
        row.predecessorTerminalHash = none) ∨
      (0 < row.segmentNumber ∧ row.predecessorSegmentId ≠ none ∧
        row.predecessorTerminalHash ≠ none))
    .segmentPredecessor
  constrain (octetLength row.semanticIdentity ≤ 16384) .semanticIdentitySize
  .ok { L with instances := L.instances ++ [row] }

/-- `SELECT … WHERE workflow_id = :workflow_id`, with or without `FOR UPDATE`. -/
def readInstance (L : Ledger) (w : String) : Check InstanceRow :=
  match L.row? w with
  | some row => .ok row
  | none => .error (.keyError w)

def lockInstance (L : Ledger) (w : String) : Check InstanceRow := readInstance L w

theorem readInstance_eq_ok {L : Ledger} {w : String} {row : InstanceRow} :
    readInstance L w = .ok row ↔ L.row? w = some row := by
  unfold readInstance
  split <;> simp_all

theorem lockInstance_eq_ok {L : Ledger} {w : String} {row : InstanceRow} :
    lockInstance L w = .ok row ↔ L.row? w = some row := readInstance_eq_ok

def maxSegmentEvents : Nat := 10000

def maxSegmentBytes : Nat := 64 * 1024 * 1024

/-- The row after an event of `eventBytes` bytes. -/
def advancedRow (row : InstanceRow) (eventHash : String) (eventBytes : Nat)
    (currentState : State) (terminal : Bool)
    (nextDurableDeadline : Option Timestamp) (cancellationState : Option String) :
    InstanceRow :=
  { row with
    currentSequence := row.currentSequence + 1
    currentEventHash := some eventHash
    currentState := currentState
    terminal := terminal
    eventCount := row.eventCount + 1
    canonicalEventBytes := row.canonicalEventBytes + eventBytes
    nextDurableDeadline := nextDurableDeadline
    cancellationState := cancellationState }

/-- The update counts as a compare-and-swap on `current_sequence`. -/
def advanceInstance (L : Ledger) (w : String) (expectedSequence : Nat)
    (eventHash : String) (eventBytes : Nat) (currentState : State)
    (terminal : Bool) (nextDurableDeadline : Option Timestamp)
    (cancellationState : Option String) : Attempt Ledger :=
  match L.row? w with
  | none => .error .compareAndSwapFailed
  | some row =>
      if row.currentSequence = expectedSequence then do
        constrain (row.eventCount + 1 ≤ maxSegmentEvents) .eventCountRange
        constrain (row.canonicalEventBytes + eventBytes ≤ maxSegmentBytes)
          .canonicalEventBytesRange
        .ok { L with
          instances := amend InstanceRow.workflowId w
            (fun row => advancedRow row eventHash eventBytes currentState
              terminal nextDurableDeadline cancellationState)
            L.instances }
      else .error .compareAndSwapFailed

/-! ## Events -/

def findIdempotentEvent (L : Ledger) (w key : String) : Option EventRow :=
  lookup EventRow.idempotencyKey key (L.eventsOf w)

def partialKey (part : EventRow → Option String) (e : EventRow)
    (rows : List EventRow) : Prop :=
  ∀ k, part e = some k → ∀ e' ∈ rows, part e' ≠ some k

instance (part : EventRow → Option String) (e : EventRow) (rows : List EventRow) :
    Decidable (partialKey part e rows) :=
  match h : part e with
  | none => isTrue (by intro k hk; simp [h] at hk)
  | some k =>
      decidable_of_iff (∀ e' ∈ rows, part e' ≠ some k)
        ⟨fun hall k' hk' => by
          have : k = k' := by simpa [h] using hk'
          exact this ▸ hall, fun hall => hall k h⟩

/-- The text that `#>>` extracts at a path of a payload. -/
def pathText (payload : Dict) : List String → Option String
  | [] => none
  | [k] => (payload.get? k).bind Json.str?
  | k :: rest =>
      match payload.get? k with
      | some (.obj members) => pathText members rest
      | _ => none

theorem partialKey_of_none {part : EventRow → Option String} {e : EventRow}
    {rows : List EventRow} (h : part e = none) : partialKey part e rows := by
  intro k hk
  rw [h] at hk
  cases hk

/-- `uq_durable_workflow_terminal_receipt_id` -/
def terminalReceiptId (e : EventRow) : Option String :=
  if e.eventType = .transition ∧
      pathText e.payload ["typed_receipt", "receipt_type"] =
        some "execution_terminal_receipt" then
    pathText e.payload ["typed_receipt", "receipt", "receipt_id"]
  else none

/-- `uq_durable_workflow_enrollment_terminal_receipt` -/
def enrollmentTerminalReceiptId (e : EventRow) : Option String :=
  if e.eventType = .iterationEnrollmentAccepted then
    pathText e.payload ["enrollment", "terminal_receipt_id"]
  else none

def insertEvent (L : Ledger) (e : EventRow) : Attempt Ledger := do
  constrain (lookup EventRow.eventId e.eventId L.events = none) .eventPrimaryKey
  constrain (lookup EventRow.sequence e.sequence (L.eventsOf e.workflowId) = none)
    .eventSequenceUnique
  constrain (findIdempotentEvent L e.workflowId e.idempotencyKey = none)
    .idempotencyKeyUnique
  constrain (2 ≤ e.canonicalBytes ∧ e.canonicalBytes ≤ 16384) .canonicalBytesRange
  constrain (octetLength e.actor ≤ 4096) .actorSize
  constrain (octetLength e.payload ≤ 16384) .payloadSize
  constrain (partialKey EventRow.timerId e (L.eventsOf e.workflowId)) .timerIdUnique
  constrain (partialKey EventRow.externalMessageId e (L.eventsOf e.workflowId))
    .externalMessageIdUnique
  constrain (partialKey terminalReceiptId e L.events) .terminalReceiptIdUnique
  constrain (partialKey enrollmentTerminalReceiptId e L.events)
    .enrollmentTerminalReceiptUnique
  .ok { L with events := L.events ++ [e] }

/-! ## Projections -/

def readProjection (L : Ledger) (w : String) : Option ProjectionRow :=
  L.projection? w

/-- The stored row is replaced only by its direct successor. -/
def upsertProjection (L : Ledger) (p : ProjectionRow) : Attempt Ledger := do
  constrain (octetLength p.state ≤ 16384) .projectionStateSize
  match readProjection L p.workflowId with
  | none => .ok { L with projections := L.projections ++ [p] }
  | some stored =>
      if stored.lastSequence + 1 = p.lastSequence then
        .ok { L with
          projections := amend ProjectionRow.workflowId p.workflowId
            (fun _ => p) L.projections }
      else .ok L

/-! ## Approvals and side effects -/

def readApprovalConsumption (L : Ledger) (consumptionId : String) :
    Check ApprovalConsumptionRow :=
  match lookup ApprovalConsumptionRow.consumptionId consumptionId
      L.approvalConsumptions with
  | some row => .ok row
  | none => .error (.keyError consumptionId)

def readSideEffectReceipt (L : Ledger) (receiptId : String) :
    Check SideEffectRow :=
  match lookup SideEffectRow.receiptId receiptId L.sideEffects with
  | some row => .ok row
  | none => .error (.keyError receiptId)

end MindscapeLocalCore.DurableState.Repository
