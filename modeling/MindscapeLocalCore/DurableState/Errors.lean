import MindscapeLocalCore.Library.Guarded
import MindscapeLocalCore.Library.Json

/-!
The exceptions that the durable-workflow package raises.  A transaction that
raises one of them is rolled back, so an error carries no state.
-/

namespace MindscapeLocalCore.DurableState.Errors

open Library.Guarded Library.Json

/-- Exceptions of the checks that a command makes before it writes. -/
inductive Rejection where
  | valueError (message : String)
  | keyError (key : String)
  | typeError
  | dataError (column : String)
  | canonicalPayload
  | contractValidation (schema : String)
  | invalidTransition (kind current target : String)
  | incompatibleHistory (field version : String)
  deriving DecidableEq

/-- `DurableWorkflowConflict`, by the place that raises it. -/
inductive Conflict where
  | staleSequence (expected : Int) (found : Nat)
  | insertClosed
  | idempotencyKeyReused
  | rolloverRequired
  | byteBoundaryExceeded
  | projectionMissing
  | projectionSequenceMismatch
  | transitionSeam (kind : String)
  | receiptSeam (kind : String)
  | executionTerminalSeam
  | terminalCannotBeCancelled
  | rolloverThresholdNotReached
  deriving DecidableEq

inductive Constraint where
  | instancePrimaryKey | segmentIdUnique | rootSegmentUnique
  | segmentPredecessor | semanticIdentitySize
  | eventCountRange | canonicalEventBytesRange
  | eventPrimaryKey | eventSequenceUnique | idempotencyKeyUnique
  | canonicalBytesRange | actorSize | payloadSize
  | timerIdUnique | externalMessageIdUnique
  | terminalReceiptIdUnique | enrollmentTerminalReceiptUnique
  | projectionStateSize | receiptPayloadSize
  | approvalPrimaryKey | approvalActionUnique | approvalQuorumRange
  | approvalWorkflow | decisionPrimaryKey | decisionValue | decisionDeciderUnique
  | consumptionPrimaryKey | consumptionApprovalUnique
  | consumptionDeliveryUnique | consumptionEffectUnique
  | sideEffectPrimaryKey | sideEffectWorkflow | sideEffectAttemptUnique
  | sideEffectTerminalOwnerUnique
  | checkpointPrimaryKey | checkpointSequenceUnique
  deriving DecidableEq

inductive Failure where
  | rejected (r : Rejection)
  | conflict (c : Conflict)
  | integrity (c : Constraint)
  | compareAndSwapFailed
  deriving DecidableEq

abbrev Check (α : Type) := Except Rejection α

abbrev Attempt (α : Type) := Except Failure α

def check {α : Type} (c : Check α) : Attempt α := lifted Failure.rejected c

@[simp] theorem check_eq_ok {α : Type} {c : Check α} {a : α} :
    check c = .ok a ↔ c = .ok a := lifted_eq_ok

@[simp] theorem check_ok {α : Type} (a : α) : check (.ok a) = .ok a := rfl

/-- `raise ValueError(message)` unless `c` holds. -/
def ensure (c : Prop) [Decidable c] (message : String) : Check Unit :=
  require c (.valueError message)

@[simp] theorem ensure_eq_ok {c : Prop} [Decidable c] {message : String}
    {u : Unit} : ensure c message = .ok u ↔ c := require_eq_ok

theorem ensure_of {c : Prop} [Decidable c] {message : String} (h : c) :
    ensure c message = .ok () := ensure_eq_ok.mpr h

/-- `d[k]` -/
def item (d : Dict) (k : String) : Check Json :=
  match d.get? k with
  | some value => .ok value
  | none => .error (.keyError k)

@[simp] theorem item_eq_ok {d : Dict} {k : String} {value : Json} :
    item d k = .ok value ↔ d.get? k = some value := by
  unfold item
  split <;> simp_all

def asDict : Json → Check Dict
  | .obj members => .ok members
  | _ => .error .typeError

@[simp] theorem asDict_eq_ok {j : Json} {d : Dict} :
    asDict j = .ok d ↔ j = .obj d := by
  cases j <;> simp [asDict]

def asText : Json → Check String
  | .str value => .ok value
  | _ => .error .typeError

@[simp] theorem asText_eq_ok {j : Json} {s : String} :
    asText j = .ok s ↔ j = .str s := by
  cases j <;> simp [asText]

def asList : Json → Check (List Json)
  | .arr items => .ok items
  | _ => .error .typeError

/-- `d[k]`, used as an object. -/
def dictItem (d : Dict) (k : String) : Check Dict := item d k >>= asDict

/-- `d[k]`, used as a string. -/
def textItem (d : Dict) (k : String) : Check String := item d k >>= asText

theorem textItem_eq_ok {d : Dict} {k s : String} :
    textItem d k = .ok s ↔ d.get? k = some (.str s) := by
  simp [textItem, bind_eq_ok]

theorem dictItem_eq_ok {d members : Dict} {k : String} :
    dictItem d k = .ok members ↔ d.get? k = some (.obj members) := by
  simp [dictItem, bind_eq_ok]

/-- `d.get(k)`, bound to a nullable text column. -/
def optionalText (d : Dict) (k : String) : Check (Option String) :=
  match d.get? k with
  | none => .ok none
  | some .null => .ok none
  | some (.str value) => .ok (some value)
  | some _ => .error (.dataError k)

def firstMismatch (receipt : Dict) : List (String × Json) → Option String
  | [] => none
  | (field, value) :: rest =>
      if Json.pyEqOption (receipt.get? field) (some value) then
        firstMismatch receipt rest
      else some field

/-- The fields of `source` under their own names. -/
def fields (source : Dict) : List String → Check (List (String × Json))
  | [] => .ok []
  | k :: ks => do
      let value ← item source k
      let rest ← fields source ks
      pure ((k, value) :: rest)

end MindscapeLocalCore.DurableState.Errors

/-!
Exact state transition tables for the three workflow kinds.
-/

namespace MindscapeLocalCore.DurableState.Transitions

open Errors

inductive WorkflowKind where
  | execution | productIteration | productRelease
  deriving DecidableEq

def WorkflowKind.name : WorkflowKind → String
  | .execution => "execution"
  | .productIteration => "product_iteration"
  | .productRelease => "product_release"

def WorkflowKind.ofName? (s : String) : Option WorkflowKind :=
  [WorkflowKind.execution, .productIteration, .productRelease].find?
    fun kind => kind.name = s

inductive State where
  | pending | running | waiting | succeeded | failed | cancelled | escalated
  | draft | admitted | collecting | evidenceReady | decisionPending
  | promoted | rejected | inconclusive | superseded
  | observing | healthy | rollbackRequired | rollbackAuthorized
  | rollbackBlocked | rollbackEffectPending | rollbackCompleted | rollbackFailed
  deriving DecidableEq

def State.name : State → String
  | .pending => "pending"
  | .running => "running"
  | .waiting => "waiting"
  | .succeeded => "succeeded"
  | .failed => "failed"
  | .cancelled => "cancelled"
  | .escalated => "escalated"
  | .draft => "draft"
  | .admitted => "admitted"
  | .collecting => "collecting"
  | .evidenceReady => "evidence_ready"
  | .decisionPending => "decision_pending"
  | .promoted => "promoted"
  | .rejected => "rejected"
  | .inconclusive => "inconclusive"
  | .superseded => "superseded"
  | .observing => "observing"
  | .healthy => "healthy"
  | .rollbackRequired => "rollback_required"
  | .rollbackAuthorized => "rollback_authorized"
  | .rollbackBlocked => "rollback_blocked"
  | .rollbackEffectPending => "rollback_effect_pending"
  | .rollbackCompleted => "rollback_completed"
  | .rollbackFailed => "rollback_failed"

def State.all : List State :=
  [.pending, .running, .waiting, .succeeded, .failed, .cancelled, .escalated,
    .draft, .admitted, .collecting, .evidenceReady, .decisionPending, .promoted,
    .rejected, .inconclusive, .superseded, .observing, .healthy,
    .rollbackRequired, .rollbackAuthorized, .rollbackBlocked,
    .rollbackEffectPending, .rollbackCompleted, .rollbackFailed]

def State.ofName? (s : String) : Option State :=
  State.all.find? fun state => state.name = s

@[simp] theorem State.ofName?_name (state : State) :
    State.ofName? state.name = some state := by
  cases state <;> decide

theorem State.name_injective {a b : State} (h : a.name = b.name) : a = b := by
  have hname : State.ofName? a.name = State.ofName? b.name := by rw [h]
  simpa using hname

/-- `INITIAL_STATES` -/
def initialState : WorkflowKind → State
  | .execution => .pending
  | .productIteration => .draft
  | .productRelease => .draft

/-- `TRANSITIONS[kind].get(current)`; `none` where `current` is no state of the
kind. -/
def transitions : WorkflowKind → State → Option (List State)
  | .execution, .pending => some [.running, .waiting, .cancelled]
  | .execution, .running =>
      some [.waiting, .succeeded, .failed, .cancelled, .escalated]
  | .execution, .waiting => some [.running, .cancelled, .escalated]
  | .execution, .succeeded => some []
  | .execution, .failed => some []
  | .execution, .cancelled => some []
  | .execution, .escalated => some []
  | .productIteration, .draft => some [.admitted, .cancelled, .superseded]
  | .productIteration, .admitted => some [.collecting, .cancelled, .superseded]
  | .productIteration, .collecting =>
      some [.evidenceReady, .inconclusive, .cancelled, .superseded]
  | .productIteration, .evidenceReady =>
      some [.decisionPending, .inconclusive, .cancelled, .superseded]
  | .productIteration, .decisionPending =>
      some [.promoted, .rejected, .inconclusive, .cancelled, .superseded]
  | .productIteration, .promoted => some []
  | .productIteration, .rejected => some []
  | .productIteration, .inconclusive => some []
  | .productIteration, .cancelled => some []
  | .productIteration, .superseded => some []
  | .productRelease, .draft => some [.observing]
  | .productRelease, .observing =>
      some [.healthy, .rollbackRequired, .inconclusive]
  | .productRelease, .rollbackRequired =>
      some [.rollbackAuthorized, .rollbackBlocked]
  | .productRelease, .rollbackAuthorized => some [.rollbackEffectPending]
  | .productRelease, .rollbackEffectPending =>
      some [.rollbackCompleted, .rollbackFailed]
  | .productRelease, .healthy => some []
  | .productRelease, .inconclusive => some []
  | .productRelease, .rollbackBlocked => some []
  | .productRelease, .rollbackCompleted => some []
  | .productRelease, .rollbackFailed => some []
  | _, _ => none

/-- The states that `TRANSITIONS` lets a workflow go to. -/
def successors (kind : WorkflowKind) (current : State) : List State :=
  (transitions kind current).getD []

def IsSink (kind : WorkflowKind) (state : State) : Prop :=
  successors kind state = []

instance (kind : WorkflowKind) (state : State) : Decidable (IsSink kind state) :=
  inferInstanceAs (Decidable (successors kind state = []))

/-- `require_transition`: the named target and whether it is terminal. -/
def requireTransition (kind : WorkflowKind) (current : State)
    (target : String) : Check (State × Bool) :=
  match (successors kind current).find? (fun state => state.name = target) with
  | none => .error (.invalidTransition kind.name current.name target)
  | some state => .ok (state, decide (IsSink kind state))

theorem requireTransition_eq_ok {kind : WorkflowKind} {current : State}
    {target : String} {state : State} {terminal : Bool}
    (h : requireTransition kind current target = .ok (state, terminal)) :
    state ∈ successors kind current ∧ state.name = target ∧
      terminal = decide (IsSink kind state) := by
  unfold requireTransition at h
  split at h
  · cases h
  · rename_i found hfind
    cases h
    exact ⟨List.mem_of_find?_eq_some hfind,
      by simpa using List.find?_some hfind, rfl⟩

theorem not_isSink_initialState (kind : WorkflowKind) :
    ¬ IsSink kind (initialState kind) := by
  cases kind <;> decide

end MindscapeLocalCore.DurableState.Transitions
