import MindscapeLocalCore.DurableState.Facade
import MindscapeLocalCore.DurableState.ProductIterationContract

/-!
The atomic execution terminal transition and its signed receipt.
-/

namespace MindscapeLocalCore.DurableState.TerminalReceipts

open Library.Json CanonicalJson Contracts Errors Events Facade FacadeAppend Records Repository
open Transitions

def parityFields : List String :=
  ["workflow_id", "root_workflow_id", "execution_id", "attempt_id",
    "workspace_id", "capability_identity", "development_attestation_id",
    "development_attestation_sha256", "consumer_compatibility_class",
    "configuration_fingerprint", "environment_fingerprint",
    "data_fingerprint", "workflow_definition_version", "reducer_version",
    "effect_adapter_registry_version", "runtime_build_id"]

def parityMismatch (receipt identity : Dict) : Option String :=
  parityFields.find? fun field =>
    !Json.pyEqOption (receipt.get? field) (identity.get? field)

def requireParity (receipt identity : Dict) : Check Unit :=
  match parityMismatch receipt identity with
  | some field => .error (.valueError
      ("terminal receipt " ++ field ++ " does not match locked identity"))
  | none => .ok ()

def terminalTransition (locked : InstanceRow) (target : State) : Append where
  eventType := .transition
  payload := transitionPayload locked.currentState.name target.name
  currentState := some target
  terminal := some false

def executionTerminalReceiptType : String := "execution_terminal_receipt"

def terminalReceipt (target : State) (signed : Dict) : Append where
  eventType := .transition
  payload := receiptMember (some ⟨executionTerminalReceiptType, signed⟩)
  currentState := some target
  terminal := some true

def boundReceipt (world : World) (facade : Facade) (receipt : Dict)
    (transition : EventRow) : Dict :=
  (((receipt.set "terminal_sequence" (Json.nat transition.sequence)).set
    "terminal_event_hash" (.str transition.eventHash)).set
    "key_id" (.str (facade.signer.keyId world))).erase "signature"

def signReceipt (world : World) (facade : Facade) (receipt : Dict)
    (transition : EventRow) : Check Dict := do
  let unsigned := boundReceipt world facade receipt transition
  let encoded ← encode (.obj unsigned)
  let signed := unsigned.set "signature" (.str (facade.signer.signature encoded))
  validateContract executionTerminalReceiptType signed
  pure signed

def storedReceipt (event : EventRow) : Check Dict := do
  let typed ← dictItem event.payload "typed_receipt"
  dictItem typed "receipt"

def appendFreshTerminal (world : World) (facade : Facade) (draw : Nat → Draw)
    (input : AppendInput) (targetState : String) (receipt : Dict) (L : Ledger) :
    Attempt (Dict × Ledger) := do
  let locked ← check (lockInstance L input.workflowId)
  check (ensure ((locked.currentSequence : Int) = input.expectedSequence)
    "terminal transition sequence is stale")
  check (ensure (locked.workflowKind = .execution)
    "execution terminal receipt requires execution workflow kind")
  let (target, terminal) ← check (requireTransition .execution
    locked.currentState targetState)
  check (ensure (terminal = true) "execution terminal target must be terminal")
  check (requireParity receipt locked.semanticIdentity)
  let (transition, L₁) ← appendLocked world facade (draw 0) locked
    (input.idempotencyKey ++ ":transition") input.actor
    (terminalTransition locked target) L
  let signed ← check (signReceipt world facade receipt transition)
  let afterTransition ← check (lockInstance L₁ input.workflowId)
  let (_, L₂) ← appendLocked world facade (draw 1) afterTransition
    (input.idempotencyKey ++ ":receipt") input.actor
    (terminalReceipt target signed) L₁
  pure (signed, L₂)

def appendExecutionTerminal (world : World) (facade : Facade) (draw : Nat → Draw)
    (input : AppendInput) (targetState : String) (receipt : Dict) (L : Ledger) :
    Attempt (Dict × Ledger) :=
  match findIdempotentEvent L input.workflowId
      (input.idempotencyKey ++ ":receipt") with
  | some existing => do
      let stored ← check (storedReceipt existing)
      check (ensure
        (receipt.all fun kv =>
          Json.pyEqOption (stored.get? kv.1) (receipt.get? kv.1))
        "terminal idempotency key was used for different input")
      pure (stored, L)
  | none => appendFreshTerminal world facade draw input targetState receipt L

end MindscapeLocalCore.DurableState.TerminalReceipts
