import Mathlib.Data.List.MinMax
import MindscapeLocalCore.Library.AppendTable
import MindscapeLocalCore.DurableState.RuntimeOwnerReceipts
/-!
Release-policy reads and the owner-signed compare-and-swap, in the steps that the
callers' transactions interleave: the locked read of the current row, the insert,
and the end of the transaction.
-/

namespace MindscapeLocalCore.DurableState.ReleasePolicy

open Library.AppendTable Library.Guarded Library.Table RuntimeOwnerReceipts

/-- A row of `durable_workflow_release_policies`. -/
structure DurableReleasePolicy where
  workspaceId : String
  workflowKind : WorkflowKind
  revision : ℤ
  supersedesRevision : Option ℤ
  mode : PolicyMode
  policy : ReleasePolicy
  policyHash : String
  ownerReceipt : OwnerReceipt
  canaryReceipt : OwnerReceipt
  ownerReceiptId : String
  ownerReceiptSha256 : String
  trustedKeyRegistryRevision : String
  trustedKeyRegistrySha256 : String
  keyId : String
  signature : String
  createdBy : String
  createdAt : String
deriving DecidableEq

def DurableReleasePolicy.key (row : DurableReleasePolicy) : String × WorkflowKind :=
  (row.workspaceId, row.workflowKind)

def SamePrimaryKey (row row' : DurableReleasePolicy) : Prop :=
  row.key = row'.key ∧ row.revision = row'.revision

inductive CasError where
  | receipt (text : String)
  | invalid (text : String)
  | conflict (expectedRevision actualRevision : ℤ)
  | database
deriving DecidableEq

def readCurrent (rows : List DurableReleasePolicy) (workspaceId : String)
    (workflowKind : WorkflowKind) : Option DurableReleasePolicy :=
  @List.argmax _ ℤ Int.instLinearOrder.toPreorder Int.decLt (·.revision)
    (select DurableReleasePolicy.key (workspaceId, workflowKind) rows)

def validateReceiptRelationship (cas canary : VerifiedOwnerDecision) :
    Except CasError ReleasePolicyCas :=
  match cas.receipt.payload, canary.receipt.payload with
  | .durableReleasePolicyCas payload, .exactCanaryAdmission admission => do
      require (payload.casAuthorityId = cas.receipt.ownerId)
        (.invalid "durable_release_policy_cas_authority_mismatch")
      require (payload.policy.canaryReceiptId = canary.receipt.receiptId)
        (.invalid "durable_release_policy_canary_receipt_id_mismatch")
      require (payload.policy.canaryReceiptSha256 = canary.receiptSha256)
        (.invalid "durable_release_policy_canary_receipt_hash_mismatch")
      require (payload.policy.canary = admission)
        (.invalid "durable_release_policy_canary_payload_mismatch")
      pure payload
  | .durableReleasePolicyCas _, _ =>
      .error (.invalid "exact_canary_admission_receipt_required")
  | _, _ => .error (.invalid "durable_release_policy_cas_receipt_required")

def compareCurrent (payload : ReleasePolicyCas) (current : Option DurableReleasePolicy) :
    Except CasError Unit := do
  let actualRevision := (current.map (·.revision)).getD 0
  require (actualRevision = payload.expectedRevision)
    (.conflict payload.expectedRevision actualRevision)
  require (current.map (·.mode) = payload.fromMode)
    (.invalid "durable_release_policy_from_mode_mismatch")

def insertParams (payload : ReleasePolicyCas) (cas canary : VerifiedOwnerDecision) :
    DurableReleasePolicy where
  workspaceId := payload.workspaceId
  workflowKind := payload.workflowKind
  revision := payload.targetRevision
  supersedesRevision :=
    if payload.expectedRevision > 0 then some payload.expectedRevision else none
  mode := payload.toMode
  policy := payload.policy
  policyHash := payload.policyHash
  ownerReceipt := cas.receipt
  canaryReceipt := canary.receipt
  ownerReceiptId := cas.receipt.receiptId
  ownerReceiptSha256 := cas.receiptSha256
  trustedKeyRegistryRevision := cas.registryRevision
  trustedKeyRegistrySha256 := cas.registrySha256
  keyId := cas.receipt.keyId
  signature := cas.receipt.signature
  createdBy := cas.receipt.ownerId
  createdAt := cas.receipt.issuedAt

structure CasCall where
  casReceipt : OwnerReceipt
  canaryReceipt : OwnerReceipt
  trustedRegistry : TrustedRegistry
  expectedRegistrySha256 : String
  now : ℚ

variable (v : Verifier)

def verified (receipt : OwnerReceipt) (call : CasCall) :
    Except CasError VerifiedOwnerDecision :=
  match verifyOwnerDecision v receipt call.trustedRegistry call.expectedRegistrySha256
      call.now with
  | .ok decision => .ok decision
  | .error text => .error (.receipt text)

/-- `compare_and_swap` up to the insert, over the rows that its read sees. -/
def prepare (call : CasCall) (rows : List DurableReleasePolicy) :
    Except CasError DurableReleasePolicy := do
  let cas ← verified v call.casReceipt call
  let canary ← verified v call.canaryReceipt call
  let payload ← validateReceiptRelationship cas canary
  compareCurrent payload (readCurrent rows payload.workspaceId payload.workflowKind)
  pure (insertParams payload cas canary)

/-- The rows, the insert that each transaction has open, and the transactions that
an error of the database has ended. -/
structure Database (τ : Type) where
  rows : Rows τ DurableReleasePolicy
  inserting : τ → Option DurableReleasePolicy
  aborted : τ → Bool

def Database.empty {τ : Type} : Database τ := ⟨.empty, fun _ => none, fun _ => false⟩

inductive Event (τ : Type) where
  | read (t : τ) (call : CasCall)
  | insert (t : τ)
  | commit (t : τ)
  | rollback (t : τ)

inductive Outcome where
  | continues
  | stored (row : DurableReleasePolicy)
  | raised (error : CasError)

variable {τ : Type} [DecidableEq τ]

def Database.open (db : Database τ) (t : τ) (row : Option DurableReleasePolicy) :
    Database τ :=
  { db with inserting := Function.update db.inserting t row }

def Database.abort (db : Database τ) (t : τ) : Database τ :=
  { db.open t none with aborted := Function.update db.aborted t true }

/-- A step of one transaction. The read sees the committed rows of some earlier
moment, whatever the isolation level, and the transaction's own rows. An insert waits
as long as another transaction has a row pending that conflicts with it. The
database may end a transaction with an error at any statement. -/
inductive Step : Database τ → Event τ → Outcome → Database τ → Prop
  | rejected {db t call seen error} (hidle : db.inserting t = none)
      (hseen : seen <+: db.rows.committed)
      (herror : prepare v call (seen ++ db.rows.pending t) = .error error) :
      Step db (.read t call) (.raised error) db
  | prepared {db t call seen row} (hidle : db.inserting t = none)
      (hlive : db.aborted t = false) (hseen : seen <+: db.rows.committed)
      (hrow : prepare v call (seen ++ db.rows.pending t) = .ok row) :
      Step db (.read t call) .continues (db.open t (some row))
  | readFailed {db t call} (hidle : db.inserting t = none) :
      Step db (.read t call) (.raised .database) (db.abort t)
  | conflicted {db t row row' expected actual} (hrow : db.inserting t = some row)
      (hvisible : row' ∈ db.rows.visible t) (hsame : SamePrimaryKey row' row) :
      Step db (.insert t) (.raised (.conflict expected actual)) (db.open t none)
  | inserted {db t row} (hrow : db.inserting t = some row)
      (hvisible : ∀ row' ∈ db.rows.visible t,
        ¬ SamePrimaryKey row' row ∧ row'.ownerReceiptId ≠ row.ownerReceiptId)
      (hpending : ∀ t', ∀ row' ∈ db.rows.pending t',
        ¬ SamePrimaryKey row' row ∧ row'.ownerReceiptId ≠ row.ownerReceiptId) :
      Step db (.insert t) (.stored row)
        { db.open t none with rows := db.rows.insert t row }
  | insertFailed {db t row} (hrow : db.inserting t = some row) :
      Step db (.insert t) (.raised .database) (db.abort t)
  | committed {db t} (hidle : db.inserting t = none) (hlive : db.aborted t = false) :
      Step db (.commit t) .continues { db with rows := db.rows.commit t }
  | commitAborted {db t} (hidle : db.inserting t = none) (habort : db.aborted t = true) :
      Step db (.commit t) .continues
        { db with
          rows := db.rows.rollback t
          aborted := Function.update db.aborted t false }
  | rolledBack {db t} :
      Step db (.rollback t) .continues
        { db.open t none with
          rows := db.rows.rollback t
          aborted := Function.update db.aborted t false }

inductive Reachable : Database τ → Prop
  | empty : Reachable .empty
  | step {db event outcome db'} (h : Reachable db) (hs : Step v db event outcome db') :
      Reachable db'

end MindscapeLocalCore.DurableState.ReleasePolicy
