import Mathlib.Algebra.Order.Group.Int
import Mathlib.Data.List.Basic

/-!
The deployment-control row and its replacement by signed envelopes.
-/

namespace MindscapeLocalCore.DeploymentControl.StateRepository

structure EnvelopePackRef where
  provider : String
  code : String
  version : String
deriving DecidableEq

def EnvelopePackRef.canonicalRef (ref : EnvelopePackRef) : String :=
  ref.provider ++ ":" ++ ref.code ++ "@" ++ ref.version

structure EnvelopeProductGrant where
  pcsId : String
  pcsVersion : String
  surfaceIds : List String
  packClosure : List EnvelopePackRef
deriving DecidableEq

/-- `DeploymentCapabilityEnvelopeClaims`; times are numbers. -/
structure Claims where
  issuer : String
  audience : String
  providerCode : String
  sourceRuntimeId : String
  tenantId : String
  siteId : String
  catalogHash : String
  issuedAt : ℤ
  notBefore : ℤ
  expiresAt : ℤ
  envelopeRevision : ℤ
  allowedProducts : List EnvelopeProductGrant
deriving DecidableEq

structure Document where
  claims : Claims
  kid : String
  signature : String
deriving DecidableEq

/-- `items == sorted(set(items))`. -/
def sortedUnique (items : List String) : Bool := decide (items.Pairwise (· < ·))

def EnvelopeProductGrant.valid (product : EnvelopeProductGrant) : Bool :=
  sortedUnique product.surfaceIds &&
    sortedUnique (product.packClosure.map EnvelopePackRef.canonicalRef)

def productBefore (a b : EnvelopeProductGrant) : Bool :=
  decide (a.pcsId < b.pcsId) || (a.pcsId == b.pcsId && decide (a.pcsVersion < b.pcsVersion))

def Document.valid (document : Document) : Bool :=
  decide (1 ≤ document.claims.envelopeRevision) &&
    document.claims.allowedProducts.all EnvelopeProductGrant.valid &&
    decide (document.claims.allowedProducts.Pairwise fun a b => productBefore a b = true)

/-- `SignedDeploymentCapabilityEnvelope` -/
structure SignedEnvelope where
  document : Document
  valid : document.valid = true

def nul : Char := Char.ofNat 0

/-- `replace_json_nul_codepoints` of a text. -/
def withoutNul (text : String) : String :=
  String.ofList (text.toList.map fun c => if c = nul then Char.ofNat 0xfffd else c)

def EnvelopePackRef.withoutNul (ref : EnvelopePackRef) : EnvelopePackRef :=
  { provider := StateRepository.withoutNul ref.provider
    code := StateRepository.withoutNul ref.code
    version := StateRepository.withoutNul ref.version }

def EnvelopeProductGrant.withoutNul (product : EnvelopeProductGrant) : EnvelopeProductGrant :=
  { pcsId := StateRepository.withoutNul product.pcsId
    pcsVersion := StateRepository.withoutNul product.pcsVersion
    surfaceIds := product.surfaceIds.map StateRepository.withoutNul
    packClosure := product.packClosure.map EnvelopePackRef.withoutNul }

def Document.withoutNul (document : Document) : Document :=
  { claims := {
      issuer := StateRepository.withoutNul document.claims.issuer
      audience := StateRepository.withoutNul document.claims.audience
      providerCode := StateRepository.withoutNul document.claims.providerCode
      sourceRuntimeId := StateRepository.withoutNul document.claims.sourceRuntimeId
      tenantId := StateRepository.withoutNul document.claims.tenantId
      siteId := StateRepository.withoutNul document.claims.siteId
      catalogHash := StateRepository.withoutNul document.claims.catalogHash
      issuedAt := document.claims.issuedAt
      notBefore := document.claims.notBefore
      expiresAt := document.claims.expiresAt
      envelopeRevision := document.claims.envelopeRevision
      allowedProducts := document.claims.allowedProducts.map EnvelopeProductGrant.withoutNul }
    kid := StateRepository.withoutNul document.kid
    signature := StateRepository.withoutNul document.signature }

/-- The columns of `deployment_control_state`. -/
structure Row where
  mode : String
  providerCode : Option String
  activeEnvelope : Option Document
  envelopeHash : Option String
  issuer : Option String
  keyId : Option String
  expiresAt : Option ℤ
  envelopeRevision : Option ℤ
  stateRevision : ℤ
  updatedBy : String
deriving DecidableEq

def unmanagedLocal : String := "unmanaged_local"

def providerManaged : String := "provider_managed"

/-- `chk_deployment_control_mode` and `chk_deployment_control_state_shape` -/
def Row.shape (row : Row) : Bool :=
  (row.mode == unmanagedLocal && row.providerCode.isNone && row.activeEnvelope.isNone &&
      row.envelopeHash.isNone && row.issuer.isNone && row.keyId.isNone && row.expiresAt.isNone &&
      row.envelopeRevision.isNone) ||
    (row.mode == providerManaged && row.providerCode.isSome && row.activeEnvelope.isSome &&
      row.envelopeHash.isSome && row.issuer.isSome && row.keyId.isSome && row.expiresAt.isSome &&
      row.envelopeRevision.any fun revision => decide (1 ≤ revision))

def fitsColumn (length : ℕ) (text : String) : Bool :=
  decide (text.length ≤ length) && !text.toList.contains nul

def maxBigInt : ℤ := 2 ^ 63 - 1

def Row.fits (row : Row) : Bool :=
  row.shape && decide (1 ≤ row.stateRevision ∧ row.stateRevision ≤ maxBigInt) &&
    row.envelopeRevision.all (fun revision => decide (revision ≤ maxBigInt)) &&
    row.providerCode.all (fitsColumn 64) && row.envelopeHash.all (fitsColumn 64) &&
    row.issuer.all (fitsColumn 128) && row.keyId.all (fitsColumn 128) &&
    fitsColumn 128 row.updatedBy

structure StoredRow where
  row : Row
  fits : row.fits = true

/-- `DeploymentControlState` -/
structure State where
  mode : String
  providerCode : Option String
  signedEnvelope : Option Document
  envelopeHash : Option String
  issuer : Option String
  keyId : Option String
  expiresAt : Option ℤ
  envelopeRevision : Option ℤ
  stateRevision : ℤ
  updatedBy : Option String
deriving DecidableEq

/-- `_row_to_state`, unless a stored envelope is not valid. -/
def rowToState : Option StoredRow → Option State
  | none => some {
      mode := unmanagedLocal
      providerCode := none
      signedEnvelope := none
      envelopeHash := none
      issuer := none
      keyId := none
      expiresAt := none
      envelopeRevision := none
      stateRevision := 0
      updatedBy := none }
  | some stored =>
      if stored.row.activeEnvelope.all Document.valid then some {
        mode := stored.row.mode
        providerCode := stored.row.providerCode
        signedEnvelope := stored.row.activeEnvelope
        envelopeHash := stored.row.envelopeHash
        issuer := stored.row.issuer
        keyId := stored.row.keyId
        expiresAt := stored.row.expiresAt
        envelopeRevision := stored.row.envelopeRevision
        stateRevision := stored.row.stateRevision
        updatedBy := some stored.row.updatedBy }
      else none

/-- The arguments of `replace`. -/
structure Replacement where
  expectedStateRevision : ℤ
  mode : String
  providerCode : Option String
  envelope : Option SignedEnvelope
  envelopeHash : Option String
  actorUserId : String

def replacementParams (call : Replacement) (stateRevision : ℤ) : Row :=
  let claims := call.envelope.map fun envelope => envelope.document.claims
  { mode := call.mode
    providerCode := call.providerCode
    activeEnvelope := call.envelope.map fun envelope => envelope.document.withoutNul
    envelopeHash := call.envelopeHash
    issuer := claims.map Claims.issuer
    keyId := call.envelope.map fun envelope => envelope.document.kid
    expiresAt := claims.map Claims.expiresAt
    envelopeRevision := claims.map Claims.envelopeRevision
    stateRevision := stateRevision
    updatedBy := call.actorUserId }

inductive Failure where
  | stateRevisionConflict (expected actual : ℤ)
  | catalogConflict (expected current : String)
  | envelopeRevisionConflict (current requested : ℤ)
  /-- the statement is refused by the database -/
  | database
  /-- a stored envelope is not valid -/
  | validation
deriving DecidableEq

inductive Outcome where
  /-- `return current_state, False` -/
  | kept (state : State)
  /-- raised before the commit -/
  | failed (failure : Failure)
  /-- committed, and the state that is returned, unless reading it back raises -/
  | replaced (row : StoredRow) (state : Option State)

def Outcome.raises : Outcome → Bool
  | .kept _ => false
  | .failed _ => true
  | .replaced _ state => state.isNone

def Replacement.Same (call : Replacement) (current : State) : Prop :=
  call.mode = current.mode ∧ call.envelopeHash = current.envelopeHash ∧
    call.providerCode = current.providerCode

instance (call : Replacement) (current : State) : Decidable (call.Same current) :=
  inferInstanceAs (Decidable (_ ∧ _ ∧ _))

def envelopeFailure (catalog : Option String) (current : State) (envelope : SignedEnvelope) :
    Option Failure :=
  let claims := envelope.document.claims
  let previous := current.envelopeRevision.getD 0
  if claims.catalogHash ≠ catalog.getD "" then
    some (.catalogConflict claims.catalogHash (catalog.getD ""))
  else if claims.envelopeRevision ≤ previous then
    some (.envelopeRevisionConflict previous claims.envelopeRevision)
  else none

def write (seen row : Option StoredRow) (expected : ℤ) (new : Row) : Outcome :=
  if hfits : new.fits = true then
    match seen, row with
    | none, some concurrent =>
        .failed (.stateRevisionConflict expected concurrent.row.stateRevision)
    | _, _ => .replaced ⟨new, hfits⟩ (rowToState (some ⟨new, hfits⟩))
  else .failed .database

/-- `replace`, with the active catalog, the row that its first statement finds, and the row
when it writes. -/
def replace (catalog : Option String) (seen row : Option StoredRow) (call : Replacement) : Outcome :=
  match rowToState seen with
  | none => .failed .validation
  | some current =>
      if call.Same current then .kept current
      else if current.stateRevision ≠ call.expectedStateRevision then
        .failed (.stateRevisionConflict call.expectedStateRevision current.stateRevision)
      else
        match call.envelope.bind (envelopeFailure catalog current) with
        | some failure => .failed failure
        | none => write seen row call.expectedStateRevision
            (replacementParams call (current.stateRevision + 1))

/-- The call passes all checks of `replace`. -/
structure Applies (catalog : Option String) (seen row : Option StoredRow) (call : Replacement)
    (current : State) : Prop where
  reads : rowToState seen = some current
  differs : ¬ call.Same current
  revision : current.stateRevision = call.expectedStateRevision
  envelope : call.envelope.bind (envelopeFailure catalog current) = none
  fits : (replacementParams call (current.stateRevision + 1)).fits = true
  first : seen = none → row = none

variable {catalog : Option String} {seen row : Option StoredRow} {call : Replacement}
variable {current : State}

theorem write_of_first {new : Row} {expected : ℤ} (hfits : new.fits = true)
    (hfirst : seen = none → row = none) :
    write seen row expected new = .replaced ⟨new, hfits⟩ (rowToState (some ⟨new, hfits⟩)) := by
  rw [write, dif_pos hfits]
  split
  · cases hfirst rfl
  · rfl

theorem envelopeRevision_replacementParams (call : Replacement) (stateRevision : ℤ) :
    (replacementParams call stateRevision).envelopeRevision =
      call.envelope.map fun envelope => envelope.document.claims.envelopeRevision :=
  Option.map_map ..

theorem first_of_write {new : Row} {expected : ℤ} {stored : StoredRow} {state : Option State}
    (h : write seen row expected new = .replaced stored state) :
    new.fits = true ∧ (seen = none → row = none) := by
  rw [write] at h
  split at h
  · rename_i hfits
    refine ⟨hfits, ?_⟩
    rintro rfl
    cases row with
    | none => rfl
    | some concurrent => cases h
  · cases h

theorem replace_of_applies (h : Applies catalog seen row call current) :
    replace catalog seen row call =
      .replaced ⟨replacementParams call (current.stateRevision + 1), h.fits⟩
        (rowToState (some ⟨replacementParams call (current.stateRevision + 1), h.fits⟩)) := by
  rw [replace, h.reads]
  dsimp only
  rw [if_neg h.differs, if_neg (not_not.mpr h.revision), h.envelope]
  exact write_of_first h.fits h.first

theorem applies_of_replaced {new : StoredRow} {state : Option State}
    (h : replace catalog seen row call = .replaced new state) :
    ∃ current, Applies catalog seen row call current := by
  rw [replace] at h
  split at h
  · cases h
  · rename_i current hreads
    split at h
    · cases h
    · rename_i hdiffers
      split at h
      · cases h
      · rename_i hrevision
        split at h
        · cases h
        · rename_i henvelope
          obtain ⟨hfits, hfirst⟩ := first_of_write h
          exact ⟨current, hreads, hdiffers, not_not.mp hrevision, henvelope, hfits, hfirst⟩

theorem replace_of_stale (hreads : rowToState seen = some current) (hdiffers : ¬ call.Same current)
    (hstale : current.stateRevision ≠ call.expectedStateRevision) :
    replace catalog seen row call =
      .failed (.stateRevisionConflict call.expectedStateRevision current.stateRevision) := by
  rw [replace, hreads]
  dsimp only
  rw [if_neg hdiffers, if_pos hstale]

end MindscapeLocalCore.DeploymentControl.StateRepository
