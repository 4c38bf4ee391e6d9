import Mathlib.Data.Rat.Defs
import MindscapeLocalCore.Library.PythonText
import MindscapeLocalCore.Library.Redis

/-!
The records of the VM-wide byte admission and the resolution of its policy.
Byte counts and revisions are whole numbers; an epoch is an exact rational.
-/

namespace MindscapeLocalCore.RunnerResources.NodeBudgetContract

structure NodeBudgetPolicy where
  mode : String
  totalBytes : ℤ
  vmOverheadPeakBytes : ℤ
  nonBrowserPeakBytes : ℤ
  browserIdlePeakBytes : ℤ
  allocatableBytes : ℤ
  fingerprint : String
deriving DecidableEq

structure NodeBudgetReservation where
  ownerId : String
  bytes : ℤ
  revision : ℤ
  expiresAtEpoch : ℚ
  policyFingerprint : String
  resourceProfileFingerprint : String
  allocatableBytes : ℤ
  policyMode : String
  reconciliationEvidenceFingerprint : Option String
  reconciledFromBytes : Option ℤ
  reconciledAtEpoch : Option ℚ
deriving DecidableEq

structure NodeBudgetAcquireResult where
  allow : Bool
  reason : Option String
  reservation : Option NodeBudgetReservation
  reservedBytes : ℤ
  requestBytes : ℤ
  policy : NodeBudgetPolicy
deriving DecidableEq

inductive Snapshot where
  | unavailable (degradedReason : String)
  | available (reservedBytes : ℤ) (activeReservations : ℕ) (revision : ℤ)
      (policy : Option NodeBudgetPolicy)
      (reservations : List NodeBudgetReservation)
deriving DecidableEq

end MindscapeLocalCore.RunnerResources.NodeBudgetContract

/-!
VM-wide byte reservations for browser task admission: the Lua scripts over the
five keys of the budget and the store that calls them. A script that raises keeps
what it has written so far. Byte counts and revisions stay exact in Lua and in
JSON; an epoch comes back from JSON as `written` says.
-/

namespace MindscapeLocalCore.RunnerResources.NodeBudget

open Library.Dictionary Library.Redis NodeBudgetContract

structure Db where
  reservations : Collection NodeBudgetReservation
  expiries : Collection ℚ
  total : Option ℤ
  revision : Option ℤ
  policy : Option NodeBudgetPolicy

def Db.empty : Db := ⟨.missing, .missing, none, none, none⟩

inductive ScriptError where
  | stateCardinalityMismatch
  | ownerIdentityMismatch
  | reservationExpiryMissing
  | reservationInvalid
  | invalidExpireTime
deriving DecidableEq

/-- The errors that the scripts raise themselves with `error`. -/
def ScriptError.Internal (e : ScriptError) : Prop := e ≠ .invalidExpireTime

/-- What a script leaves in the keys, and its reply or the error that ended it. -/
abbrev Outcome (α : Type) := Db × Except ScriptError α

/-- What the commands of a script at `now` find. -/
def Db.settled (now : ℚ) (db : Db) : Db :=
  { db with
    reservations := db.reservations.settled now
    expiries := db.expiries.settled now }

def extendCollectionTtl {α : Type} (now : ℚ) (keyTtl : ℤ) (c : Collection α) :
    Except ScriptError (Collection α) :=
  let currentTtl := c.ttl now
  if currentTtl = -1 ∨ 0 ≤ currentTtl ∧ currentTtl < keyTtl then
    match c.expire now keyTtl with
    | some c => .ok c
    | none => .error .invalidExpireTime
  else .ok c

/-- The two calls of `extend_collection_ttl` that end a script. -/
def extendCollections {α : Type} (now : ℚ) (keyTtl : ℤ) (reply : α) (db : Db) :
    Outcome α :=
  match extendCollectionTtl now keyTtl db.reservations with
  | .error e => (db, .error e)
  | .ok reservations =>
      let db := { db with reservations }
      match extendCollectionTtl now keyTtl db.expiries with
      | .error e => (db, .error e)
      | .ok expiries => ({ db with expiries }, .ok reply)

def reconcileEntries (expiries : Collection ℚ) :
    List (Sigma fun _ : String => NodeBudgetReservation) → ℤ → ℤ →
      Except ScriptError (ℤ × ℤ)
  | [], total, maxRevision => .ok (total, maxRevision)
  | ⟨owner, decoded⟩ :: rest, total, maxRevision =>
      if decoded.ownerId ≠ owner then .error .ownerIdentityMismatch
      else if (expiries.get owner).isNone then .error .reservationExpiryMissing
      else if decoded.bytes ≤ 0 ∨ decoded.revision ≤ 0 then .error .reservationInvalid
      else reconcileEntries expiries rest (total + decoded.bytes)
        (max maxRevision decoded.revision)

def purgeExpired (nowEpoch : ℚ) (db : Db) : Db :=
  let expired := db.expiries.membersUpTo nowEpoch
  { db with
    reservations := expired.foldl (fun c owner => c.del owner) db.reservations
    expiries := expired.foldl (fun c owner => c.del owner) db.expiries }

def reconcileActiveReservations (nowEpoch : ℚ) (db : Db) : Outcome ℤ :=
  let db := purgeExpired nowEpoch db
  if db.reservations.card ≠ db.expiries.card then (db, .error .stateCardinalityMismatch)
  else match reconcileEntries db.expiries db.reservations.fields.entries 0
      (db.revision.getD 0) with
    | .error e => (db, .error e)
    | .ok (total, maxRevision) =>
        ({ db with
            total := some total
            revision := if maxRevision > db.revision.getD 0 then some maxRevision
              else db.revision },
          .ok total)

def reconciled {α : Type} (nowEpoch : ℚ) (db : Db) (rest : ℤ → Db → Outcome α) :
    Outcome α :=
  match reconcileActiveReservations nowEpoch (db.settled nowEpoch) with
  | (db, .error e) => (db, .error e)
  | (db, .ok total) => rest total db

variable (written : ℚ → ℚ)

/-- A reservation as it reads back from the JSON that `cjson.encode` writes. -/
def encode (reservation : NodeBudgetReservation) : NodeBudgetReservation :=
  { reservation with
    expiresAtEpoch := written reservation.expiresAtEpoch
    reconciledAtEpoch := reservation.reconciledAtEpoch.map written }

def Db.store (owner : String) (reservation : NodeBudgetReservation) (db : Db) : Db :=
  { db with
    reservations := db.reservations.put owner (encode written reservation)
    expiries := db.expiries.put owner reservation.expiresAtEpoch }

def granted (owner : String) (requested allocatable revision : ℤ) (expiresAt : ℚ)
    (policyFingerprint profileFingerprint policyMode : String) : NodeBudgetReservation where
  ownerId := owner
  bytes := requested
  revision := revision
  expiresAtEpoch := expiresAt
  policyFingerprint := policyFingerprint
  resourceProfileFingerprint := profileFingerprint
  allocatableBytes := allocatable
  policyMode := policyMode
  reconciliationEvidenceFingerprint := none
  reconciledFromBytes := none
  reconciledAtEpoch := none

structure AcquireReply where
  code : ℤ
  total : ℤ
  revision : ℤ
  payload : Option NodeBudgetReservation

def acquireScript (owner : String) (requested allocatable : ℤ)
    (nowEpoch expiresAt : ℚ) (policyFingerprint profileFingerprint : String)
    (keyTtl : ℤ) (policyMode : String) (policyPayload : NodeBudgetPolicy) (db : Db) :
    Outcome AcquireReply :=
  reconciled nowEpoch db fun total db =>
    let db := { db with policy := some policyPayload }
    match db.reservations.get owner with
    | some existing =>
        if existing.bytes = requested ∧ existing.policyFingerprint = policyFingerprint ∧
            existing.resourceProfileFingerprint = profileFingerprint then
          let refreshed := { existing with expiresAtEpoch := expiresAt }
          extendCollections nowEpoch keyTtl
            ⟨1, total, refreshed.revision, some (encode written refreshed)⟩
            (db.store written owner refreshed)
        else (db, .ok ⟨-2, total, existing.revision, some existing⟩)
    | none =>
        if requested ≤ 0 ∨ allocatable ≤ 0 ∨ allocatable < total + requested then
          (db, .ok ⟨0, total, 0, none⟩)
        else
          let revision := db.revision.getD 0 + 1
          let reservation := granted owner requested allocatable revision expiresAt
            policyFingerprint profileFingerprint policyMode
          let db := { db with revision := some revision, total := some (total + requested) }
          extendCollections nowEpoch keyTtl
            ⟨1, total + requested, revision, some (encode written reservation)⟩
            (db.store written owner reservation)

structure SnapshotReply where
  total : ℤ
  revision : ℤ
  policy : Option NodeBudgetPolicy
  reservations : List NodeBudgetReservation

def snapshotScript (nowEpoch : ℚ) (db : Db) : Outcome SnapshotReply :=
  reconciled nowEpoch db fun total db =>
    (db, .ok
      { total
        revision := db.revision.getD 0
        policy := db.policy
        reservations := db.reservations.fields.entries.map fun e => e.2 })

def renewScript (owner : String) (revision : ℤ) (expiresAt : ℚ) (keyTtl : ℤ)
    (nowEpoch : ℚ) (db : Db) : Outcome ℤ :=
  reconciled nowEpoch db fun _ db =>
    match db.reservations.get owner with
    | none => (db, .ok 0)
    | some reservation =>
        if reservation.revision ≠ revision then (db, .ok 0)
        else extendCollections nowEpoch keyTtl 1
          (db.store written owner { reservation with expiresAtEpoch := expiresAt })

def reconcileDownScript (owner : String) (revision requested : ℤ)
    (evidenceFingerprint : String) (reconciledAtEpoch : ℚ) (db : Db) : Outcome ℤ :=
  reconciled reconciledAtEpoch db fun total db =>
    match db.reservations.get owner with
    | none => (db, .ok 0)
    | some reservation =>
        let existing := reservation.bytes
        if reservation.revision ≠ revision then (db, .ok (-1))
        else if requested ≤ 0 ∨ existing ≤ requested then (db, .ok (-2))
        else if evidenceFingerprint = "" then (db, .ok (-3))
        else
          let reduced := { reservation with
            bytes := requested
            reconciledFromBytes := some existing
            reconciliationEvidenceFingerprint := some evidenceFingerprint
            reconciledAtEpoch := some reconciledAtEpoch }
          ({ db with
              reservations := db.reservations.put owner (encode written reduced)
              total := some (max 0 (total - (existing - requested))) },
            .ok 1)

def releaseScript (owner : String) (revision : ℤ) (nowEpoch : ℚ) (db : Db) :
    Outcome ℤ :=
  reconciled nowEpoch db fun total db =>
    match db.reservations.get owner with
    | none => (db, .ok 0)
    | some reservation =>
        if reservation.revision ≠ revision then (db, .ok 0)
        else
          ({ db with
              reservations := db.reservations.del owner
              expiries := db.expiries.del owner
              total := some (max 0 (total - reservation.bytes)) },
            .ok 1)

/-! The store. Its clock is the clock of the server. -/

def expiresAt (nowEpoch : ℚ) (ttlSeconds : ℤ) : ℚ := nowEpoch + max 1 ttlSeconds

def keyTtl (ttlSeconds : ℤ) : ℤ := max 60 (ttlSeconds * 4)

def acquireResult (requestBytes : ℤ) (policy : NodeBudgetPolicy) :
    Except ScriptError AcquireReply → NodeBudgetAcquireResult
  | .error _ => ⟨false, some "node_budget_unavailable", none, 0, requestBytes, policy⟩
  | .ok reply =>
      if reply.code ≠ 1 then
        let reason := if reply.code = -2 then "node_budget_owner_conflict"
          else "node_budget_exhausted"
        ⟨false, some reason, none, reply.total, requestBytes, policy⟩
      else
        -- The reconciliation fields of the payload are not carried over.
        let reservation := reply.payload.map fun payload =>
          { payload with
            reconciliationEvidenceFingerprint := none
            reconciledFromBytes := none
            reconciledAtEpoch := none }
        ⟨true, none, reservation, reply.total, requestBytes, policy⟩

def acquire (nowEpoch : ℚ) (ownerId : String) (requestBytes : ℤ)
    (policy : NodeBudgetPolicy) (profileFingerprint : String) (ttlSeconds : ℤ) (db : Db) :
    Db × NodeBudgetAcquireResult :=
  let outcome := acquireScript written ownerId requestBytes policy.allocatableBytes
    nowEpoch (expiresAt nowEpoch ttlSeconds) policy.fingerprint profileFingerprint
    (keyTtl ttlSeconds) policy.mode policy db
  (outcome.1, acquireResult requestBytes policy outcome.2)

def replied (test : ℤ → Bool) : Except ScriptError ℤ → Bool
  | .error _ => false
  | .ok result => test result

def renew (nowEpoch : ℚ) (reservation : NodeBudgetReservation) (ttlSeconds : ℤ)
    (db : Db) : Db × Bool :=
  let outcome := renewScript written reservation.ownerId reservation.revision
    (expiresAt nowEpoch ttlSeconds) (keyTtl ttlSeconds) nowEpoch db
  (outcome.1, replied (fun result => decide (result ≠ 0)) outcome.2)

def reconcileDown (nowEpoch : ℚ) (reservation : NodeBudgetReservation)
    (requestBytes : ℤ) (evidenceFingerprint : String) (db : Db) : Db × Bool :=
  let outcome := reconcileDownScript written reservation.ownerId reservation.revision
    requestBytes evidenceFingerprint nowEpoch db
  (outcome.1, replied (fun result => decide (result = 1)) outcome.2)

def release (nowEpoch : ℚ) (reservation : NodeBudgetReservation) (db : Db) : Db × Bool :=
  let outcome := releaseScript reservation.ownerId reservation.revision nowEpoch db
  (outcome.1, replied (fun result => decide (result ≠ 0)) outcome.2)

def snapshotBody : Except ScriptError SnapshotReply → Snapshot
  | .error _ => .unavailable "node_budget_snapshot_failed"
  | .ok reply =>
      .available reply.total reply.reservations.length reply.revision reply.policy
        reply.reservations

def snapshot (nowEpoch : ℚ) (db : Db) : Db × Snapshot :=
  let outcome := snapshotScript nowEpoch db
  (outcome.1, snapshotBody outcome.2)

inductive Call where
  | acquire (ownerId : String) (requestBytes : ℤ) (policy : NodeBudgetPolicy)
      (profileFingerprint : String) (ttlSeconds : ℤ)
  | renew (reservation : NodeBudgetReservation) (ttlSeconds : ℤ)
  | reconcileDown (reservation : NodeBudgetReservation) (requestBytes : ℤ)
      (evidenceFingerprint : String)
  | release (reservation : NodeBudgetReservation)
  | snapshot

inductive Answer where
  | acquired (result : NodeBudgetAcquireResult)
  | decided (allow : Bool)
  | seen (snapshot : Snapshot)
deriving DecidableEq

def Db.call (nowEpoch : ℚ) (db : Db) : Call → Db × Answer
  | .acquire ownerId requestBytes policy profileFingerprint ttlSeconds =>
      (acquire written nowEpoch ownerId requestBytes policy profileFingerprint
        ttlSeconds db).map id .acquired
  | .renew reservation ttlSeconds =>
      (renew written nowEpoch reservation ttlSeconds db).map id .decided
  | .reconcileDown reservation requestBytes evidenceFingerprint =>
      (reconcileDown written nowEpoch reservation requestBytes evidenceFingerprint
        db).map id .decided
  | .release reservation => (release nowEpoch reservation db).map id .decided
  | .snapshot => (snapshot nowEpoch db).map id .seen

def ended {α : Type} (outcome : Outcome α) : Outcome Unit :=
  (outcome.1, outcome.2.map fun _ => ())

def Db.script (nowEpoch : ℚ) (db : Db) : Call → Outcome Unit
  | .acquire ownerId requestBytes policy profileFingerprint ttlSeconds =>
      ended (acquireScript written ownerId requestBytes policy.allocatableBytes nowEpoch
        (expiresAt nowEpoch ttlSeconds) policy.fingerprint profileFingerprint
        (keyTtl ttlSeconds) policy.mode policy db)
  | .renew reservation ttlSeconds =>
      ended (renewScript written reservation.ownerId reservation.revision
        (expiresAt nowEpoch ttlSeconds) (keyTtl ttlSeconds) nowEpoch db)
  | .reconcileDown reservation requestBytes evidenceFingerprint =>
      ended (reconcileDownScript written reservation.ownerId reservation.revision
        requestBytes evidenceFingerprint nowEpoch db)
  | .release reservation =>
      ended (releaseScript reservation.ownerId reservation.revision nowEpoch db)
  | .snapshot => ended (snapshotScript nowEpoch db)

inductive Operation where
  | advance (seconds : ℚ)
  | call (call : Call)

structure RedisNodeBudgetStore where
  db : Db
  nowEpoch : ℚ

namespace RedisNodeBudgetStore

def start (nowEpoch : ℚ) : RedisNodeBudgetStore := ⟨.empty, nowEpoch⟩

def perform (store : RedisNodeBudgetStore) :
    Operation → RedisNodeBudgetStore × Option Answer
  | .advance seconds => ({ store with nowEpoch := store.nowEpoch + max 0 seconds }, none)
  | .call call =>
      let (db, answer) := store.db.call written store.nowEpoch call
      ({ store with db }, some answer)

def after (store : RedisNodeBudgetStore) (operations : List Operation) :
    RedisNodeBudgetStore :=
  operations.foldl (fun store operation => (store.perform written operation).1) store

end RedisNodeBudgetStore

end MindscapeLocalCore.RunnerResources.NodeBudget

/-!
The in-memory node-budget store of the contract tests, with a clock of its own.
-/

namespace MindscapeLocalCore.RunnerResources.NodeBudgetTestStore

open Library.Dictionary Library.PythonText NodeBudget NodeBudgetContract

structure InMemoryNodeBudgetStore where
  nowEpoch : ℚ
  revision : ℤ
  reservations : Dict String NodeBudgetReservation
  policy : Option NodeBudgetPolicy

namespace InMemoryNodeBudgetStore

def start (nowEpoch : ℚ) : InMemoryNodeBudgetStore := ⟨nowEpoch, 0, ∅, none⟩

def advance (seconds : ℚ) (store : InMemoryNodeBudgetStore) : InMemoryNodeBudgetStore :=
  { store with nowEpoch := store.nowEpoch + max 0 seconds }

def purge (store : InMemoryNodeBudgetStore) : InMemoryNodeBudgetStore :=
  { store with
    reservations := retain (fun _ reservation =>
      decide (reservation.expiresAtEpoch > store.nowEpoch)) store.reservations }

def acquire (ownerId : String) (requestBytes : ℤ) (policy : NodeBudgetPolicy)
    (profileFingerprint : String) (ttlSeconds : ℤ) (store : InMemoryNodeBudgetStore) :
    InMemoryNodeBudgetStore × NodeBudgetAcquireResult :=
  let store := { store.purge with policy := some policy }
  let reserved := total NodeBudgetReservation.bytes store.reservations
  match store.reservations.lookup ownerId with
  | some existing =>
      if existing.bytes ≠ requestBytes ∨
          existing.policyFingerprint ≠ policy.fingerprint ∨
          existing.resourceProfileFingerprint ≠ profileFingerprint then
        (store,
          ⟨false, some "node_budget_owner_conflict", none, reserved, requestBytes, policy⟩)
      else
        let refreshed :=
          { existing with expiresAtEpoch := store.nowEpoch + max 1 ttlSeconds }
        ({ store with reservations := store.reservations.insert ownerId refreshed },
          ⟨true, none, some refreshed, reserved, requestBytes, policy⟩)
  | none =>
      if requestBytes ≤ 0 ∨ reserved + requestBytes > policy.allocatableBytes then
        (store, ⟨false, some "node_budget_exhausted", none, reserved, requestBytes, policy⟩)
      else
        let revision := store.revision + 1
        let reservation : NodeBudgetReservation :=
          { ownerId
            bytes := requestBytes
            revision
            expiresAtEpoch := store.nowEpoch + max 1 ttlSeconds
            policyFingerprint := policy.fingerprint
            resourceProfileFingerprint := profileFingerprint
            allocatableBytes := policy.allocatableBytes
            policyMode := policy.mode
            reconciliationEvidenceFingerprint := none
            reconciledFromBytes := none
            reconciledAtEpoch := none }
        ({ store with
            revision
            reservations := store.reservations.insert ownerId reservation },
          ⟨true, none, some reservation, reserved + requestBytes, requestBytes, policy⟩)

def renew (reservation : NodeBudgetReservation) (ttlSeconds : ℤ)
    (store : InMemoryNodeBudgetStore) : InMemoryNodeBudgetStore × Bool :=
  let store := store.purge
  match store.reservations.lookup reservation.ownerId with
  | none => (store, false)
  | some current =>
      if current.revision ≠ reservation.revision then (store, false)
      else
        let renewed := { current with expiresAtEpoch := store.nowEpoch + max 1 ttlSeconds }
        ({ store with
            reservations := store.reservations.insert reservation.ownerId renewed },
          true)

def reconcileDown (reservation : NodeBudgetReservation) (requestBytes : ℤ)
    (evidenceFingerprint : String) (store : InMemoryNodeBudgetStore) :
    InMemoryNodeBudgetStore × Bool :=
  let store := store.purge
  match store.reservations.lookup reservation.ownerId with
  | none => (store, false)
  | some current =>
      if current.revision ≠ reservation.revision ∨ requestBytes ≤ 0 ∨
          current.bytes ≤ requestBytes ∨ strip evidenceFingerprint = "" then
        (store, false)
      else
        let reduced := { current with
          bytes := requestBytes
          reconciliationEvidenceFingerprint := some evidenceFingerprint
          reconciledFromBytes := some current.bytes
          reconciledAtEpoch := some store.nowEpoch }
        ({ store with
            reservations := store.reservations.insert reservation.ownerId reduced },
          true)

def release (reservation : NodeBudgetReservation) (store : InMemoryNodeBudgetStore) :
    InMemoryNodeBudgetStore × Bool :=
  let store := store.purge
  match store.reservations.lookup reservation.ownerId with
  | none => (store, false)
  | some current =>
      if current.revision ≠ reservation.revision then (store, false)
      else
        ({ store with reservations := store.reservations.erase reservation.ownerId }, true)

def snapshot (store : InMemoryNodeBudgetStore) : InMemoryNodeBudgetStore × Snapshot :=
  let store := store.purge
  let reservations := store.reservations.entries.map fun e => e.2
  (store, .available (total NodeBudgetReservation.bytes store.reservations)
    reservations.length store.revision store.policy reservations)

def call (store : InMemoryNodeBudgetStore) : Call → InMemoryNodeBudgetStore × Answer
  | .acquire ownerId requestBytes policy profileFingerprint ttlSeconds =>
      (store.acquire ownerId requestBytes policy profileFingerprint ttlSeconds).map id
        .acquired
  | .renew reservation ttlSeconds =>
      (store.renew reservation ttlSeconds).map id .decided
  | .reconcileDown reservation requestBytes evidenceFingerprint =>
      (store.reconcileDown reservation requestBytes evidenceFingerprint).map id .decided
  | .release reservation => (store.release reservation).map id .decided
  | .snapshot => store.snapshot.map id .seen

end InMemoryNodeBudgetStore

end MindscapeLocalCore.RunnerResources.NodeBudgetTestStore
