import MindscapeLocalCore.Library.Holdings
import MindscapeLocalCore.RunnerResources.StoreAgreement

/-!
The stores of leases and of node-budget reservations as admission uses them: what each
shows as unexpired at a moment, and what its operations change of that. The in-memory
stores and those on a Redis server that answers are instances.
-/

namespace MindscapeLocalCore.RunnerResources.Leases

open Library Library.Dictionary Library.Holdings Library.Redis

structure ResourceLease where
  leaseKey : String
  resourceType : String
  resourceId : String
deriving DecidableEq

structure Held where
  ownerId : String
  expiresAt : Option ℚ
deriving DecidableEq

/-- `ResourceLeaseStore`, as far as admission uses it. An `acquire` without an answer raises;
a store says which ttl it accepts. -/
structure ResourceLeaseStore (σ : Type) where
  acquire : ℚ → String → String → ℤ → σ → Option Bool × σ
  release : ℚ → String → String → σ → Bool × σ
  live : ℚ → σ → String → Option Held
  Accepts : ℚ → ℤ → Prop
  acquire_live : ∀ now key ownerId ttlSeconds s, Accepts now ttlSeconds →
    let out := acquire now key ownerId ttlSeconds s
    (out.1 = some false ∧ live now out.2 = live now s) ∨
      (out.1 = some true ∧ live now s key = none ∧ ∃ expiresAt,
        live now out.2 = Function.update (live now s) key (some ⟨ownerId, expiresAt⟩))
  release_live : ∀ {now key ownerId s}, live now (release now key ownerId s).2 =
    Function.update (live now s) key
      ((live now s key).filter fun held => !decide (held.ownerId = ownerId))

def ResourceLeaseStore.pool {σ : Type} (store : ResourceLeaseStore σ) (now : ℚ)
    (ownerId : String) : Pool σ ResourceLease String Held where
  key := ResourceLease.leaseKey
  own _ held := held.ownerId = ownerId
  live := store.live now
  release lease s := (store.release now lease.leaseKey ownerId s).2
  live_release := store.release_live

section Table

variable {ε : Type} (current : ℚ → ε → Bool) (holder : ε → Held)

def tableAcquire (now : ℚ) (key : String) (entry : ε) (s : Dict String ε) :
    Bool × Dict String ε :=
  let s := settled current now s
  if (s.lookup key).isSome then (false, s) else (true, s.insert key entry)

def tableRelease (now : ℚ) (key ownerId : String) (s : Dict String ε) :
    Bool × Dict String ε :=
  let s := settled current now s
  match s.lookup key with
  | none => (false, s)
  | some entry =>
      if (holder entry).ownerId = ownerId then (true, s.erase key) else (false, s)

variable {current holder} {now : ℚ} {s : Dict String ε} {key ownerId : String} {entry : ε}

theorem tableAcquire_shown (holder : ε → Held) (hcurrent : current now entry = true) :
    let out := tableAcquire current now key entry s
    (out.1 = false ∧ shown current holder now out.2 = shown current holder now s) ∨
      (out.1 = true ∧ shown current holder now s key = none ∧
        shown current holder now out.2 =
          Function.update (shown current holder now s) key (some (holder entry))) := by
  rw [tableAcquire]
  cases hlookup : (settled current now s).lookup key with
  | some old => exact .inl ⟨rfl, shown_settled⟩
  | none =>
      refine .inr ⟨rfl, ?_, shown_insert hcurrent⟩
      rw [shown, hlookup]
      rfl

theorem tableRelease_shown :
    shown current holder now (tableRelease current holder now key ownerId s).2 =
      Function.update (shown current holder now s) key
        ((shown current holder now s key).filter fun held => !decide (held.ownerId = ownerId)) := by
  rw [tableRelease]
  cases hlookup : (settled current now s).lookup key with
  | none =>
      have hshown : shown current holder now s key = none := by
        rw [shown, hlookup]
        rfl
      rw [hshown, Option.filter_none, ← hshown, Function.update_eq_self]
      exact shown_settled
  | some entry =>
      have hshown : shown current holder now s key = some (holder entry) := by
        rw [shown, hlookup]
        rfl
      dsimp only
      by_cases howner : (holder entry).ownerId = ownerId
      · rw [if_pos howner, hshown, Option.filter_some, if_neg (by simp [howner])]
        exact shown_erase
      · rw [if_neg howner, hshown, Option.filter_some, if_pos (by simp [howner]), ← hshown,
          Function.update_eq_self]
        exact shown_settled

variable (current holder)

def tableStore (entry : ℚ → String → ℤ → ε) (Accepts : ℚ → ℤ → Prop)
    [∀ now ttlSeconds, Decidable (Accepts now ttlSeconds)]
    (hcurrent : ∀ {now ownerId ttlSeconds}, Accepts now ttlSeconds →
      current now (entry now ownerId ttlSeconds) = true)
    (howner : ∀ now ownerId ttlSeconds, ∃ expiresAt,
      holder (entry now ownerId ttlSeconds) = ⟨ownerId, expiresAt⟩) :
    ResourceLeaseStore (Dict String ε) where
  acquire now key ownerId ttlSeconds s :=
    if Accepts now ttlSeconds then
      (tableAcquire current now key (entry now ownerId ttlSeconds) s).map some id
    else (none, s)
  release := tableRelease current holder
  live := shown current holder
  Accepts := Accepts
  acquire_live now key ownerId ttlSeconds s haccepts := by
    rw [if_pos haccepts]
    rcases tableAcquire_shown holder (hcurrent haccepts) with
      ⟨hanswer, hshown⟩ | ⟨hanswer, hnone, hshown⟩
    · exact .inl ⟨congrArg some hanswer, hshown⟩
    · obtain ⟨expiresAt, hholder⟩ := howner now ownerId ttlSeconds
      exact .inr ⟨congrArg some hanswer, hnone, expiresAt, hholder ▸ hshown⟩
  release_live := tableRelease_shown

end Table

/-- `InMemoryResourceLeaseStore`: an owner and the end of its lease under each key. -/
def inMemoryResourceLeaseStore : ResourceLeaseStore (Dict String (String × ℚ)) :=
  tableStore (fun now lease => decide (now < lease.2)) (fun lease => ⟨lease.1, some lease.2⟩)
    (fun now ownerId ttlSeconds => (ownerId, now + max 1 ttlSeconds)) (fun _ _ => True)
    (fun {now ownerId ttlSeconds} _ => by
      have hone : (1 : ℚ) ≤ ((max 1 ttlSeconds : ℤ) : ℚ) := by exact_mod_cast le_max_left 1 ttlSeconds
      exact decide_eq_true (by push_cast at hone ⊢; linarith))
    fun _ _ _ => ⟨_, rfl⟩

/-- `RedisResourceLeaseStore`: `SET NX EX` and a script that compares and deletes. -/
def redisResourceLeaseStore : ResourceLeaseStore (Dict String Held) :=
  tableStore (fun now lease => lease.expiresAt.all fun deadline => !decide (deadline < now)) id
    (fun now ownerId ttlSeconds => ⟨ownerId, some (now + ttlSeconds)⟩)
    (fun now ttlSeconds => 0 < ttlSeconds ∧ Collection.Expirable now ttlSeconds)
    (fun {now ownerId ttlSeconds} h => by
      have hpos : (0 : ℚ) < ttlSeconds := by exact_mod_cast h.1
      simp only [Option.all_some, Bool.not_eq_true', decide_eq_false_iff_not, not_lt]
      linarith)
    fun _ _ _ => ⟨_, rfl⟩

end MindscapeLocalCore.RunnerResources.Leases

/-!
The node-budget stores. The keys on the Redis server are those that calls of the store leave.
-/

namespace MindscapeLocalCore.RunnerResources.BudgetStores

open Library Library.Dictionary Library.Holdings Library.Redis BudgetBounds
open NodeBudget NodeBudgetContract NodeBudgetTestStore StoreAgreement

/-- `NodeBudgetStore`, as far as admission uses it; a store says which ttl it accepts. -/
structure NodeBudgetStore (τ : Type) where
  acquire : ℚ → String → ℤ → NodeBudgetPolicy → String → ℤ → τ → τ × NodeBudgetAcquireResult
  release : ℚ → NodeBudgetReservation → τ → τ × Bool
  live : ℚ → τ → String → Option NodeBudgetReservation
  Accepts : ℚ → ℤ → Prop
  acquire_live : ∀ now ownerId requestBytes policy profileFingerprint ttlSeconds s,
    Accepts now ttlSeconds → live now s ownerId = none →
      let out := acquire now ownerId requestBytes policy profileFingerprint ttlSeconds s
      (out.2.allow = false ∧ live now out.1 = live now s) ∨
        ∃ reservation stored, out.2.allow = true ∧ out.2.reservation = some reservation ∧
          reservation.ownerId = ownerId ∧ stored.revision = reservation.revision ∧
          live now out.1 = Function.update (live now s) ownerId (some stored)
  release_live : ∀ {now reservation s}, live now (release now reservation s).1 =
    Function.update (live now s) reservation.ownerId
      ((live now s reservation.ownerId).filter fun stored =>
        !decide (stored.revision = reservation.revision))

def NodeBudgetStore.pool {τ : Type} (store : NodeBudgetStore τ) (now : ℚ) :
    Pool τ NodeBudgetReservation String NodeBudgetReservation where
  key := NodeBudgetReservation.ownerId
  own reservation stored := stored.revision = reservation.revision
  live := store.live now
  release reservation s := (store.release now reservation s).1
  live_release := store.release_live

/-! ### On the Redis server -/

/-- Nothing in the keys has lapsed at `now`. -/
structure Current (now : ℚ) (db : Db) : Prop where
  reservations : ∀ deadline, db.reservations.deadline = some deadline → now ≤ deadline
  expiries : ∀ deadline, db.expiries.deadline = some deadline → now ≤ deadline
  unexpired : ∀ {owner expiry}, db.expiries.get owner = some expiry → now < expiry

section Redis

variable {now : ℚ} {db : Db} {owner : String} {written : ℚ → ℚ}

theorem settled_of_deadline {α : Type} {c : Collection α}
    (h : ∀ deadline, c.deadline = some deadline → now ≤ deadline) : c.settled now = c := by
  rw [Collection.settled]
  cases hdeadline : c.deadline with
  | none => rfl
  | some deadline => exact if_neg (not_lt.mpr (h deadline hdeadline))

theorem deadline_settled {α : Type} {c : Collection α} {deadline : ℚ}
    (h : (c.settled now).deadline = some deadline) : now ≤ deadline := by
  rw [Collection.settled] at h
  cases hdeadline : c.deadline with
  | none => simp [hdeadline] at h
  | some old =>
      simp only [hdeadline] at h
      split at h
      · cases h
      · obtain rfl := Option.some.inj (hdeadline.symm.trans h)
        exact not_lt.mp ‹_›

theorem current_active : Current now (active now db) := by
  refine ⟨fun deadline h => ?_, fun deadline h => ?_, fun hget => (expiry_active.mp hget).2⟩
  · change (purgeExpired now (db.settled now)).reservations.deadline = some deadline at h
    rw [purgeExpired_eq] at h
    exact deadline_settled h
  · change (purgeExpired now (db.settled now)).expiries.deadline = some deadline at h
    rw [purgeExpired_eq] at h
    exact deadline_settled h

theorem Current.get_active (h : Current now db) :
    (active now db).reservations.get owner = db.reservations.get owner := by
  have hsettled : db.settled now = db := by
    rw [Db.settled, settled_of_deadline h.reservations, settled_of_deadline h.expiries]
  ext r
  rw [BudgetBounds.get_active, hsettled]
  exact ⟨And.left, fun hget => ⟨hget, fun _ hexpiry => h.unexpired hexpiry⟩⟩

theorem Current.store (h : Current now db) {r : NodeBudgetReservation}
    (hlive : now < r.expiresAtEpoch) : Current now (db.store written owner r) where
  reservations deadline hdeadline := by
    simp only [Db.store, Collection.put] at hdeadline
    split at hdeadline
    · cases hdeadline
    · exact h.reservations deadline hdeadline
  expiries deadline hdeadline := by
    simp only [Db.store, Collection.put] at hdeadline
    split at hdeadline
    · cases hdeadline
    · exact h.expiries deadline hdeadline
  unexpired {owner' expiry} hget := by
    rw [expiry_store] at hget
    split at hget
    · obtain rfl := Option.some.inj hget
      exact hlive
    · exact h.unexpired hget

theorem Current.released (h : Current now db) (total : Option ℤ) :
    Current now { db with
      reservations := db.reservations.del owner
      expiries := db.expiries.del owner
      total } where
  reservations := h.reservations
  expiries := h.expiries
  unexpired {owner' expiry} hget := by
    change (db.expiries.del owner).get owner' = some expiry at hget
    rw [Collection.get_del] at hget
    split at hget
    · cases hget
    · exact h.unexpired hget

theorem Current.extended {α : Type} {keyTtl : ℤ} (h : Current now db) (reply : α)
    (hpaired : Paired db) (hpos : 0 ≤ keyTtl) (hexpirable : Collection.Expirable now keyTtl) :
    (extendCollections now keyTtl reply db).2 = .ok reply ∧
      Current now (extendCollections now keyTtl reply db).1 := by
  rw [extendCollections_eq hpaired, if_pos hexpirable]
  split
  · have hle : ∀ deadline, some (now + keyTtl) = some deadline → now ≤ deadline := by
      rintro _ ⟨⟩
      have : (0 : ℚ) ≤ keyTtl := by exact_mod_cast hpos
      linarith
    exact ⟨rfl, hle, hle, h.unexpired⟩
  · exact ⟨rfl, h⟩

end Redis

abbrev SoundDb := { db : Db // ∃ limit, Sound limit db }

section Store

variable (written : ℚ → ℚ) {now : ℚ} {ownerId profileFingerprint : String}
  {requestBytes ttlSeconds : ℤ} {policy : NodeBudgetPolicy} {db : Db} {limit : ℤ}

def redisLive (now : ℚ) (db : Db) (owner : String) : Option NodeBudgetReservation :=
  (active now db).reservations.get owner

theorem redisLive_of_current (h : Current now db) :
    redisLive now db = fun owner => db.reservations.get owner :=
  funext fun _ => h.get_active

theorem redis_acquire_live (h : Sound limit db)
    (hexpirable : Collection.Expirable now (keyTtl ttlSeconds))
    (hnone : redisLive now db ownerId = none) :
    let out := acquire written now ownerId requestBytes policy profileFingerprint ttlSeconds db
    (out.2.allow = false ∧ redisLive now out.1 = redisLive now db) ∨
      ∃ reservation stored, out.2.allow = true ∧ out.2.reservation = some reservation ∧
        reservation.ownerId = ownerId ∧ stored.revision = reservation.revision ∧
        redisLive now out.1 = Function.update (redisLive now db) ownerId (some stored) := by
  have hcurrent : Current now (active now db) := current_active
  have hpaired : Paired (active now db) := (sound_active now h).toPaired
  rw [redisLive] at hnone
  simp only [acquire, acquireScript, reconciled_eq h, hnone]
  by_cases hrefused : requestBytes ≤ 0 ∨ policy.allocatableBytes ≤ 0 ∨
      policy.allocatableBytes < reservedBytes (active now db) + requestBytes
  · rw [if_pos hrefused]
    have hposted : Current now { active now db with policy := some policy } :=
      ⟨hcurrent.reservations, hcurrent.expiries, hcurrent.unexpired⟩
    exact .inl ⟨rfl, redisLive_of_current hposted⟩
  · rw [if_neg hrefused]
    set revision := (active now db).revision.getD 0 + 1
    set posted : Db :=
      { active now db with
        policy := some policy
        revision := some revision
        total := some (reservedBytes (active now db) + requestBytes) }
    set reservation := granted ownerId requestBytes policy.allocatableBytes revision
      (expiresAt now ttlSeconds) policy.fingerprint profileFingerprint policy.mode
    have hposted : Current now posted :=
      ⟨hcurrent.reservations, hcurrent.expiries, hcurrent.unexpired⟩
    have hpairedPosted : Paired posted := ⟨hpaired.owners, hpaired.deadlines⟩
    have hlive : now < reservation.expiresAtEpoch := by
      have hone : ((1 : ℤ) : ℚ) ≤ ((max 1 ttlSeconds : ℤ) : ℚ) :=
        Int.cast_le.mpr (le_max_left 1 ttlSeconds)
      change now < now + _
      push_cast at hone ⊢
      linarith
    have hpos : 0 ≤ keyTtl ttlSeconds :=
      (by decide : (0 : ℤ) ≤ 60).trans (le_max_left 60 (ttlSeconds * 4))
    have hstored : Current now (posted.store written ownerId reservation) := hposted.store hlive
    obtain ⟨hok, hextended⟩ := hstored.extended (⟨1, reservedBytes (active now db) + requestBytes,
      revision, some (encode written reservation)⟩ : AcquireReply)
      (paired_store hpairedPosted) hpos hexpirable
    rw [hok]
    refine .inr ⟨_, encode written reservation, rfl, rfl, rfl, rfl, ?_⟩
    rw [redisLive_of_current hextended]
    funext k
    rw [get_extended (paired_store hpairedPosted), get_store]
    by_cases hk : k = ownerId
    · rw [if_pos hk, hk, Function.update_self]
    · rw [if_neg hk, Function.update_of_ne hk]
      rfl

variable {reservation : NodeBudgetReservation}

theorem redis_release_live (h : Sound limit db) :
    redisLive now (release now reservation db).1 =
      Function.update (redisLive now db) reservation.ownerId
        ((redisLive now db reservation.ownerId).filter fun stored =>
          !decide (stored.revision = reservation.revision)) := by
  have hcurrent : Current now (active now db) := current_active
  simp only [release, releaseScript, reconciled_eq h]
  cases hget : redisLive now db reservation.ownerId with
  | none =>
      have hactive : (active now db).reservations.get reservation.ownerId = none := hget
      simp only [hactive, Option.filter_none]
      rw [← hget, Function.update_eq_self]
      exact redisLive_of_current hcurrent
  | some stored =>
      have hactive : (active now db).reservations.get reservation.ownerId = some stored := hget
      simp only [hactive, Option.filter_some]
      by_cases hrevision : stored.revision = reservation.revision
      · rw [if_neg (not_not.mpr hrevision), if_neg (by simp [hrevision]),
          redisLive_of_current (hcurrent.released _)]
        funext k
        change ((active now db).reservations.del reservation.ownerId).get k = _
        rw [Collection.get_del]
        by_cases hk : k = reservation.ownerId
        · rw [if_pos hk, hk, Function.update_self]
        · rw [if_neg hk, Function.update_of_ne hk]
          rfl
      · rw [if_pos hrevision, if_pos (by simp [hrevision]), ← hget, Function.update_eq_self]
        exact redisLive_of_current hcurrent

def redisNodeBudgetStore : NodeBudgetStore SoundDb where
  acquire now ownerId requestBytes policy profileFingerprint ttlSeconds s :=
    let call := Call.acquire ownerId requestBytes policy profileFingerprint ttlSeconds
    let out := acquire written now ownerId requestBytes policy profileFingerprint ttlSeconds s.1
    have hsound : ∃ limit, Sound limit (s.1.call written now call).1 := sound_call s.2 call
    (⟨out.1, hsound⟩, out.2)
  release now reservation s :=
    let out := release now reservation s.1
    have hsound : ∃ limit, Sound limit (s.1.call written now (.release reservation)).1 :=
      sound_call s.2 (.release reservation)
    (⟨out.1, hsound⟩, out.2)
  live now s := redisLive now s.1
  Accepts now ttlSeconds := Collection.Expirable now (keyTtl ttlSeconds)
  acquire_live _ _ _ _ _ _ s haccepts hnone := by
    obtain ⟨limit, h⟩ := s.2
    exact redis_acquire_live written h haccepts hnone
  release_live {_ _ s} := by
    obtain ⟨limit, h⟩ := s.2
    exact redis_release_live h

end Store

/-! ### In memory -/

section InMemory

open InMemoryNodeBudgetStore (purge)

variable {now : ℚ} {ownerId profileFingerprint : String} {requestBytes ttlSeconds : ℤ}
  {policy : NodeBudgetPolicy} {s : InMemoryNodeBudgetStore}
  {reservation : NodeBudgetReservation}

def unexpired (now : ℚ) (reservation : NodeBudgetReservation) : Bool :=
  decide (reservation.expiresAtEpoch > now)

def memoryLive (now : ℚ) (s : InMemoryNodeBudgetStore) :
    String → Option NodeBudgetReservation :=
  shown unexpired id now s.reservations

theorem lookup_settled {owner : String} :
    (purge { s with nowEpoch := now }).reservations.lookup owner = memoryLive now s owner :=
  Option.map_id_apply.symm

theorem memory_acquire_live (hnone : memoryLive now s ownerId = none) :
    let out := InMemoryNodeBudgetStore.acquire ownerId requestBytes policy profileFingerprint
      ttlSeconds { s with nowEpoch := now }
    (out.2.allow = false ∧ memoryLive now out.1 = memoryLive now s) ∨
      ∃ reservation stored, out.2.allow = true ∧ out.2.reservation = some reservation ∧
        reservation.ownerId = ownerId ∧ stored.revision = reservation.revision ∧
        memoryLive now out.1 = Function.update (memoryLive now s) ownerId (some stored) := by
  simp only [InMemoryNodeBudgetStore.acquire, lookup_settled.trans hnone]
  split
  · exact .inl ⟨rfl, shown_settled⟩
  · refine .inr ⟨_, _, rfl, rfl, rfl, rfl, shown_insert (decide_eq_true ?_)⟩
    have hone : ((1 : ℤ) : ℚ) ≤ ((max 1 ttlSeconds : ℤ) : ℚ) :=
      Int.cast_le.mpr (le_max_left 1 ttlSeconds)
    change now < now + _
    push_cast at hone ⊢
    linarith

theorem memory_release_live :
    memoryLive now (InMemoryNodeBudgetStore.release reservation { s with nowEpoch := now }).1 =
      Function.update (memoryLive now s) reservation.ownerId
        ((memoryLive now s reservation.ownerId).filter fun stored =>
          !decide (stored.revision = reservation.revision)) := by
  rw [InMemoryNodeBudgetStore.release]
  cases hget : memoryLive now s reservation.ownerId with
  | none =>
      simp only [lookup_settled.trans hget]
      rw [Option.filter_none, ← hget, Function.update_eq_self]
      exact shown_settled
  | some stored =>
      simp only [lookup_settled.trans hget]
      rw [Option.filter_some]
      by_cases hrevision : stored.revision = reservation.revision
      · rw [if_neg (not_not.mpr hrevision), if_neg (by simp [hrevision])]
        exact shown_erase
      · rw [if_pos hrevision, if_pos (by simp [hrevision]), ← hget, Function.update_eq_self]
        exact shown_settled

/-- `InMemoryNodeBudgetStore`, at the moment that its clock shows. -/
def inMemoryNodeBudgetStore : NodeBudgetStore InMemoryNodeBudgetStore where
  acquire now ownerId requestBytes policy profileFingerprint ttlSeconds s :=
    InMemoryNodeBudgetStore.acquire ownerId requestBytes policy profileFingerprint ttlSeconds
      { s with nowEpoch := now }
  release now reservation s :=
    InMemoryNodeBudgetStore.release reservation { s with nowEpoch := now }
  live := memoryLive
  Accepts _ _ := True
  acquire_live _ _ _ _ _ _ _ _ := memory_acquire_live
  release_live := memory_release_live

end InMemory

end MindscapeLocalCore.RunnerResources.BudgetStores
