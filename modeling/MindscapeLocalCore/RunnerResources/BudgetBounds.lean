import MindscapeLocalCore.RunnerResources.NodeBudget

namespace MindscapeLocalCore.RunnerResources.BudgetBounds

open Library Library.Dictionary Library.Redis NodeBudget NodeBudgetContract

def reservedBytes (db : Db) : ℤ :=
  Dictionary.total NodeBudgetReservation.bytes db.reservations.fields

/-- The reservations and the expiries have the same owners and lapse together. -/
structure Paired (db : Db) : Prop where
  owners : ∀ owner,
    (db.reservations.get owner).isSome = (db.expiries.get owner).isSome
  deadlines : db.reservations.deadline = db.expiries.deadline

/-- What every script keeps, and the lapse of the keys as well. -/
structure Sound (allocatable : ℤ) (db : Db) : Prop extends Paired db where
  identity : ∀ {owner r}, db.reservations.get owner = some r → r.ownerId = owner
  positive : ∀ {owner r}, db.reservations.get owner = some r → 0 < r.bytes
  counter : 0 ≤ db.revision.getD 0
  revisions : ∀ {owner r}, db.reservations.get owner = some r →
    0 < r.revision ∧ r.revision ≤ db.revision.getD 0
  distinct : ∀ {owner owner' r r'}, db.reservations.get owner = some r →
    db.reservations.get owner' = some r' → r.revision = r'.revision → owner = owner'
  within : reservedBytes db ≤ allocatable

/-- The stored total is the sum of the stored reservations. -/
def Counted (db : Db) : Prop := db.total = some (reservedBytes db)

variable {allocatable : ℤ} {db : Db} {now : ℚ} {owner : String}
  {r : NodeBudgetReservation}

theorem sound_empty (h : 0 ≤ allocatable) : Sound allocatable .empty where
  owners _ := rfl
  deadlines := rfl
  identity hget := absurd hget (by simp [Db.empty])
  positive hget := absurd hget (by simp [Db.empty])
  counter := le_refl 0
  revisions hget := absurd hget (by simp [Db.empty])
  distinct hget := absurd hget (by simp [Db.empty])
  within := h

theorem Paired.card_eq (h : Paired db) :
    db.reservations.card = db.expiries.card :=
  Collection.card_congr h.owners

theorem Sound.nonneg (h : Sound allocatable db) : 0 ≤ reservedBytes db :=
  total_nonneg fun _ _ hget => (h.positive hget).le

/-! ### The purge -/

def restrict (keep : String → Bool) (db : Db) : Db :=
  { db with
    reservations := { db.reservations with
      fields := retain (fun owner _ => keep owner) db.reservations.fields }
    expiries := { db.expiries with
      fields := retain (fun owner _ => keep owner) db.expiries.fields } }

theorem get_restrict {keep : String → Bool} :
    (restrict keep db).reservations.get owner = some r ↔
      db.reservations.get owner = some r ∧ keep owner = true :=
  lookup_retain_eq_some

theorem expiry_restrict {keep : String → Bool} {expiry : ℚ} :
    (restrict keep db).expiries.get owner = some expiry ↔
      db.expiries.get owner = some expiry ∧ keep owner = true :=
  lookup_retain_eq_some

theorem sound_restrict (h : Sound allocatable db) (keep : String → Bool) :
    Sound allocatable (restrict keep db) where
  owners owner := by
    have howners := h.owners owner
    unfold restrict Collection.get at *
    simp only [lookup_retain]
    cases keep owner
    · simp
    · simpa using howners
  deadlines := h.deadlines
  identity hget := h.identity (get_restrict.mp hget).1
  positive hget := h.positive (get_restrict.mp hget).1
  counter := h.counter
  revisions hget := h.revisions (get_restrict.mp hget).1
  distinct hget hget' := h.distinct (get_restrict.mp hget).1 (get_restrict.mp hget').1
  within := (total_retain_le fun _ _ hget => (h.positive hget).le).trans h.within

theorem purgeExpired_eq :
    purgeExpired now db =
      restrict (fun owner => decide (owner ∉ db.expiries.membersUpTo now)) db := by
  simp only [purgeExpired, Collection.del_all, eraseAll_eq_retain]
  rfl

theorem sound_settled (h : Sound allocatable db) : Sound allocatable (db.settled now) := by
  have hdeadlines := h.deadlines
  unfold Db.settled Collection.settled
  rw [← hdeadlines]
  cases hdeadline : db.reservations.deadline with
  | none => simpa [hdeadline, hdeadlines ▸ hdeadline] using h
  | some deadline =>
      by_cases hlapsed : deadline < now
      · simp only [if_pos hlapsed]
        exact {
          owners := fun _ => rfl
          deadlines := rfl
          identity := fun hget => absurd hget (by simp)
          positive := fun hget => absurd hget (by simp)
          counter := h.counter
          revisions := fun hget => absurd hget (by simp)
          distinct := fun hget => absurd hget (by simp)
          within := h.nonneg.trans h.within }
      · simpa only [if_neg hlapsed] using h

/-- The keys as a script at `now` finds them after its reconciliation. -/
def active (now : ℚ) (db : Db) : Db :=
  let purged := purgeExpired now (db.settled now)
  { purged with total := some (reservedBytes purged) }

theorem sound_active (now : ℚ) (h : Sound allocatable db) : Sound allocatable (active now db) := by
  have hpurged : Sound allocatable (purgeExpired now (db.settled now)) := by
    rw [purgeExpired_eq]
    exact sound_restrict (sound_settled h) _
  exact { hpurged with }

theorem counted_active : Counted (active now db) := rfl

theorem get_active :
    (active now db).reservations.get owner = some r ↔
      (db.settled now).reservations.get owner = some r ∧
        ∀ expiry, (db.settled now).expiries.get owner = some expiry → now < expiry := by
  change (purgeExpired now (db.settled now)).reservations.get owner = some r ↔ _
  rw [purgeExpired_eq, get_restrict]
  apply and_congr_right
  intro _
  simp [Collection.mem_membersUpTo]

theorem expiry_active {expiry : ℚ} :
    (active now db).expiries.get owner = some expiry ↔
      (db.settled now).expiries.get owner = some expiry ∧ now < expiry := by
  change (purgeExpired now (db.settled now)).expiries.get owner = some expiry ↔ _
  rw [purgeExpired_eq, expiry_restrict]
  apply and_congr_right
  intro hget
  simp [Collection.mem_membersUpTo, hget]

/-! ### The reconciliation -/

theorem reconcileEntries_eq {expiries : Collection ℚ}
    {entries : List (Sigma fun _ : String => NodeBudgetReservation)} {total counter : ℤ}
    (h : ∀ e ∈ entries, e.2.ownerId = e.1 ∧ (expiries.get e.1).isSome ∧
      0 < e.2.bytes ∧ 0 < e.2.revision ∧ e.2.revision ≤ counter) :
    reconcileEntries expiries entries total counter =
      .ok (total + (entries.map fun e => e.2.bytes).sum, counter) := by
  induction entries generalizing total with
  | nil => simp [reconcileEntries]
  | cons first rest ih =>
      obtain ⟨hid, hexpiry, hbytes, hrevision, hcounter⟩ := h first (by simp)
      have hvalid : ¬ (first.2.bytes ≤ 0 ∨ first.2.revision ≤ 0) := by omega
      have hrest : reconcileEntries expiries rest (total + first.2.bytes) counter = _ :=
        ih fun e he => h e (by simp [he])
      have hpresent : ¬ (expiries.get first.1).isNone = true := by
        rw [Option.isNone_iff_eq_none]
        exact Option.isSome_iff_ne_none.mp hexpiry
      rw [reconcileEntries, if_neg (not_not.mpr hid), if_neg hpresent, if_neg hvalid,
        max_eq_left hcounter, hrest]
      simp [add_assoc]

theorem reconcileActiveReservations_eq (h : Sound allocatable db) :
    reconcileActiveReservations now (db.settled now) =
      (active now db, .ok (reservedBytes (active now db))) := by
  have hactive := sound_active now h
  set purged := purgeExpired now (db.settled now) with hpurged
  have hcard : purged.reservations.card = purged.expiries.card := hactive.card_eq
  have hentries : reconcileEntries purged.expiries purged.reservations.fields.entries 0
      (purged.revision.getD 0) =
        .ok (0 + reservedBytes (active now db), purged.revision.getD 0) := by
    apply reconcileEntries_eq
    rintro ⟨owner, r⟩ hmem
    have hget : (active now db).reservations.get owner = some r :=
      mem_entries_iff.mp hmem
    have hexpiry : (purged.expiries.get owner).isSome = true := by
      change ((active now db).expiries.get owner).isSome = true
      rw [← hactive.owners owner, hget]
      rfl
    exact ⟨hactive.identity hget, hexpiry, hactive.positive hget, hactive.revisions hget⟩
  unfold reconcileActiveReservations
  simp only [← hpurged, hcard, ne_eq, not_true_eq_false, if_false, hentries, zero_add,
    gt_iff_lt, lt_irrefl]
  rfl

theorem reconciled_eq {α : Type} (h : Sound allocatable db) (rest : ℤ → Db → Outcome α) :
    reconciled now db rest = rest (reservedBytes (active now db)) (active now db) := by
  rw [reconciled, reconcileActiveReservations_eq h]

/-! ### The writes -/

/-- The reservations of `db'` keep their revisions from `db`, or have new ones. -/
structure Succeeds (db db' : Db) : Prop where
  counter : db.revision.getD 0 ≤ db'.revision.getD 0
  origin : ∀ {owner r'}, db'.reservations.get owner = some r' →
    (∃ r, db.reservations.get owner = some r ∧ r.revision = r'.revision) ∨
      db.revision.getD 0 < r'.revision

theorem succeeds_of_eq {db' : Db} (hreservations : db'.reservations = db.reservations)
    (hrevision : db'.revision = db.revision) : Succeeds db db' where
  counter := by rw [hrevision]
  origin hget := .inl ⟨_, hreservations ▸ hget, rfl⟩

/-- What a script leaves that goes on from `db`: the keys stay sound and counted,
and only `EXPIRE` can have raised. -/
structure Kept {α : Type} (allocatable : ℤ) (db : Db) (outcome : Outcome α) : Prop where
  sound : Sound allocatable outcome.1
  counted : Counted outcome.1
  succeeds : Succeeds db outcome.1
  error : ∀ {e}, outcome.2 = .error e → e = .invalidExpireTime

theorem kept_ok {α : Type} {base : Db} {reply : α} (h : Sound allocatable db)
    (hcounted : Counted db) (hsucceeds : Succeeds base db) :
    Kept allocatable base (db, .ok reply) :=
  ⟨h, hcounted, hsucceeds, nofun⟩

theorem kept_active {α : Type} {reply : α} (h : Sound allocatable (active now db)) :
    Kept allocatable (active now db) (active now db, .ok reply) :=
  kept_ok h counted_active (succeeds_of_eq rfl rfl)

/-- Whether `extend_collection_ttl` calls `EXPIRE`. -/
def NeedsExtension {α : Type} (now : ℚ) (keyTtl : ℤ) (c : Collection α) : Prop :=
  c.ttl now = -1 ∨ 0 ≤ c.ttl now ∧ c.ttl now < keyTtl

instance {α : Type} (now : ℚ) (keyTtl : ℤ) (c : Collection α) :
    Decidable (NeedsExtension now keyTtl c) := inferInstanceAs (Decidable (_ ∨ _))

def withDeadline (deadline : Option ℚ) (db : Db) : Db :=
  { db with
    reservations := { db.reservations with deadline }
    expiries := { db.expiries with deadline } }

theorem sound_withDeadline (h : Sound allocatable db) (deadline : Option ℚ) :
    Sound allocatable (withDeadline deadline db) :=
  { h with deadlines := rfl }

theorem extendCollections_eq {α : Type} {keyTtl : ℤ} {reply : α} (h : Paired db) :
    extendCollections now keyTtl reply db =
      if NeedsExtension now keyTtl db.reservations then
        if Collection.Expirable now keyTtl then
          (withDeadline (some (now + keyTtl)) db, .ok reply)
        else (db, .error .invalidExpireTime)
      else (db, .ok reply) := by
  have httl : db.expiries.ttl now = db.reservations.ttl now := by
    unfold Collection.ttl
    rw [h.card_eq, h.deadlines]
  unfold extendCollections extendCollectionTtl
  simp only [httl]
  by_cases hneeds : NeedsExtension now keyTtl db.reservations
  · have hcalls : db.reservations.ttl now = -1 ∨
        0 ≤ db.reservations.ttl now ∧ db.reservations.ttl now < keyTtl := hneeds
    rw [if_pos hneeds]
    simp only [if_pos hcalls, Collection.expire]
    by_cases hexpirable : Collection.Expirable now keyTtl
    · simp only [if_pos hexpirable]
      rfl
    · simp only [if_neg hexpirable]
  · have hcalls : ¬ (db.reservations.ttl now = -1 ∨
        0 ≤ db.reservations.ttl now ∧ db.reservations.ttl now < keyTtl) := hneeds
    rw [if_neg hneeds]
    simp only [if_neg hcalls]

theorem extendCollections_kept {α : Type} {base : Db} {keyTtl : ℤ} {reply : α}
    (h : Sound allocatable db) (hcounted : Counted db) (hsucceeds : Succeeds base db) :
    Kept allocatable base (extendCollections now keyTtl reply db) := by
  rw [extendCollections_eq h.toPaired]
  split
  · split
    · exact ⟨sound_withDeadline h _, hcounted, ⟨hsucceeds.counter, hsucceeds.origin⟩, nofun⟩
    · exact ⟨h, hcounted, hsucceeds, fun he => (Except.error.inj he).symm⟩
  · exact ⟨h, hcounted, hsucceeds, nofun⟩

variable {written : ℚ → ℚ}

theorem get_store {owner' : String} :
    (db.store written owner r).reservations.get owner' =
      if owner' = owner then some (encode written r) else db.reservations.get owner' :=
  Collection.get_put

theorem expiry_store {owner' : String} :
    (db.store written owner r).expiries.get owner' =
      if owner' = owner then some r.expiresAtEpoch else db.expiries.get owner' :=
  Collection.get_put

theorem reservedBytes_store_of_none (h : db.reservations.get owner = none) :
    reservedBytes (db.store written owner r) = r.bytes + reservedBytes db :=
  total_insert_of_none _ h

theorem reservedBytes_store_of_some {existing : NodeBudgetReservation}
    (h : db.reservations.get owner = some existing) :
    reservedBytes (db.store written owner r) + existing.bytes =
      r.bytes + reservedBytes db :=
  total_insert_of_some _ h

theorem paired_store (h : Paired db) : Paired (db.store written owner r) where
  owners owner' := by
    rw [get_store, expiry_store]
    split
    · rfl
    · exact h.owners owner'
  deadlines := by
    simp only [Db.store, Collection.put, h.card_eq, h.deadlines]

theorem sound_store (h : Sound allocatable db) (hid : r.ownerId = owner)
    (hpositive : 0 < r.bytes)
    (hrevision : 0 < r.revision ∧ r.revision ≤ db.revision.getD 0)
    (hown : ∀ {owner' r'}, db.reservations.get owner' = some r' →
      r'.revision = r.revision → owner' = owner)
    (hwithin : reservedBytes (db.store written owner r) ≤ allocatable) :
    Sound allocatable (db.store written owner r) where
  toPaired := paired_store h.toPaired
  identity {owner' r'} hget := by
    rw [get_store] at hget
    split at hget
    · obtain rfl := Option.some.inj hget
      exact hid.trans (Eq.symm ‹_›)
    · exact h.identity hget
  positive {owner' r'} hget := by
    rw [get_store] at hget
    split at hget
    · obtain rfl := Option.some.inj hget
      exact hpositive
    · exact h.positive hget
  counter := h.counter
  revisions {owner' r'} hget := by
    rw [get_store] at hget
    split at hget
    · obtain rfl := Option.some.inj hget
      exact hrevision
    · exact h.revisions hget
  distinct {first second r₁ r₂} hfirst hsecond heq := by
    rw [get_store] at hfirst hsecond
    split at hfirst <;> split at hsecond
    · exact (‹first = owner›).trans (Eq.symm ‹second = owner›)
    · obtain rfl := Option.some.inj hfirst
      exact (‹first = owner›).trans (hown hsecond heq.symm).symm
    · obtain rfl := Option.some.inj hsecond
      exact (hown hfirst heq).trans (Eq.symm ‹second = owner›)
    · exact h.distinct hfirst hsecond heq
  within := hwithin

theorem succeeds_put {db' : Db} {r' : NodeBudgetReservation}
    (hget : db.reservations.get owner = some r)
    (hput : db'.reservations = db.reservations.put owner r')
    (hrevision : r'.revision = r.revision) (hcounter : db'.revision = db.revision) :
    Succeeds db db' where
  counter := by rw [hcounter]
  origin {owner' found} hfound := by
    rw [hput, Collection.get_put] at hfound
    split at hfound
    · rename_i heq
      obtain rfl := Option.some.inj hfound
      exact .inl ⟨r, heq ▸ hget, hrevision.symm⟩
    · exact .inl ⟨found, hfound, rfl⟩

theorem sound_refreshed (written : ℚ → ℚ) (h : Sound allocatable db)
    (hget : db.reservations.get owner = some r) (expiresAt : ℚ) :
    Sound allocatable (db.store written owner { r with expiresAtEpoch := expiresAt }) ∧
      reservedBytes (db.store written owner { r with expiresAtEpoch := expiresAt }) =
        reservedBytes db := by
  have hbytes :
      reservedBytes (db.store written owner { r with expiresAtEpoch := expiresAt }) +
        r.bytes = r.bytes + reservedBytes db := reservedBytes_store_of_some hget
  have hsame : reservedBytes (db.store written owner { r with expiresAtEpoch := expiresAt }) =
      reservedBytes db := by omega
  have hid : r.ownerId = owner := h.identity hget
  have hpositive : 0 < r.bytes := h.positive hget
  have hrevision : 0 < r.revision ∧ r.revision ≤ db.revision.getD 0 := h.revisions hget
  refine ⟨sound_store h hid hpositive hrevision ?_ ?_, hsame⟩
  · intro owner' r' hget' heq
    exact h.distinct hget' hget heq
  · rw [hsame]
    exact h.within

/-! ### The scripts -/

theorem grant_kept {α : Type} {base : Db} {requested limit : ℤ} {expiresAt : ℚ} {reply : α} {keyTtl : ℤ}
    {policyFingerprint profileFingerprint policyMode : String}
    (h : Sound limit db) (hreservations : base.reservations = db.reservations)
    (hrevision : base.revision = db.revision) (hget : db.reservations.get owner = none)
    (hpositive : 0 < requested) (hfits : reservedBytes db + requested ≤ limit) :
    Kept limit base (extendCollections now keyTtl reply
      (Db.store written owner
        (granted owner requested allocatable (db.revision.getD 0 + 1) expiresAt
          policyFingerprint profileFingerprint policyMode)
        { db with
          revision := some (db.revision.getD 0 + 1)
          total := some (reservedBytes db + requested) })) := by
  set counted : Db := { db with
    revision := some (db.revision.getD 0 + 1)
    total := some (reservedBytes db + requested) } with hdef
  have hcounter := h.counter
  have hcounted : Sound limit counted :=
    { h with
      counter := by
        change 0 ≤ db.revision.getD 0 + 1
        omega
      revisions := fun hget' => by
        have := h.revisions hget'
        change _ ∧ _ ≤ db.revision.getD 0 + 1
        omega }
  have hbytes : reservedBytes (counted.store written owner
      (granted owner requested allocatable (db.revision.getD 0 + 1) expiresAt
        policyFingerprint profileFingerprint policyMode)) = requested + reservedBytes db :=
    reservedBytes_store_of_none hget
  apply extendCollections_kept
  · refine sound_store hcounted rfl hpositive ⟨?_, le_refl _⟩ ?_ ?_
    · change 0 < db.revision.getD 0 + 1
      omega
    · intro owner' r' hget' heq
      have := h.revisions hget'
      change r'.revision = db.revision.getD 0 + 1 at heq
      omega
    · rw [hbytes]
      omega
  · rw [Counted, hbytes]
    exact congrArg some (add_comm _ _)
  · refine ⟨?_, fun {owner' r'} hget' => ?_⟩
    · rw [hrevision]
      change db.revision.getD 0 ≤ db.revision.getD 0 + 1
      omega
    · rw [hreservations, hrevision]
      rw [get_store] at hget'
      split at hget'
      · obtain rfl := Option.some.inj hget'
        exact .inr (lt_add_one (db.revision.getD 0))
      · exact .inl ⟨r', hget', rfl⟩

theorem acquireScript_kept {requested limit : ℤ} {expiresAt : ℚ}
    {policyFingerprint profileFingerprint policyMode : String} {keyTtl : ℤ}
    {policy : NodeBudgetPolicy} (h : Sound limit db) (hlimit : allocatable ≤ limit) :
    Kept limit (active now db) (acquireScript written owner requested allocatable now expiresAt
      policyFingerprint profileFingerprint keyTtl policyMode policy db) := by
  have hactive := sound_active now h
  have hposted : Sound limit { active now db with policy := some policy } :=
    { hactive with }
  have hcounted : Counted { active now db with policy := some policy } := rfl
  rw [acquireScript, reconciled_eq h]
  dsimp only
  cases hget : (active now db).reservations.get owner with
  | some existing =>
      obtain ⟨hsound, hsame⟩ := sound_refreshed written hposted hget expiresAt
      dsimp only
      split
      · refine extendCollections_kept hsound ?_ (succeeds_put hget rfl rfl rfl)
        rw [Counted, hsame]
        rfl
      · exact kept_ok hposted hcounted (succeeds_of_eq rfl rfl)
  | none =>
      dsimp only
      split
      · exact kept_ok hposted hcounted (succeeds_of_eq rfl rfl)
      · rename_i hfits
        exact grant_kept hposted rfl rfl hget (by omega)
          (show reservedBytes (active now db) + requested ≤ limit by omega)

theorem snapshotScript_kept (h : Sound allocatable db) :
    Kept allocatable (active now db) (snapshotScript now db) := by
  rw [snapshotScript, reconciled_eq h]
  exact kept_active (sound_active now h)

theorem renewScript_kept {revision : ℤ} {expiresAt : ℚ} {keyTtl : ℤ}
    (h : Sound allocatable db) :
    Kept allocatable (active now db) (renewScript written owner revision expiresAt keyTtl now db) := by
  have hactive := sound_active now h
  rw [renewScript, reconciled_eq h]
  cases hget : (active now db).reservations.get owner with
  | none => exact kept_active hactive
  | some reservation =>
      obtain ⟨hsound, hsame⟩ := sound_refreshed written hactive hget expiresAt
      dsimp only
      split
      · exact kept_active hactive
      · refine extendCollections_kept hsound ?_ (succeeds_put hget rfl rfl rfl)
        rw [Counted, hsame]
        rfl

theorem sound_reduced (written : ℚ → ℚ) {reduced : NodeBudgetReservation}
    (h : Sound allocatable db)
    (hget : db.reservations.get owner = some r) (hid : reduced.ownerId = r.ownerId)
    (hrevision : reduced.revision = r.revision) (hpositive : 0 < reduced.bytes)
    (hbytes : reduced.bytes ≤ r.bytes) (total : Option ℤ) :
    Sound allocatable { db with
      reservations := db.reservations.put owner (encode written reduced), total } ∧
      reservedBytes { db with
        reservations := db.reservations.put owner (encode written reduced), total } +
          r.bytes = reduced.bytes + reservedBytes db := by
  have hsum : reservedBytes (db.store written owner reduced) + r.bytes =
      reduced.bytes + reservedBytes db := reservedBytes_store_of_some hget
  have hstore : Sound allocatable (db.store written owner reduced) := by
    refine sound_store h (hid.trans (h.identity hget)) hpositive ?_ ?_ ?_
    · rw [hrevision]
      exact h.revisions hget
    · intro owner' r' hget' heq
      exact h.distinct hget' hget (heq.trans hrevision)
    · have := h.within
      omega
  refine ⟨{ hstore with owners := fun owner' => ?_, deadlines := ?_ }, hsum⟩
  · have howners := h.owners owner'
    change ((db.reservations.put owner _).get owner').isSome = _
    rw [Collection.get_put]
    split
    · rename_i heq
      rw [← howners, heq, hget]
      rfl
    · exact howners
  · change (if db.reservations.card = 0 then none else db.reservations.deadline) = _
    rw [if_neg (Collection.card_ne_zero_of_get hget)]
    exact h.deadlines

theorem reconcileDownScript_kept {revision requested : ℤ} {evidenceFingerprint : String}
    (h : Sound allocatable db) :
    Kept allocatable (active now db) (reconcileDownScript written owner revision requested
      evidenceFingerprint now db) := by
  have hactive := sound_active now h
  rw [reconcileDownScript, reconciled_eq h]
  cases hget : (active now db).reservations.get owner with
  | none => exact kept_active hactive
  | some reservation =>
      dsimp only
      split
      · exact kept_active hactive
      · split
        · exact kept_active hactive
        · split
          · exact kept_active hactive
          · rename_i hrequested _
            set reduced : NodeBudgetReservation := { reservation with
              bytes := requested
              reconciledFromBytes := some reservation.bytes
              reconciliationEvidenceFingerprint := some evidenceFingerprint
              reconciledAtEpoch := some now } with hreduced
            have hpositive : 0 < reduced.bytes := show 0 < requested by omega
            have hbytes : reduced.bytes ≤ reservation.bytes :=
              show requested ≤ reservation.bytes by omega
            obtain ⟨hsound, hsum⟩ := sound_reduced written hactive hget
              (show reduced.ownerId = reservation.ownerId from rfl) rfl hpositive hbytes
              (some (max 0 (reservedBytes (active now db) -
                (reservation.bytes - requested))))
            refine kept_ok hsound ?_ (succeeds_put hget rfl rfl rfl)
            have hnonneg := hsound.nonneg
            change _ = requested + _ at hsum
            rw [Counted]
            apply congrArg some
            omega

theorem sound_released (h : Sound allocatable db)
    (hget : db.reservations.get owner = some r) (total : Option ℤ) :
    Sound allocatable { db with
      reservations := db.reservations.del owner
      expiries := db.expiries.del owner
      total } ∧
      r.bytes + reservedBytes { db with
        reservations := db.reservations.del owner
        expiries := db.expiries.del owner
        total } = reservedBytes db := by
  have hdel : restrict (fun owner' => decide (owner' ≠ owner)) db =
      { db with
        reservations := db.reservations.del owner
        expiries := db.expiries.del owner } := by
    simp only [restrict, Collection.del, erase_eq_retain]
  refine ⟨?_, total_erase NodeBudgetReservation.bytes hget⟩
  exact { hdel ▸ sound_restrict h fun owner' => decide (owner' ≠ owner) with }

theorem releaseScript_kept {revision : ℤ} (h : Sound allocatable db) :
    Kept allocatable (active now db) (releaseScript owner revision now db) := by
  have hactive := sound_active now h
  rw [releaseScript, reconciled_eq h]
  cases hget : (active now db).reservations.get owner with
  | none => exact kept_active hactive
  | some reservation =>
      dsimp only
      split
      · exact kept_active hactive
      · obtain ⟨hsound, hsum⟩ := sound_released hactive hget
          (some (max 0 (reservedBytes (active now db) - reservation.bytes)))
        refine kept_ok hsound ?_ ⟨le_refl _, fun {owner' r'} hget' => ?_⟩
        · have hnonneg := hsound.nonneg
          rw [Counted]
          apply congrArg some
          omega
        · change ((active now db).reservations.del owner).get owner' = some r' at hget'
          rw [Collection.get_del] at hget'
          split at hget'
          · exact absurd hget' (Option.some_ne_none r').symm
          · exact .inl ⟨r', hget', rfl⟩

/-! ### Calls -/

def CallUnder (policy : NodeBudgetPolicy) : Call → Prop
  | .acquire _ _ policy' _ _ => policy' = policy
  | _ => True

def CallWithin (limit : ℤ) : Call → Prop
  | .acquire _ _ policy _ _ => policy.allocatableBytes ≤ limit
  | _ => True

def Under (policy : NodeBudgetPolicy) : Operation → Prop
  | .advance _ => True
  | .call call => CallUnder policy call

def fence : Call → Option (String × ℤ)
  | .renew reservation _ => some (reservation.ownerId, reservation.revision)
  | .reconcileDown reservation _ _ => some (reservation.ownerId, reservation.revision)
  | .release reservation => some (reservation.ownerId, reservation.revision)
  | _ => none

theorem call_fst {call : Call} :
    (db.call written now call).1 = (db.script written now call).1 := by
  cases call <;> rfl

theorem kept_ended {α : Type} {base : Db} {outcome : Outcome α}
    (h : Kept allocatable base outcome) : Kept allocatable base (ended outcome) where
  sound := h.sound
  counted := h.counted
  succeeds := h.succeeds
  error {e} he := by
    obtain ⟨db', result⟩ := outcome
    cases result with
    | ok reply => exact absurd he nofun
    | error e' => exact h.error (by simpa [ended, Except.map] using he)

variable {policy : NodeBudgetPolicy}

theorem script_kept {call : Call} (h : Sound allocatable db)
    (hcall : CallWithin allocatable call) :
    Kept allocatable (active now db) (db.script written now call) := by
  cases call with
  | acquire ownerId requestBytes policy profileFingerprint ttlSeconds =>
      exact kept_ended (acquireScript_kept h hcall)
  | renew reservation ttlSeconds => exact kept_ended (renewScript_kept h)
  | reconcileDown reservation requestBytes evidenceFingerprint =>
      exact kept_ended (reconcileDownScript_kept h)
  | release reservation => exact kept_ended (releaseScript_kept h)
  | snapshot => exact kept_ended (snapshotScript_kept h)

theorem callWithin_of_under {call : Call} (h : CallUnder policy call) :
    CallWithin policy.allocatableBytes call := by
  cases call with
  | acquire ownerId requestBytes policy' profileFingerprint ttlSeconds =>
      exact (congrArg NodeBudgetPolicy.allocatableBytes h).le
  | _ => trivial

theorem sound_perform {store : RedisNodeBudgetStore} {operation : Operation}
    (h : Sound policy.allocatableBytes store.db) (hoperation : Under policy operation) :
    Sound policy.allocatableBytes (store.perform written operation).1.db := by
  cases operation with
  | advance seconds => exact h
  | call call =>
      change Sound _ (store.db.call written store.nowEpoch call).1
      rw [call_fst]
      exact (script_kept h (callWithin_of_under hoperation)).sound

theorem sound_after {store : RedisNodeBudgetStore} {operations : List Operation}
    (h : Sound policy.allocatableBytes store.db)
    (hoperations : ∀ operation ∈ operations, Under policy operation) :
    Sound policy.allocatableBytes (store.after written operations).db := by
  induction operations generalizing store with
  | nil => exact h
  | cons first rest ih =>
      apply ih (sound_perform h (hoperations first (by simp)))
      intro operation hmem
      exact hoperations operation (by simp [hmem])

/-! ### Fences -/

theorem script_of_outdated {call : Call} {revision : ℤ} (h : Sound allocatable db)
    (hfence : fence call = some (owner, revision))
    (hrevision : ∀ r, (active now db).reservations.get owner = some r →
      r.revision ≠ revision) :
    db.script written now call = (active now db, .ok ()) := by
  cases call with
  | acquire ownerId requestBytes policy profileFingerprint ttlSeconds => cases hfence
  | snapshot => cases hfence
  | renew reservation ttlSeconds =>
      obtain ⟨rfl, rfl⟩ : reservation.ownerId = owner ∧ reservation.revision = revision := by
        simpa [fence] using hfence
      rw [Db.script, renewScript, reconciled_eq h]
      cases hget : (active now db).reservations.get reservation.ownerId with
      | none => rfl
      | some r =>
          dsimp only
          rw [if_pos (hrevision r hget)]
          rfl
  | reconcileDown reservation requestBytes evidenceFingerprint =>
      obtain ⟨rfl, rfl⟩ : reservation.ownerId = owner ∧ reservation.revision = revision := by
        simpa [fence] using hfence
      rw [Db.script, reconcileDownScript, reconciled_eq h]
      cases hget : (active now db).reservations.get reservation.ownerId with
      | none => rfl
      | some r =>
          dsimp only
          rw [if_pos (hrevision r hget)]
          rfl
  | release reservation =>
      obtain ⟨rfl, rfl⟩ : reservation.ownerId = owner ∧ reservation.revision = revision := by
        simpa [fence] using hfence
      rw [Db.script, releaseScript, reconciled_eq h]
      cases hget : (active now db).reservations.get reservation.ownerId with
      | none => rfl
      | some r =>
          dsimp only
          rw [if_pos (hrevision r hget)]
          rfl

theorem renew_of_outdated {ttlSeconds : ℤ} {reservation : NodeBudgetReservation}
    (h : Sound allocatable db)
    (hrevision : ∀ r, (active now db).reservations.get reservation.ownerId = some r →
      r.revision ≠ reservation.revision) :
    db.call written now (.renew reservation ttlSeconds) = (active now db, .decided false) := by
  have hscript : renewScript written reservation.ownerId reservation.revision
      (expiresAt now ttlSeconds) (keyTtl ttlSeconds) now db = (active now db, .ok 0) := by
    rw [renewScript, reconciled_eq h]
    cases hget : (active now db).reservations.get reservation.ownerId with
    | none => rfl
    | some r =>
        dsimp only
        rw [if_pos (hrevision r hget)]
  simp only [Db.call, renew, hscript]
  rfl

/-! ### Lapsed reservations -/

theorem settled_of_get (h : Paired db)
    (hget : (db.settled now).reservations.get owner = some r) : db.settled now = db := by
  unfold Db.settled Collection.settled at *
  rw [← h.deadlines] at *
  cases hdeadline : db.reservations.deadline with
  | none => rfl
  | some deadline =>
      simp only [hdeadline] at hget ⊢
      by_cases hlapsed : deadline < now
      · rw [if_pos hlapsed, Collection.get_missing] at hget
        exact absurd hget (Option.some_ne_none r).symm
      · simp only [if_neg hlapsed]

structure Lapsed (revision : ℤ) (store : RedisNodeBudgetStore) : Prop where
  issued : revision ≤ store.db.revision.getD 0
  expired : ∀ {owner r}, store.db.reservations.get owner = some r → r.revision = revision →
    ∃ expiry, store.db.expiries.get owner = some expiry ∧ expiry ≤ store.nowEpoch

variable {store : RedisNodeBudgetStore} {revision : ℤ}

theorem active_of_lapsed (h : Sound allocatable store.db) (hlapsed : Lapsed revision store)
    (hget : (active store.nowEpoch store.db).reservations.get owner = some r) :
    r.revision ≠ revision := by
  intro heq
  obtain ⟨hsettled, hlive⟩ := get_active.mp hget
  have hkeys := settled_of_get h.toPaired hsettled
  rw [hkeys] at hsettled hlive
  obtain ⟨expiry, hexpiry, hle⟩ := hlapsed.expired hsettled heq
  exact absurd (hlive expiry hexpiry) (not_lt.mpr hle)

theorem lapsed_perform {operation : Operation} (h : Sound policy.allocatableBytes store.db)
    (hoperation : Under policy operation) (hlapsed : Lapsed revision store) :
    Lapsed revision (store.perform written operation).1 := by
  cases operation with
  | advance seconds =>
      refine ⟨hlapsed.issued, fun {owner r} hget heq => ?_⟩
      obtain ⟨expiry, hexpiry, hle⟩ := hlapsed.expired hget heq
      have hforward : (0 : ℚ) ≤ max 0 seconds := le_max_left 0 seconds
      exact ⟨expiry, hexpiry, hle.trans (le_add_of_nonneg_right hforward)⟩
  | call call =>
      have hkept : Kept _ _ (store.db.script written store.nowEpoch call) :=
        script_kept h (callWithin_of_under hoperation)
      have hsucceeds := hkept.succeeds
      rw [← call_fst] at hsucceeds
      refine ⟨hlapsed.issued.trans hsucceeds.counter, fun {owner r} hget heq => ?_⟩
      exfalso
      rcases hsucceeds.origin hget with ⟨r₀, hget₀, hrevision⟩ | hnew
      · exact active_of_lapsed h hlapsed hget₀ (hrevision.trans heq)
      · have hissued : revision ≤ (active store.nowEpoch store.db).revision.getD 0 :=
          hlapsed.issued
        omega

theorem lapsed_after {operations : List Operation}
    (h : Sound policy.allocatableBytes store.db)
    (hoperations : ∀ operation ∈ operations, Under policy operation)
    (hlapsed : Lapsed revision store) :
    Lapsed revision (store.after written operations) := by
  induction operations generalizing store with
  | nil => exact hlapsed
  | cons first rest ih =>
      have hfirst := hoperations first (by simp)
      apply ih (sound_perform h hfirst) _ (lapsed_perform h hfirst hlapsed)
      intro operation hmem
      exact hoperations operation (by simp [hmem])

theorem lapsed_of_expired (h : Sound allocatable store.db) {expiry : ℚ}
    (hget : store.db.reservations.get owner = some r)
    (hexpiry : store.db.expiries.get owner = some expiry) (hle : expiry ≤ store.nowEpoch) :
    Lapsed r.revision store where
  issued := (h.revisions hget).2
  expired {owner' r'} hget' heq := by
    obtain rfl := h.distinct hget' hget heq
    exact ⟨expiry, hexpiry, hle⟩

/-! ### Runs -/

structure BudgetKept (policy : NodeBudgetPolicy) (db : Db) : Prop where
  within : reservedBytes db ≤ policy.allocatableBytes
  counted : db.total = some (reservedBytes db)
  owners : ∀ owner,
    (db.reservations.get owner).isSome = (db.expiries.get owner).isSome
  distinct : ∀ {owner owner' r r'}, db.reservations.get owner = some r →
    db.reservations.get owner' = some r' → r.revision = r'.revision → owner = owner'
  bounded : ∀ {owner r}, db.reservations.get owner = some r →
    r.revision ≤ db.revision.getD 0

theorem budgetKept_of_kept {α : Type} {base : Db} {outcome : Outcome α}
    (h : Kept policy.allocatableBytes base outcome) : BudgetKept policy outcome.1 where
  within := h.sound.within
  counted := h.counted
  owners := h.sound.owners
  distinct := h.sound.distinct
  bounded hget := (h.sound.revisions hget).2

theorem current_kept {call : Call} (h : Sound allocatable db) {expiry : ℚ}
    (hfence : fence call = some (owner, revision))
    (hget : (db.settled now).reservations.get owner = some r)
    (hexpiry : (db.settled now).expiries.get owner = some expiry) (hlive : now < expiry)
    (hrevision : r.revision ≠ revision) :
    (db.call written now call).1.reservations.get owner = some r ∧
      (db.call written now call).1.expiries.get owner = some expiry := by
  have hactive : (active now db).reservations.get owner = some r := by
    refine get_active.mpr ⟨hget, fun expiry' hexpiry' => ?_⟩
    obtain rfl := Option.some.inj (hexpiry.symm.trans hexpiry')
    exact hlive
  have houtdated : ∀ r', (active now db).reservations.get owner = some r' →
      r'.revision ≠ revision := by
    intro r' hget'
    obtain rfl := Option.some.inj (hactive.symm.trans hget')
    exact hrevision
  rw [call_fst, script_of_outdated h hfence houtdated]
  exact ⟨hactive, expiry_active.mpr ⟨hexpiry, hlive⟩⟩

def smallPolicy : NodeBudgetPolicy :=
  ⟨"calibrated", 16, 2, 2, 2, 10, "policy"⟩

end MindscapeLocalCore.RunnerResources.BudgetBounds
