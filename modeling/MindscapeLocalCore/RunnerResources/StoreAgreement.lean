import MindscapeLocalCore.RunnerResources.BudgetBounds

namespace MindscapeLocalCore.RunnerResources.StoreAgreement

open Library.Dictionary Library.PythonText Library.Redis BudgetBounds NodeBudget NodeBudgetContract
open NodeBudgetTestStore

/-! ### Agreement -/

/-- A reservation without the record of its last reduction. -/
def reported (r : NodeBudgetReservation) : NodeBudgetReservation :=
  { r with
    reconciliationEvidenceFingerprint := none
    reconciledFromBytes := none
    reconciledAtEpoch := none }

def SnapshotsAgree : Snapshot → Snapshot → Prop
  | .available reserved active revision policy reservations,
    .available reserved' active' revision' policy' reservations' =>
      reserved = reserved' ∧ active = active' ∧ revision = revision' ∧ policy = policy' ∧
        ∀ r, r ∈ reservations.map reported ↔ r ∈ reservations'.map reported
  | .unavailable reason, .unavailable reason' => reason = reason'
  | _, _ => False

def AnswersAgree : Answer → Answer → Prop
  | .acquired result, .acquired result' =>
      result.allow = result'.allow ∧ result.reason = result'.reason ∧
        result.reservedBytes = result'.reservedBytes ∧
        result.reservation.map reported = result'.reservation.map reported
  | .decided allow, .decided allow' => allow = allow'
  | .seen body, .seen body' => SnapshotsAgree body body'
  | _, _ => False

/-- Both stores hold the same reservations, with the same expiries. -/
def Recorded (db : Db) (m : InMemoryNodeBudgetStore) : Prop :=
  ∀ owner, (db.reservations.get owner).map reported =
    (m.reservations.lookup owner).map reported

def Agree (written : ℚ → ℚ) :
    RedisNodeBudgetStore → InMemoryNodeBudgetStore → List Operation → Prop
  | _, _, [] => True
  | store, m, .advance seconds :: rest =>
      Agree written (store.perform written (.advance seconds)).1 (m.advance seconds) rest
  | store, m, .call call :: rest =>
      let (db, answer) := store.db.call written store.nowEpoch call
      let (m', answer') := m.call call
      AnswersAgree answer answer' ∧ Recorded db m' ∧ Agree written { store with db } m' rest

/-! ### The condition -/

def storedTtl (m : InMemoryNodeBudgetStore) : Call → Option ℤ
  | .acquire ownerId requestBytes policy profileFingerprint ttlSeconds =>
      match m.purge.reservations.lookup ownerId with
      | some existing =>
          if existing.bytes = requestBytes ∧ existing.policyFingerprint = policy.fingerprint ∧
              existing.resourceProfileFingerprint = profileFingerprint then some ttlSeconds
          else none
      | none =>
          if 0 < requestBytes ∧
              total NodeBudgetReservation.bytes m.purge.reservations + requestBytes ≤
                policy.allocatableBytes then some ttlSeconds
          else none
  | .renew reservation ttlSeconds =>
      match m.purge.reservations.lookup reservation.ownerId with
      | some current =>
          if current.revision = reservation.revision then some ttlSeconds else none
      | none => none
  | _ => none

/-- A reduction whose evidence is nothing but whitespace, and that nothing else
speaks against. -/
def BlankReduction (m : InMemoryNodeBudgetStore) : Call → Prop
  | .reconcileDown reservation requestBytes evidenceFingerprint =>
      evidenceFingerprint ≠ "" ∧ Blank evidenceFingerprint ∧
        ∃ current, m.purge.reservations.lookup reservation.ownerId = some current ∧
          current.revision = reservation.revision ∧ 0 < requestBytes ∧
          requestBytes < current.bytes
  | _ => False

/-- `EXPIRE` takes the deadline that a stored reservation asks for. -/
def Extends (now : ℚ) (db : Db) (ttlSeconds : ℤ) : Prop :=
  ∀ owner r,
    NeedsExtension now (keyTtl ttlSeconds) ((active now db).reservations.put owner r) →
      Collection.Expirable now (keyTtl ttlSeconds)

/-- The evidence of a reduction is not blank, JSON keeps a written expiry as it
is, and `EXPIRE` takes the deadline. -/
structure Conforms (written : ℚ → ℚ) (db : Db) (m : InMemoryNodeBudgetStore)
    (call : Call) : Prop where
  evidence : ¬ BlankReduction m call
  exact : ∀ {ttlSeconds}, storedTtl m call = some ttlSeconds →
    written (expiresAt m.nowEpoch ttlSeconds) = expiresAt m.nowEpoch ttlSeconds
  extended : ∀ {ttlSeconds}, storedTtl m call = some ttlSeconds →
    Extends m.nowEpoch db ttlSeconds

def AllConform (written : ℚ → ℚ) :
    RedisNodeBudgetStore → InMemoryNodeBudgetStore → List Operation → Prop
  | _, _, [] => True
  | store, m, .advance seconds :: rest =>
      AllConform written (store.perform written (.advance seconds)).1 (m.advance seconds) rest
  | store, m, .call call :: rest =>
      Conforms written store.db m call ∧
        AllConform written { store with db := (store.db.call written store.nowEpoch call).1 }
          (m.call call).1 rest

/-! ### The relation -/

structure Mirrors (written : ℚ → ℚ) (db : Db) (m : InMemoryNodeBudgetStore) : Prop where
  policy : db.policy = m.policy
  revision : db.revision.getD 0 = m.revision
  recorded : Recorded db m
  scores : ∀ {owner r}, db.reservations.get owner = some r →
    db.expiries.get owner = some r.expiresAtEpoch
  deadline : ∀ {owner r}, db.reservations.get owner = some r →
    ∃ deadline, db.reservations.deadline = some deadline ∧ r.expiresAtEpoch ≤ deadline
  exact : ∀ {owner r}, db.reservations.get owner = some r →
    written r.expiresAtEpoch = r.expiresAtEpoch

variable {db : Db} {m : InMemoryNodeBudgetStore} {owner : String} {now : ℚ}
  {allocatable : ℤ} {written : ℚ → ℚ} {r r' : NodeBudgetReservation}

theorem bytes_of_reported (h : reported r = reported r') : r.bytes = r'.bytes := by
  have hfield := congrArg NodeBudgetReservation.bytes h
  exact hfield

theorem revision_of_reported (h : reported r = reported r') : r.revision = r'.revision := by
  have hfield := congrArg NodeBudgetReservation.revision h
  exact hfield

theorem expiry_of_reported (h : reported r = reported r') :
    r.expiresAtEpoch = r'.expiresAtEpoch := by
  have hfield := congrArg NodeBudgetReservation.expiresAtEpoch h
  exact hfield

theorem matches_of_reported {requestBytes : ℤ} {fingerprint profileFingerprint : String}
    (h : reported r = reported r') :
    (r.bytes = requestBytes ∧ r.policyFingerprint = fingerprint ∧
      r.resourceProfileFingerprint = profileFingerprint) =
    (r'.bytes = requestBytes ∧ r'.policyFingerprint = fingerprint ∧
      r'.resourceProfileFingerprint = profileFingerprint) := by
  have hpolicy := congrArg NodeBudgetReservation.policyFingerprint h
  have hprofile := congrArg NodeBudgetReservation.resourceProfileFingerprint h
  change r.policyFingerprint = r'.policyFingerprint at hpolicy
  change r.resourceProfileFingerprint = r'.resourceProfileFingerprint at hprofile
  rw [bytes_of_reported h, hpolicy, hprofile]

theorem reported_refreshed (h : reported r = reported r') (expiresAt : ℚ) :
    reported { r with expiresAtEpoch := expiresAt } =
      reported { r' with expiresAtEpoch := expiresAt } :=
  congrArg (fun r => { r with expiresAtEpoch := expiresAt }) h

theorem recorded_cases (h : Recorded db m) (owner : String) :
    (db.reservations.get owner = none ∧ m.reservations.lookup owner = none) ∨
      ∃ r r', db.reservations.get owner = some r ∧ m.reservations.lookup owner = some r' ∧
        reported r = reported r' := by
  have howner := h owner
  cases hdb : db.reservations.get owner with
  | none =>
      rw [hdb] at howner
      exact .inl ⟨rfl, by simpa using howner.symm⟩
  | some r =>
      rw [hdb] at howner
      obtain ⟨r', hr', hreported⟩ := Option.map_eq_some_iff.mp howner.symm
      exact .inr ⟨r, r', rfl, hr', hreported.symm⟩

theorem total_of_recorded (h : Recorded db m) :
    reservedBytes db = total NodeBudgetReservation.bytes m.reservations := by
  apply total_congr
  intro owner
  change (db.reservations.get owner).map _ = _
  rcases recorded_cases h owner with ⟨hdb, hm⟩ | ⟨r, r', hdb, hm, hreported⟩
  · rw [hdb, hm]
  · rw [hdb, hm]
    exact congrArg some (bytes_of_reported hreported)

/-! ### The purge -/

theorem lookup_purge :
    m.purge.reservations.lookup owner = some r ↔
      m.reservations.lookup owner = some r ∧ m.nowEpoch < r.expiresAtEpoch := by
  change (retain _ m.reservations).lookup owner = some r ↔ _
  rw [lookup_retain_eq_some]
  simp

theorem settled_of_live (h : Mirrors written db m) (hpaired : Paired db)
    (hget : db.reservations.get owner = some r) (hlive : m.nowEpoch < r.expiresAtEpoch) :
    db.settled m.nowEpoch = db := by
  obtain ⟨deadline, hdeadline, hle⟩ := h.deadline hget
  have hkept : ¬ deadline < m.nowEpoch := not_lt.mpr (hlive.le.trans hle)
  unfold Db.settled Collection.settled
  rw [← hpaired.deadlines]
  simp only [hdeadline, if_neg hkept]

theorem get_active_of_mirrors (h : Mirrors written db m) (hpaired : Paired db) :
    (active m.nowEpoch db).reservations.get owner = some r ↔
      db.reservations.get owner = some r ∧ m.nowEpoch < r.expiresAtEpoch := by
  constructor
  · intro hget
    obtain ⟨hsettled, hlive⟩ := get_active.mp hget
    have hkeys := settled_of_get hpaired hsettled
    rw [hkeys] at hsettled hlive
    exact ⟨hsettled, hlive _ (h.scores hsettled)⟩
  · rintro ⟨hget, hlive⟩
    rw [get_active, settled_of_live h hpaired hget hlive]
    refine ⟨hget, fun expiry hexpiry => ?_⟩
    obtain rfl := Option.some.inj ((h.scores hget).symm.trans hexpiry)
    exact hlive

theorem mirrors_active (h : Mirrors written db m) (hpaired : Paired db) :
    Mirrors written (active m.nowEpoch db) m.purge where
  policy := h.policy
  revision := h.revision
  recorded owner := by
    ext found
    simp only [Option.map_eq_some_iff, get_active_of_mirrors h hpaired, lookup_purge]
    rcases recorded_cases h.recorded owner with ⟨hdb, hm⟩ | ⟨r, r', hdb, hm, hreported⟩
    · simp [hdb, hm]
    · simp [hdb, hm, hreported, expiry_of_reported hreported]
  scores {owner r} hget := by
    obtain ⟨hfound, hlive⟩ := (get_active_of_mirrors h hpaired).mp hget
    rw [expiry_active, settled_of_live h hpaired hfound hlive]
    exact ⟨h.scores hfound, hlive⟩
  deadline {owner r} hget := by
    obtain ⟨hfound, hlive⟩ := (get_active_of_mirrors h hpaired).mp hget
    obtain ⟨deadline, hdeadline, hle⟩ := h.deadline hfound
    refine ⟨deadline, ?_, hle⟩
    change (purgeExpired m.nowEpoch (db.settled m.nowEpoch)).reservations.deadline = _
    rw [purgeExpired_eq, settled_of_live h hpaired hfound hlive]
    exact hdeadline
  exact hget := h.exact ((get_active_of_mirrors h hpaired).mp hget).1

/-! ### Stored reservations -/

theorem expiresAt_le (now : ℚ) (ttlSeconds : ℤ) :
    expiresAt now ttlSeconds + 1 / 2 ≤ now + keyTtl ttlSeconds := by
  have hkey : max 1 ttlSeconds + 1 ≤ keyTtl ttlSeconds := by
    unfold keyTtl
    omega
  have hcast : ((max 1 ttlSeconds : ℤ) : ℚ) + 1 ≤ keyTtl ttlSeconds := by
    exact_mod_cast hkey
  have hhalf : (1 : ℚ) / 2 ≤ 1 := by norm_num
  rw [expiresAt]
  linarith

theorem withDeadline_self {deadline : Option ℚ}
    (hreservations : db.reservations.deadline = deadline)
    (hexpiries : db.expiries.deadline = deadline) : withDeadline deadline db = db := by
  obtain ⟨⟨_, _⟩, ⟨_, _⟩, _, _, _⟩ := db
  subst hreservations
  cases hexpiries
  rfl

theorem extended_outlives {α : Type} {db' : Db} {ttlSeconds : ℤ} (reply : α)
    (h : Mirrors written db m) (hpaired : Paired db')
    (hlive : ∀ {owner r}, db.reservations.get owner = some r → now < r.expiresAtEpoch)
    (hreservations : db'.reservations = db.reservations)
    (hextends : NeedsExtension now (keyTtl ttlSeconds)
      (db'.store written owner r).reservations →
        Collection.Expirable now (keyTtl ttlSeconds)) :
    ∃ deadline,
      extendCollections now (keyTtl ttlSeconds) reply (db'.store written owner r) =
        (withDeadline (some deadline) (db'.store written owner r), .ok reply) ∧
      expiresAt now ttlSeconds ≤ deadline ∧
      ∀ owner r, db.reservations.get owner = some r → r.expiresAtEpoch ≤ deadline := by
  have hstored : Paired (db'.store written owner r) := paired_store hpaired
  have hkeyTtl := expiresAt_le now ttlSeconds
  rw [extendCollections_eq hstored]
  have hstoredCard : (db'.store written owner r).reservations.card ≠ 0 :=
    Collection.card_put_ne_zero
  have hdeadline : (db'.store written owner r).reservations.deadline =
      if db.reservations.card = 0 then none else db.reservations.deadline := by
    rw [← hreservations]
    rfl
  by_cases hcard : db.reservations.card = 0
  · -- The key is new, and its deadline is set.
    rw [if_pos hcard] at hdeadline
    have hneeds : NeedsExtension now (keyTtl ttlSeconds)
        (db'.store written owner r).reservations :=
      .inl (Collection.ttl_of_deadline_none hstoredCard hdeadline)
    rw [if_pos hneeds, if_pos (hextends hneeds)]
    refine ⟨now + keyTtl ttlSeconds, rfl, by linarith, fun owner r hget => ?_⟩
    exact absurd hcard (Collection.card_ne_zero_of_get hget)
  · rw [if_neg hcard] at hdeadline
    obtain ⟨owner₀, r₀, hget₀⟩ := Collection.exists_get_of_card_ne_zero hcard
    obtain ⟨old, hold, hle₀⟩ := h.deadline hget₀
    have hlive₀ := hlive hget₀
    have houtlives : ∀ owner r, db.reservations.get owner = some r →
        r.expiresAtEpoch ≤ old := by
      intro owner r hget
      obtain ⟨old', hold', hle⟩ := h.deadline hget
      obtain rfl := Option.some.inj (hold.symm.trans hold')
      exact hle
    have httl := @Collection.ttl_of_deadline _ now _ _ hstoredCard (hdeadline.trans hold)
    by_cases hneeds : NeedsExtension now (keyTtl ttlSeconds)
        (db'.store written owner r).reservations
    · rw [if_pos hneeds, if_pos (hextends hneeds)]
      refine ⟨now + keyTtl ttlSeconds, rfl, by linarith, fun owner r hget => ?_⟩
      have hshort : ⌊old - now + 1 / 2⌋ < keyTtl ttlSeconds := by
        rcases hneeds with hmissing | ⟨-, hshort⟩
        · have hnonneg : 0 ≤ ⌊old - now + 1 / 2⌋ := Int.floor_nonneg.mpr (by linarith)
          rw [httl] at hmissing
          omega
        · rwa [httl] at hshort
      have hsooner := Int.floor_lt.mp hshort
      have := houtlives owner r hget
      linarith
    · rw [if_neg hneeds]
      have hlong : keyTtl ttlSeconds ≤ ⌊old - now + 1 / 2⌋ := by
        have hnonneg : 0 ≤ ⌊old - now + 1 / 2⌋ := Int.floor_nonneg.mpr (by linarith)
        unfold NeedsExtension at hneeds
        rw [httl] at hneeds
        omega
      have hlater := Int.le_floor.mp hlong
      refine ⟨old, ?_, by linarith, houtlives⟩
      have hreservations' := hdeadline.trans hold
      have hexpiries' := hstored.deadlines.symm.trans hreservations'
      exact congrArg (·, _) (withDeadline_self hreservations' hexpiries').symm

theorem reported_encode (h : written r.expiresAtEpoch = r.expiresAtEpoch) :
    reported (encode written r) = reported r := by
  simp only [reported, encode, h]

theorem mirrors_stored {db' : Db} {m' : InMemoryNodeBudgetStore} {deadline : ℚ}
    (h : Mirrors written db m) (hreservations : db'.reservations = db.reservations)
    (hexpiries : db'.expiries = db.expiries) (hpolicy : db'.policy = m'.policy)
    (hrevision : db'.revision.getD 0 = m'.revision)
    (hm : m'.reservations = m.reservations.insert owner r')
    (hreported : reported r = reported r') (hexact : written r.expiresAtEpoch = r.expiresAtEpoch)
    (hdeadline : r.expiresAtEpoch ≤ deadline)
    (hold : ∀ owner r, db.reservations.get owner = some r → r.expiresAtEpoch ≤ deadline) :
    Mirrors written (withDeadline (some deadline) (db'.store written owner r)) m' where
  policy := hpolicy
  revision := hrevision
  recorded owner' := by
    change ((db'.store written owner r).reservations.get owner').map reported = _
    rw [get_store, hreservations, hm]
    split
    · rename_i heq
      subst heq
      rw [AList.lookup_insert]
      exact congrArg some ((reported_encode hexact).trans hreported)
    · rename_i hne
      rw [AList.lookup_insert_ne hne]
      exact h.recorded owner'
  scores {owner' found} hget := by
    change (db'.store written owner r).reservations.get owner' = some found at hget
    change (db'.store written owner r).expiries.get owner' = _
    rw [get_store] at hget
    rw [expiry_store]
    split at hget
    · rename_i heq
      obtain rfl := Option.some.inj hget
      rw [if_pos heq]
      exact congrArg some hexact.symm
    · rename_i hne
      rw [if_neg hne, hexpiries]
      exact h.scores (hreservations ▸ hget)
  deadline {owner' found} hget := by
    change (db'.store written owner r).reservations.get owner' = some found at hget
    refine ⟨deadline, rfl, ?_⟩
    rw [get_store] at hget
    split at hget
    · obtain rfl := Option.some.inj hget
      change written r.expiresAtEpoch ≤ deadline
      rwa [hexact]
    · exact hold owner' found (hreservations ▸ hget)
  exact {owner' found} hget := by
    change (db'.store written owner r).reservations.get owner' = some found at hget
    rw [get_store] at hget
    split at hget
    · obtain rfl := Option.some.inj hget
      exact congrArg written hexact
    · exact h.exact (hreservations ▸ hget)

theorem get_extended {α : Type} {ttl : ℤ} {reply : α} {owner' : String} (h : Paired db) :
    (extendCollections now ttl reply db).1.reservations.get owner' =
      db.reservations.get owner' := by
  rw [extendCollections_eq h]
  split
  · split <;> rfl
  · rfl

theorem exact_of_recorded {db' : Db} {m' : InMemoryNodeBudgetStore}
    (hrecorded : Recorded db' m') (hget : db'.reservations.get owner = some (encode written r))
    (hm : m'.reservations.lookup owner = some r')
    (hexpiry : r.expiresAtEpoch = r'.expiresAtEpoch) :
    written r.expiresAtEpoch = r.expiresAtEpoch := by
  have howner := hrecorded owner
  rw [hget, hm] at howner
  exact (expiry_of_reported (Option.some.inj howner)).trans hexpiry.symm

theorem needsExtension_put {α : Type} {c : Collection α} {field field' : String}
    {value value' : α} {ttl : ℤ} :
    NeedsExtension now ttl (c.put field value) ↔
      NeedsExtension now ttl (c.put field' value') := by
  have httl : (c.put field value).ttl now = (c.put field' value').ttl now := by
    rw [Collection.ttl, Collection.ttl, if_neg Collection.card_put_ne_zero,
      if_neg Collection.card_put_ne_zero]
    rfl
  unfold NeedsExtension
  rw [httl]

/-- What both stores do when they store a reservation: they go on alike exactly if
JSON keeps the expiry and `EXPIRE` takes the deadline. -/
structure StoredAlike {α : Type} (written : ℚ → ℚ) (now : ℚ) (ttlSeconds : ℤ) (reply : α)
    (stored : Db) (m' : InMemoryNodeBudgetStore) : Prop where
  alike : written (expiresAt now ttlSeconds) = expiresAt now ttlSeconds →
    (NeedsExtension now (keyTtl ttlSeconds) stored.reservations →
      Collection.Expirable now (keyTtl ttlSeconds)) →
    ∃ next, extendCollections now (keyTtl ttlSeconds) reply stored = (next, .ok reply) ∧
      Mirrors written next m'
  extended : (∀ e, (extendCollections now (keyTtl ttlSeconds) reply stored).2 ≠ .error e) →
    NeedsExtension now (keyTtl ttlSeconds) stored.reservations →
      Collection.Expirable now (keyTtl ttlSeconds)
  exact : Recorded (extendCollections now (keyTtl ttlSeconds) reply stored).1 m' →
    written (expiresAt now ttlSeconds) = expiresAt now ttlSeconds

theorem storedAlike {α : Type} {db' : Db} {m' : InMemoryNodeBudgetStore} {ttlSeconds : ℤ}
    (reply : α) (h : Mirrors written db m) (hpaired : Paired db')
    (hlive : ∀ {owner r}, db.reservations.get owner = some r → now < r.expiresAtEpoch)
    (hreservations : db'.reservations = db.reservations)
    (hexpiries : db'.expiries = db.expiries) (hpolicy : db'.policy = m'.policy)
    (hrevision : db'.revision.getD 0 = m'.revision)
    (hm : m'.reservations = m.reservations.insert owner r')
    (hreported : reported r = reported r')
    (hexpiry : r.expiresAtEpoch = expiresAt now ttlSeconds) :
    StoredAlike written now ttlSeconds reply (db'.store written owner r) m' where
  alike hexact hextends := by
    obtain ⟨deadline, houtcome, hnew, hold⟩ := extended_outlives reply h hpaired hlive
      hreservations hextends
    refine ⟨_, houtcome, ?_⟩
    rw [← hexpiry] at hexact hnew
    exact mirrors_stored h hreservations hexpiries hpolicy hrevision hm hreported hexact
      hnew hold
  extended hok hneeds := by
    rw [extendCollections_eq (paired_store hpaired), if_pos hneeds] at hok
    by_cases hexpirable : Collection.Expirable now (keyTtl ttlSeconds)
    · exact hexpirable
    · rw [if_neg hexpirable] at hok
      exact absurd rfl (hok _)
  exact hrecorded := by
    rw [← hexpiry]
    refine exact_of_recorded hrecorded ?_ (?_ : m'.reservations.lookup owner = some r')
      (expiry_of_reported hreported)
    · rw [get_extended (paired_store hpaired), get_store, if_pos rfl]
    · rw [hm, AList.lookup_insert]

/-! ### Calls -/

structure CallAgrees (written : ℚ → ℚ) (db : Db) (m : InMemoryNodeBudgetStore)
    (call : Call) : Prop where
  answers : Conforms written db m call →
    AnswersAgree (db.call written m.nowEpoch call).2 (m.call call).2
  mirrors : Conforms written db m call →
    Mirrors written (db.call written m.nowEpoch call).1 (m.call call).1
  conforms : AnswersAgree (db.call written m.nowEpoch call).2 (m.call call).2 →
    Recorded (db.call written m.nowEpoch call).1 (m.call call).1 → Conforms written db m call

theorem callAgrees_of_same {call : Call} {db' : Db} {m' : InMemoryNodeBudgetStore}
    {answer answer' : Answer} (hdb : db.call written m.nowEpoch call = (db', answer))
    (hm : m.call call = (m', answer')) (hstored : storedTtl m call = none)
    (hblank : ¬ BlankReduction m call) (hanswers : AnswersAgree answer answer')
    (hmirrors : Mirrors written db' m') : CallAgrees written db m call where
  answers _ := by
    rw [hdb, hm]
    exact hanswers
  mirrors _ := by
    rw [hdb, hm]
    exact hmirrors
  conforms _ _ :=
    { evidence := hblank
      exact := fun httl => absurd (hstored.symm.trans httl) (Option.some_ne_none _).symm
      extended := fun httl => absurd (hstored.symm.trans httl) (Option.some_ne_none _).symm }

theorem callAgrees_of_stored {α : Type} {call : Call} {ttlSeconds : ℤ} {reply : α}
    {stored : Db} {m' : InMemoryNodeBudgetStore} (answer : Except ScriptError α → Answer)
    {answer' : Answer} (halike : StoredAlike written m.nowEpoch ttlSeconds reply stored m')
    (hput : stored.reservations = (active m.nowEpoch db).reservations.put owner r)
    (hdb : db.call written m.nowEpoch call =
      ((extendCollections m.nowEpoch (keyTtl ttlSeconds) reply stored).1,
        answer (extendCollections m.nowEpoch (keyTtl ttlSeconds) reply stored).2))
    (hm : m.call call = (m', answer')) (hstored : storedTtl m call = some ttlSeconds)
    (hblank : ¬ BlankReduction m call)
    (hok : written (expiresAt m.nowEpoch ttlSeconds) = expiresAt m.nowEpoch ttlSeconds →
      AnswersAgree (answer (.ok reply)) answer')
    (herror : ∀ e, ¬ AnswersAgree (answer (.error e)) answer') :
    CallAgrees written db m call := by
  have hnext : Conforms written db m call →
      ∃ next, extendCollections m.nowEpoch (keyTtl ttlSeconds) reply stored =
        (next, .ok reply) ∧ Mirrors written next m' := by
    intro hconforms
    refine halike.alike (hconforms.exact hstored) fun hneeds => ?_
    rw [hput] at hneeds
    exact hconforms.extended hstored _ _ hneeds
  refine ⟨fun hconforms => ?_, fun hconforms => ?_, fun hanswers hrecorded => ?_⟩
  · obtain ⟨next, houtcome, -⟩ := hnext hconforms
    rw [hdb, hm, houtcome]
    exact hok (hconforms.exact hstored)
  · obtain ⟨next, houtcome, hmirrors⟩ := hnext hconforms
    rw [hdb, hm, houtcome]
    exact hmirrors
  · rw [hdb, hm] at hanswers hrecorded
    have hextended := halike.extended fun e he => herror e (he ▸ hanswers)
    have hexact := halike.exact hrecorded
    refine ⟨hblank, fun {ttl} httl => ?_, fun {ttl} httl owner' r' hneeds => ?_⟩
    · obtain rfl := Option.some.inj (hstored.symm.trans httl)
      exact hexact
    · obtain rfl := Option.some.inj (hstored.symm.trans httl)
      apply hextended
      rw [hput]
      exact needsExtension_put.mp hneeds

theorem mirrors_posted {policy : NodeBudgetPolicy} (h : Mirrors written db m) :
    Mirrors written { db with policy := some policy } { m with policy := some policy } :=
  { h with policy := rfl }

theorem mirrors_released {total : Option ℤ} (h : Mirrors written db m) :
    Mirrors written { db with
      reservations := db.reservations.del owner, expiries := db.expiries.del owner, total }
      { m with reservations := m.reservations.erase owner } where
  policy := h.policy
  revision := h.revision
  recorded owner' := by
    change ((db.reservations.del owner).get owner').map reported = _
    rw [Collection.get_del]
    split
    · rename_i heq
      subst heq
      rw [AList.lookup_erase]
    · rename_i hne
      rw [AList.lookup_erase_ne hne]
      exact h.recorded owner'
  scores {owner' found} hget := by
    change (db.reservations.del owner).get owner' = some found at hget
    change (db.expiries.del owner).get owner' = _
    rw [Collection.get_del] at hget ⊢
    split at hget
    · exact absurd hget (Option.some_ne_none found).symm
    · rename_i hne
      rw [if_neg hne]
      exact h.scores hget
  deadline {owner' found} hget := by
    change (db.reservations.del owner).get owner' = some found at hget
    rw [Collection.get_del] at hget
    split at hget
    · exact absurd hget (Option.some_ne_none found).symm
    · exact h.deadline hget
  exact {owner' found} hget := by
    change (db.reservations.del owner).get owner' = some found at hget
    rw [Collection.get_del] at hget
    split at hget
    · exact absurd hget (Option.some_ne_none found).symm
    · exact h.exact hget

theorem mirrors_reduced {total : Option ℤ} {old : NodeBudgetReservation}
    (h : Mirrors written db m) (hget : db.reservations.get owner = some old)
    (hexpiry : r.expiresAtEpoch = old.expiresAtEpoch) (hreported : reported r = reported r') :
    Mirrors written
      { db with reservations := db.reservations.put owner (encode written r), total }
      { m with reservations := m.reservations.insert owner r' } where
  policy := h.policy
  revision := h.revision
  recorded owner' := by
    change ((db.reservations.put owner _).get owner').map reported = _
    rw [Collection.get_put]
    split
    · rename_i heq
      subst heq
      have hexact : written r.expiresAtEpoch = r.expiresAtEpoch := by
        rw [hexpiry]
        exact h.exact hget
      rw [AList.lookup_insert]
      exact congrArg some ((reported_encode hexact).trans hreported)
    · rename_i hne
      rw [AList.lookup_insert_ne hne]
      exact h.recorded owner'
  scores {owner' found} hget' := by
    change (db.reservations.put owner _).get owner' = some found at hget'
    rw [Collection.get_put] at hget'
    split at hget'
    · rename_i heq
      subst heq
      obtain rfl := Option.some.inj hget'
      change db.expiries.get _ = some (written r.expiresAtEpoch)
      rw [hexpiry, h.exact hget]
      exact h.scores hget
    · exact h.scores hget'
  deadline {owner' found} hget' := by
    change (db.reservations.put owner _).get owner' = some found at hget'
    change ∃ deadline, (if db.reservations.card = 0 then none
      else db.reservations.deadline) = some deadline ∧ _
    rw [if_neg (Collection.card_ne_zero_of_get hget)]
    rw [Collection.get_put] at hget'
    split at hget'
    · obtain rfl := Option.some.inj hget'
      change ∃ deadline, _ ∧ written r.expiresAtEpoch ≤ deadline
      rw [hexpiry, h.exact hget]
      exact h.deadline hget
    · exact h.deadline hget'
  exact {owner' found} hget' := by
    change (db.reservations.put owner _).get owner' = some found at hget'
    rw [Collection.get_put] at hget'
    split at hget'
    · obtain rfl := Option.some.inj hget'
      change written (written r.expiresAtEpoch) = written r.expiresAtEpoch
      rw [hexpiry, h.exact hget]
      exact h.exact hget
    · exact h.exact hget'

theorem acquire_agrees (h : Mirrors written db m) (hs : Sound allocatable db) (ownerId : String)
    (requestBytes : ℤ) (policy : NodeBudgetPolicy) (profileFingerprint : String)
    (ttlSeconds : ℤ) :
    CallAgrees written db m
      (.acquire ownerId requestBytes policy profileFingerprint ttlSeconds) := by
  have hsound := sound_active m.nowEpoch hs
  have hactive := mirrors_active h hs.toPaired
  have hlive : ∀ {owner r}, (active m.nowEpoch db).reservations.get owner = some r →
      m.nowEpoch < r.expiresAtEpoch :=
    fun hget => ((get_active_of_mirrors h hs.toPaired).mp hget).2
  have htotal := total_of_recorded hactive.recorded
  have hnonneg := hsound.nonneg
  rcases recorded_cases hactive.recorded ownerId with ⟨hdb, hm⟩ | ⟨r, r', hdb, hm, hreported⟩
  · by_cases hgranted : 0 < requestBytes ∧
        total NodeBudgetReservation.bytes m.purge.reservations + requestBytes ≤
          policy.allocatableBytes
    · have hfits : ¬ (requestBytes ≤ 0 ∨ policy.allocatableBytes ≤ 0 ∨
          policy.allocatableBytes < reservedBytes (active m.nowEpoch db) + requestBytes) := by
        omega
      have hfits' : ¬ (requestBytes ≤ 0 ∨
          total NodeBudgetReservation.bytes m.purge.reservations + requestBytes >
            policy.allocatableBytes) := by omega
      have hrevision : (active m.nowEpoch db).revision.getD 0 = m.revision :=
        hactive.revision
      set reservation := granted ownerId requestBytes policy.allocatableBytes
        (m.revision + 1) (expiresAt m.nowEpoch ttlSeconds) policy.fingerprint
        profileFingerprint policy.mode with hreservation
      set reply : AcquireReply := ⟨1, reservedBytes (active m.nowEpoch db) + requestBytes,
        m.revision + 1, some (encode written reservation)⟩ with hreply
      set counted : Db := { active m.nowEpoch db with
        policy := some policy
        revision := some (m.revision + 1)
        total := some (reservedBytes (active m.nowEpoch db) + requestBytes) } with hcounted
      set m' : InMemoryNodeBudgetStore := { m.purge with
        policy := some policy
        revision := m.revision + 1
        reservations := m.purge.reservations.insert ownerId reservation } with hm'
      have halike : StoredAlike written m.nowEpoch ttlSeconds reply
          (counted.store written ownerId reservation) m' :=
        storedAlike reply hactive ⟨hsound.owners, hsound.deadlines⟩ hlive rfl rfl rfl rfl
          rfl rfl rfl
      have hredis : db.call written m.nowEpoch
          (.acquire ownerId requestBytes policy profileFingerprint ttlSeconds) =
          ((extendCollections m.nowEpoch (keyTtl ttlSeconds) reply
            (counted.store written ownerId reservation)).1,
            .acquired (acquireResult requestBytes policy
              (extendCollections m.nowEpoch (keyTtl ttlSeconds) reply
                (counted.store written ownerId reservation)).2)) := by
        simp only [Db.call, acquire, acquireScript, reconciled_eq hs, hdb, if_neg hfits,
          hrevision]
        rfl
      have hmemory : m.call
          (.acquire ownerId requestBytes policy profileFingerprint ttlSeconds) =
          (m', .acquired ⟨true, none, some reservation,
            total NodeBudgetReservation.bytes m.purge.reservations + requestBytes,
            requestBytes, policy⟩) := by
        simp only [InMemoryNodeBudgetStore.call, InMemoryNodeBudgetStore.acquire, hm,
          if_neg hfits']
        rfl
      refine callAgrees_of_stored
        (fun result => .acquired (acquireResult requestBytes policy result)) halike rfl
        hredis hmemory ?_ id (fun hexact => ⟨rfl, rfl, ?_, ?_⟩)
        fun e hanswers => Bool.false_ne_true hanswers.1
      · simp only [storedTtl, hm, if_pos hgranted]
      · exact congrArg (· + requestBytes) htotal
      · have hencoded : reported (encode written reservation) = reported reservation :=
          reported_encode hexact
        exact congrArg some hencoded
    · have hrefused : requestBytes ≤ 0 ∨ policy.allocatableBytes ≤ 0 ∨
          policy.allocatableBytes < reservedBytes (active m.nowEpoch db) + requestBytes := by
        omega
      have hrefused' : requestBytes ≤ 0 ∨
          total NodeBudgetReservation.bytes m.purge.reservations + requestBytes >
            policy.allocatableBytes := by omega
      have hredis : db.call written m.nowEpoch
          (.acquire ownerId requestBytes policy profileFingerprint ttlSeconds) =
          ({ active m.nowEpoch db with policy := some policy },
            .acquired ⟨false, some "node_budget_exhausted", none,
              reservedBytes (active m.nowEpoch db), requestBytes, policy⟩) := by
        simp only [Db.call, acquire, acquireScript, reconciled_eq hs, hdb, if_pos hrefused]
        rfl
      have hmemory : m.call
          (.acquire ownerId requestBytes policy profileFingerprint ttlSeconds) =
          ({ m.purge with policy := some policy },
            .acquired ⟨false, some "node_budget_exhausted", none,
              total NodeBudgetReservation.bytes m.purge.reservations, requestBytes,
              policy⟩) := by
        simp only [InMemoryNodeBudgetStore.call, InMemoryNodeBudgetStore.acquire, hm,
          if_pos hrefused']
        rfl
      refine callAgrees_of_same hredis hmemory ?_ id ⟨rfl, rfl, htotal, rfl⟩
        (mirrors_posted hactive)
      simp only [storedTtl, hm, if_neg hgranted]
  · by_cases hsame : r'.bytes = requestBytes ∧ r'.policyFingerprint = policy.fingerprint ∧
        r'.resourceProfileFingerprint = profileFingerprint
    · have hsame' : r.bytes = requestBytes ∧ r.policyFingerprint = policy.fingerprint ∧
          r.resourceProfileFingerprint = profileFingerprint := by
        rw [matches_of_reported hreported]
        exact hsame
      have hmatches : ¬ (r'.bytes ≠ requestBytes ∨ r'.policyFingerprint ≠ policy.fingerprint ∨
          r'.resourceProfileFingerprint ≠ profileFingerprint) := by
        simpa only [ne_eq, not_or, not_not] using hsame
      set refreshed := { r with expiresAtEpoch := expiresAt m.nowEpoch ttlSeconds }
        with hrefreshed
      set refreshed' := { r' with expiresAtEpoch := expiresAt m.nowEpoch ttlSeconds }
        with hrefreshed'
      set posted : Db := { active m.nowEpoch db with policy := some policy } with hposted
      set reply : AcquireReply := ⟨1, reservedBytes (active m.nowEpoch db), r.revision,
        some (encode written refreshed)⟩ with hreply
      set m' : InMemoryNodeBudgetStore := { m.purge with
        policy := some policy
        reservations := m.purge.reservations.insert ownerId refreshed' } with hm'
      have hrefresh : reported refreshed = reported refreshed' :=
        reported_refreshed hreported _
      have halike : StoredAlike written m.nowEpoch ttlSeconds reply
          (posted.store written ownerId refreshed) m' :=
        storedAlike reply hactive ⟨hsound.owners, hsound.deadlines⟩ hlive rfl rfl rfl
          hactive.revision rfl hrefresh rfl
      have hredis : db.call written m.nowEpoch
          (.acquire ownerId requestBytes policy profileFingerprint ttlSeconds) =
          ((extendCollections m.nowEpoch (keyTtl ttlSeconds) reply
            (posted.store written ownerId refreshed)).1,
            .acquired (acquireResult requestBytes policy
              (extendCollections m.nowEpoch (keyTtl ttlSeconds) reply
                (posted.store written ownerId refreshed)).2)) := by
        simp only [Db.call, acquire, acquireScript, reconciled_eq hs, hdb, if_pos hsame']
        rfl
      have hmemory : m.call
          (.acquire ownerId requestBytes policy profileFingerprint ttlSeconds) =
          (m', .acquired ⟨true, none, some refreshed',
            total NodeBudgetReservation.bytes m.purge.reservations, requestBytes,
            policy⟩) := by
        simp only [InMemoryNodeBudgetStore.call, InMemoryNodeBudgetStore.acquire, hm,
          if_neg hmatches]
        rfl
      refine callAgrees_of_stored
        (fun result => .acquired (acquireResult requestBytes policy result)) halike rfl
        hredis hmemory ?_ id (fun hexact => ⟨rfl, rfl, htotal, ?_⟩)
        fun e hanswers => Bool.false_ne_true hanswers.1
      · simp only [storedTtl, hm, if_pos hsame]
      · exact congrArg some ((reported_encode hexact).trans hrefresh)
    · have hsame' : ¬ (r.bytes = requestBytes ∧ r.policyFingerprint = policy.fingerprint ∧
          r.resourceProfileFingerprint = profileFingerprint) := by
        rw [matches_of_reported hreported]
        exact hsame
      have hconflict : r'.bytes ≠ requestBytes ∨ r'.policyFingerprint ≠ policy.fingerprint ∨
          r'.resourceProfileFingerprint ≠ profileFingerprint := by
        simpa only [ne_eq, ← not_and_or] using hsame
      have hredis : db.call written m.nowEpoch
          (.acquire ownerId requestBytes policy profileFingerprint ttlSeconds) =
          ({ active m.nowEpoch db with policy := some policy },
            .acquired ⟨false, some "node_budget_owner_conflict", none,
              reservedBytes (active m.nowEpoch db), requestBytes, policy⟩) := by
        simp only [Db.call, acquire, acquireScript, reconciled_eq hs, hdb, if_neg hsame']
        rfl
      have hmemory : m.call
          (.acquire ownerId requestBytes policy profileFingerprint ttlSeconds) =
          ({ m.purge with policy := some policy },
            .acquired ⟨false, some "node_budget_owner_conflict", none,
              total NodeBudgetReservation.bytes m.purge.reservations, requestBytes,
              policy⟩) := by
        simp only [InMemoryNodeBudgetStore.call, InMemoryNodeBudgetStore.acquire, hm,
          if_pos hconflict]
        rfl
      refine callAgrees_of_same hredis hmemory ?_ id ⟨rfl, rfl, htotal, rfl⟩
        (mirrors_posted hactive)
      simp only [storedTtl, hm, if_neg hsame]

theorem renew_agrees (h : Mirrors written db m) (hs : Sound allocatable db)
    (reservation : NodeBudgetReservation) (ttlSeconds : ℤ) :
    CallAgrees written db m (.renew reservation ttlSeconds) := by
  have hsound := sound_active m.nowEpoch hs
  have hactive := mirrors_active h hs.toPaired
  have hlive : ∀ {owner r}, (active m.nowEpoch db).reservations.get owner = some r →
      m.nowEpoch < r.expiresAtEpoch :=
    fun hget => ((get_active_of_mirrors h hs.toPaired).mp hget).2
  rcases recorded_cases hactive.recorded reservation.ownerId with
    ⟨hdb, hm⟩ | ⟨r, r', hdb, hm, hreported⟩
  · have hredis : db.call written m.nowEpoch (.renew reservation ttlSeconds) =
        (active m.nowEpoch db, .decided false) := by
      simp only [Db.call, renew, renewScript, reconciled_eq hs, hdb]
      rfl
    have hmemory : m.call (.renew reservation ttlSeconds) = (m.purge, .decided false) := by
      simp only [InMemoryNodeBudgetStore.call, InMemoryNodeBudgetStore.renew, hm]
      rfl
    refine callAgrees_of_same hredis hmemory ?_ id rfl hactive
    simp only [storedTtl, hm]
  · have hrevision := revision_of_reported hreported
    by_cases hcurrent : r'.revision = reservation.revision
    · have hkept : ¬ r.revision ≠ reservation.revision :=
        not_not.mpr (hrevision.trans hcurrent)
      have hkept' : ¬ r'.revision ≠ reservation.revision := not_not.mpr hcurrent
      set renewed := { r with expiresAtEpoch := expiresAt m.nowEpoch ttlSeconds }
      set renewed' := { r' with expiresAtEpoch := expiresAt m.nowEpoch ttlSeconds }
      set m' : InMemoryNodeBudgetStore := { m.purge with
        reservations := m.purge.reservations.insert reservation.ownerId renewed' }
      have halike : StoredAlike written m.nowEpoch ttlSeconds (1 : ℤ)
          ((active m.nowEpoch db).store written reservation.ownerId renewed) m' :=
        storedAlike 1 hactive hsound.toPaired hlive rfl rfl hactive.policy
          hactive.revision rfl (reported_refreshed hreported _) rfl
      have hredis : db.call written m.nowEpoch (.renew reservation ttlSeconds) =
          ((extendCollections m.nowEpoch (keyTtl ttlSeconds) (1 : ℤ)
            ((active m.nowEpoch db).store written reservation.ownerId renewed)).1,
            .decided (replied (fun result => decide (result ≠ 0))
              (extendCollections m.nowEpoch (keyTtl ttlSeconds) 1
                ((active m.nowEpoch db).store written reservation.ownerId renewed)).2)) := by
        simp only [Db.call, renew, renewScript, reconciled_eq hs, hdb, if_neg hkept]
        rfl
      have hmemory : m.call (.renew reservation ttlSeconds) = (m', .decided true) := by
        simp only [InMemoryNodeBudgetStore.call, InMemoryNodeBudgetStore.renew, hm,
          if_neg hkept']
        rfl
      refine callAgrees_of_stored
        (fun result => .decided (replied (fun result => decide (result ≠ 0)) result)) halike
        rfl hredis hmemory ?_ id (fun _ => rfl) fun e => Bool.false_ne_true
      simp only [storedTtl, hm, if_pos hcurrent]
    · have hout : r.revision ≠ reservation.revision := hrevision ▸ hcurrent
      have hredis : db.call written m.nowEpoch (.renew reservation ttlSeconds) =
          (active m.nowEpoch db, .decided false) := by
        simp only [Db.call, renew, renewScript, reconciled_eq hs, hdb, if_pos hout]
        rfl
      have hmemory : m.call (.renew reservation ttlSeconds) = (m.purge, .decided false) := by
        simp only [InMemoryNodeBudgetStore.call, InMemoryNodeBudgetStore.renew, hm,
          if_pos hcurrent]
        rfl
      refine callAgrees_of_same hredis hmemory ?_ id rfl hactive
      simp only [storedTtl, hm, if_neg hcurrent]

theorem release_agrees (h : Mirrors written db m) (hs : Sound allocatable db)
    (reservation : NodeBudgetReservation) :
    CallAgrees written db m (.release reservation) := by
  have hactive := mirrors_active h hs.toPaired
  rcases recorded_cases hactive.recorded reservation.ownerId with
    ⟨hdb, hm⟩ | ⟨r, r', hdb, hm, hreported⟩
  · have hredis : db.call written m.nowEpoch (.release reservation) =
        (active m.nowEpoch db, .decided false) := by
      simp only [Db.call, release, releaseScript, reconciled_eq hs, hdb]
      rfl
    have hmemory : m.call (.release reservation) = (m.purge, .decided false) := by
      simp only [InMemoryNodeBudgetStore.call, InMemoryNodeBudgetStore.release, hm]
      rfl
    exact callAgrees_of_same hredis hmemory rfl id rfl hactive
  · have hrevision := revision_of_reported hreported
    by_cases hcurrent : r'.revision = reservation.revision
    · have hkept : ¬ r.revision ≠ reservation.revision :=
        not_not.mpr (hrevision.trans hcurrent)
      have hkept' : ¬ r'.revision ≠ reservation.revision := not_not.mpr hcurrent
      have hredis : db.call written m.nowEpoch (.release reservation) =
          ({ active m.nowEpoch db with
              reservations := (active m.nowEpoch db).reservations.del reservation.ownerId
              expiries := (active m.nowEpoch db).expiries.del reservation.ownerId
              total := some (max 0 (reservedBytes (active m.nowEpoch db) - r.bytes)) },
            .decided true) := by
        simp only [Db.call, release, releaseScript, reconciled_eq hs, hdb, if_neg hkept]
        rfl
      have hmemory : m.call (.release reservation) =
          ({ m.purge with
              reservations := m.purge.reservations.erase reservation.ownerId },
            .decided true) := by
        simp only [InMemoryNodeBudgetStore.call, InMemoryNodeBudgetStore.release, hm,
          if_neg hkept']
        rfl
      refine callAgrees_of_same hredis hmemory rfl id rfl ?_
      exact mirrors_released hactive
    · have hout : r.revision ≠ reservation.revision := hrevision ▸ hcurrent
      have hredis : db.call written m.nowEpoch (.release reservation) =
          (active m.nowEpoch db, .decided false) := by
        simp only [Db.call, release, releaseScript, reconciled_eq hs, hdb, if_pos hout]
        rfl
      have hmemory : m.call (.release reservation) = (m.purge, .decided false) := by
        simp only [InMemoryNodeBudgetStore.call, InMemoryNodeBudgetStore.release, hm,
          if_pos hcurrent]
        rfl
      exact callAgrees_of_same hredis hmemory rfl id rfl hactive

theorem reconcileDown_agrees (h : Mirrors written db m) (hs : Sound allocatable db)
    (reservation : NodeBudgetReservation) (requestBytes : ℤ) (evidenceFingerprint : String) :
    CallAgrees written db m (.reconcileDown reservation requestBytes evidenceFingerprint) := by
  have hactive := mirrors_active h hs.toPaired
  rcases recorded_cases hactive.recorded reservation.ownerId with
    ⟨hdb, hm⟩ | ⟨r, r', hdb, hm, hreported⟩
  · have hredis : db.call written m.nowEpoch
        (.reconcileDown reservation requestBytes evidenceFingerprint) =
        (active m.nowEpoch db, .decided false) := by
      simp only [Db.call, reconcileDown, reconcileDownScript, reconciled_eq hs, hdb]
      rfl
    have hmemory : m.call (.reconcileDown reservation requestBytes evidenceFingerprint) =
        (m.purge, .decided false) := by
      simp only [InMemoryNodeBudgetStore.call, InMemoryNodeBudgetStore.reconcileDown, hm]
      rfl
    refine callAgrees_of_same hredis hmemory rfl ?_ rfl hactive
    rintro ⟨-, -, current, hcurrent, -⟩
    exact absurd (hm.symm.trans hcurrent) (Option.some_ne_none current).symm
  · have hrevision := revision_of_reported hreported
    have hbytes := bytes_of_reported hreported
    by_cases hreduces : r'.revision = reservation.revision ∧ 0 < requestBytes ∧
        requestBytes < r'.bytes
    · obtain ⟨hcurrent, hpositive, hsmaller⟩ := hreduces
      have hkept : ¬ r.revision ≠ reservation.revision :=
        not_not.mpr (hrevision.trans hcurrent)
      have hrange : ¬ (requestBytes ≤ 0 ∨ r.bytes ≤ requestBytes) := by omega
      by_cases hempty : evidenceFingerprint = ""
      · have hstrip : strip evidenceFingerprint = "" := by
          rw [strip_eq_empty_iff, hempty]
          rintro c ⟨⟩
        have hredis : db.call written m.nowEpoch
            (.reconcileDown reservation requestBytes evidenceFingerprint) =
            (active m.nowEpoch db, .decided false) := by
          simp only [Db.call, reconcileDown, reconcileDownScript, reconciled_eq hs, hdb,
            if_neg hkept, if_neg hrange, if_pos hempty]
          rfl
        have hmemory : m.call (.reconcileDown reservation requestBytes evidenceFingerprint) =
            (m.purge, .decided false) := by
          simp only [InMemoryNodeBudgetStore.call, InMemoryNodeBudgetStore.reconcileDown, hm,
            if_pos (Or.inr (Or.inr (Or.inr hstrip)))]
          rfl
        exact callAgrees_of_same hredis hmemory rfl (fun hblank => hblank.1 hempty) rfl hactive
      · have hredis : db.call written m.nowEpoch
            (.reconcileDown reservation requestBytes evidenceFingerprint) =
            ({ active m.nowEpoch db with
                reservations := (active m.nowEpoch db).reservations.put reservation.ownerId
                  (encode written { r with
                    bytes := requestBytes
                    reconciledFromBytes := some r.bytes
                    reconciliationEvidenceFingerprint := some evidenceFingerprint
                    reconciledAtEpoch := some m.nowEpoch })
                total := some (max 0 (reservedBytes (active m.nowEpoch db) -
                  (r.bytes - requestBytes))) },
              .decided true) := by
          simp only [Db.call, reconcileDown, reconcileDownScript, reconciled_eq hs, hdb,
            if_neg hkept, if_neg hrange, if_neg hempty]
          rfl
        by_cases hblank : Blank evidenceFingerprint
        · -- Redis reduces, the in-memory store refuses.
          have hreduction : BlankReduction m
              (.reconcileDown reservation requestBytes evidenceFingerprint) :=
            ⟨hempty, hblank, r', hm, hcurrent, hpositive, hsmaller⟩
          have hmemory : m.call
              (.reconcileDown reservation requestBytes evidenceFingerprint) =
              (m.purge, .decided false) := by
            simp only [InMemoryNodeBudgetStore.call, InMemoryNodeBudgetStore.reconcileDown,
              hm, if_pos (Or.inr (Or.inr (Or.inr (strip_eq_empty_iff.mpr hblank))))]
            rfl
          refine ⟨fun h => absurd hreduction h.evidence, fun h => absurd hreduction h.evidence,
            fun hanswers _ => ?_⟩
          rw [hredis, hmemory] at hanswers
          change true = false at hanswers
          exact absurd hanswers.symm Bool.false_ne_true
        · have hstrip : ¬ (r'.revision ≠ reservation.revision ∨ requestBytes ≤ 0 ∨
              r'.bytes ≤ requestBytes ∨ strip evidenceFingerprint = "") := by
            rw [strip_eq_empty_iff]
            rintro (hout | hle | hle | h)
            · exact hout hcurrent
            · omega
            · omega
            · exact hblank h
          have hmemory : m.call
              (.reconcileDown reservation requestBytes evidenceFingerprint) =
              ({ m.purge with
                  reservations := m.purge.reservations.insert reservation.ownerId
                    { r' with
                      bytes := requestBytes
                      reconciliationEvidenceFingerprint := some evidenceFingerprint
                      reconciledFromBytes := some r'.bytes
                      reconciledAtEpoch := some m.nowEpoch } },
                .decided true) := by
            simp only [InMemoryNodeBudgetStore.call, InMemoryNodeBudgetStore.reconcileDown,
              hm, if_neg hstrip]
            rfl
          refine callAgrees_of_same hredis hmemory rfl (fun h => hblank h.2.1) rfl ?_
          refine mirrors_reduced hactive hdb rfl ?_
          exact congrArg (fun r => { r with bytes := requestBytes }) hreported
    · have hrefused : r'.revision ≠ reservation.revision ∨ requestBytes ≤ 0 ∨
          r'.bytes ≤ requestBytes ∨ strip evidenceFingerprint = "" := by
        by_contra hnot
        rw [not_or, not_or, not_or] at hnot
        exact hreduces ⟨not_not.mp hnot.1, by omega, by omega⟩
      have hredis : db.call written m.nowEpoch
          (.reconcileDown reservation requestBytes evidenceFingerprint) =
          (active m.nowEpoch db, .decided false) := by
        by_cases hout : r.revision ≠ reservation.revision
        · simp only [Db.call, reconcileDown, reconcileDownScript, reconciled_eq hs, hdb,
            if_pos hout]
          rfl
        · have hrange : requestBytes ≤ 0 ∨ r.bytes ≤ requestBytes := by
            by_contra hnot
            exact hreduces ⟨hrevision ▸ not_not.mp hout, by omega, by omega⟩
          simp only [Db.call, reconcileDown, reconcileDownScript, reconciled_eq hs, hdb,
            if_neg hout, if_pos hrange]
          rfl
      have hmemory : m.call (.reconcileDown reservation requestBytes evidenceFingerprint) =
          (m.purge, .decided false) := by
        simp only [InMemoryNodeBudgetStore.call, InMemoryNodeBudgetStore.reconcileDown, hm,
          if_pos hrefused]
        rfl
      refine callAgrees_of_same hredis hmemory rfl ?_ rfl hactive
      rintro ⟨-, -, current, hcurrent, hrest⟩
      obtain rfl := Option.some.inj (hm.symm.trans hcurrent)
      exact hreduces hrest

theorem snapshot_agrees (h : Mirrors written db m) (hs : Sound allocatable db) :
    CallAgrees written db m .snapshot := by
  have hactive := mirrors_active h hs.toPaired
  have hredis : db.call written m.nowEpoch .snapshot =
      (active m.nowEpoch db, .seen (.available (reservedBytes (active m.nowEpoch db))
        ((active m.nowEpoch db).reservations.fields.entries.map fun e => e.2).length
        ((active m.nowEpoch db).revision.getD 0) (active m.nowEpoch db).policy
        ((active m.nowEpoch db).reservations.fields.entries.map fun e => e.2))) := by
    simp only [Db.call, snapshot, snapshotScript, reconciled_eq hs]
    rfl
  refine callAgrees_of_same hredis rfl rfl id ?_ hactive
  have hperm := perm_of_lookup reported hactive.recorded
  refine ⟨total_of_recorded hactive.recorded, ?_, hactive.revision, hactive.policy, ?_⟩
  · simpa using hperm.length_eq
  · intro found
    rw [List.map_map, List.map_map]
    exact hperm.mem_iff

theorem call_agrees (h : Mirrors written db m) (hs : Sound allocatable db) (call : Call) :
    CallAgrees written db m call := by
  cases call with
  | acquire ownerId requestBytes policy profileFingerprint ttlSeconds =>
      exact acquire_agrees h hs ownerId requestBytes policy profileFingerprint ttlSeconds
  | renew reservation ttlSeconds => exact renew_agrees h hs reservation ttlSeconds
  | reconcileDown reservation requestBytes evidenceFingerprint =>
      exact reconcileDown_agrees h hs reservation requestBytes evidenceFingerprint
  | release reservation => exact release_agrees h hs reservation
  | snapshot => exact snapshot_agrees h hs

/-! ### Runs -/

theorem call_nowEpoch (m : InMemoryNodeBudgetStore) (call : Call) :
    (m.call call).1.nowEpoch = m.nowEpoch := by
  cases call with
  | acquire ownerId requestBytes policy profileFingerprint ttlSeconds =>
      simp only [InMemoryNodeBudgetStore.call, InMemoryNodeBudgetStore.acquire, Prod.map_fst,
        id_eq]
      split <;> split <;> rfl
  | renew reservation ttlSeconds =>
      simp only [InMemoryNodeBudgetStore.call, InMemoryNodeBudgetStore.renew, Prod.map_fst,
        id_eq]
      split
      · rfl
      · split <;> rfl
  | reconcileDown reservation requestBytes evidenceFingerprint =>
      simp only [InMemoryNodeBudgetStore.call, InMemoryNodeBudgetStore.reconcileDown,
        Prod.map_fst, id_eq]
      split
      · rfl
      · split <;> rfl
  | release reservation =>
      simp only [InMemoryNodeBudgetStore.call, InMemoryNodeBudgetStore.release, Prod.map_fst,
        id_eq]
      split
      · rfl
      · split <;> rfl
  | snapshot => rfl

theorem exists_callWithin (limit : ℤ) (call : Call) :
    ∃ limit', limit ≤ limit' ∧ CallWithin limit' call := by
  cases call with
  | acquire ownerId requestBytes policy profileFingerprint ttlSeconds =>
      exact ⟨max limit policy.allocatableBytes, le_max_left _ _, le_max_right _ _⟩
  | _ => exact ⟨limit, le_refl limit, trivial⟩

theorem sound_call (h : ∃ limit, Sound limit db) (call : Call) :
    ∃ limit, Sound limit (db.call written now call).1 := by
  obtain ⟨limit, hlimit⟩ := h
  obtain ⟨limit', hle, hwithin⟩ := exists_callWithin limit call
  have hsound : Sound limit' db := { hlimit with within := hlimit.within.trans hle }
  rw [call_fst]
  exact ⟨limit', (script_kept hsound hwithin).sound⟩

theorem mirrors_start (nowEpoch : ℚ) :
    Mirrors written Db.empty (.start nowEpoch) where
  policy := rfl
  revision := rfl
  recorded _ := rfl
  scores hget := absurd hget (by simp [Db.empty])
  deadline hget := absurd hget (by simp [Db.empty])
  exact hget := absurd hget (by simp [Db.empty])

theorem agree_iff_of_mirrors {store : RedisNodeBudgetStore} {operations : List Operation}
    (h : Mirrors written store.db m) (hs : ∃ limit, Sound limit store.db)
    (hclock : store.nowEpoch = m.nowEpoch) :
    Agree written store m operations ↔ AllConform written store m operations := by
  induction operations generalizing store m with
  | nil => exact Iff.rfl
  | cons operation rest ih =>
      cases operation with
      | advance seconds =>
          apply ih
          · exact { h with }
          · exact hs
          · exact congrArg (· + max 0 seconds) hclock
      | call call =>
          obtain ⟨db, nowEpoch⟩ := store
          obtain rfl : nowEpoch = m.nowEpoch := hclock
          obtain ⟨limit, hlimit⟩ := hs
          have hcall : CallAgrees written db m call := call_agrees h hlimit call
          have hnext : Conforms written db m call →
              (Agree written ⟨(db.call written m.nowEpoch call).1, m.nowEpoch⟩
                (m.call call).1 rest ↔
              AllConform written ⟨(db.call written m.nowEpoch call).1, m.nowEpoch⟩
                (m.call call).1 rest) := by
            intro hconforms
            apply ih
            · exact hcall.mirrors hconforms
            · exact sound_call ⟨limit, hlimit⟩ call
            · exact (call_nowEpoch m call).symm
          constructor
          · rintro ⟨hanswers, hrecorded, hrest⟩
            have hconforms := hcall.conforms hanswers hrecorded
            exact ⟨hconforms, (hnext hconforms).mp hrest⟩
          · rintro ⟨hconforms, hrest⟩
            exact ⟨hcall.answers hconforms, (hcall.mirrors hconforms).recorded,
              (hnext hconforms).mpr hrest⟩

/-- A worker's reservation, reduced with one space as evidence. -/
def blankRun : List Operation :=
  [.call (.acquire "worker" 4 smallPolicy "profile" 60),
   .call (.reconcileDown (granted "worker" 4 10 1 60 "policy" "profile" "calibrated") 2 " ")]

end MindscapeLocalCore.RunnerResources.StoreAgreement
