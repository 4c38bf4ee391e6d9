import MindscapeLocalCore.Library.Trace
import MindscapeLocalCore.RunnerResources.ResourceStores

/-!
Runs of the lease stores: who holds a lease keeps it to its end, and the store of the tests against
the one on the server.
-/

namespace MindscapeLocalCore.RunnerResources.LeaseRuns

open Library Library.Dictionary Library.Holdings Library.Redis Leases

/-- Change the unexpired entries if what is under the key allows it. -/
def tableCall {ε : Type} (current : ℚ → ε → Bool) (holder : ε → Held) (now : ℚ) (key : String)
    (allows : Option Held → Bool) (change : Dict String ε → Dict String ε) (s : Dict String ε) :
    Bool × Dict String ε :=
  let s := settled current now s
  if allows ((s.lookup key).map holder) then (true, change s) else (false, s)

inductive LeaseCall where
  | acquire (key ownerId : String) (ttlSeconds : ℤ)
  | extend (key ownerId : String) (ttlSeconds : ℤ)
  | release (key ownerId : String)

namespace LeaseCall

def key : LeaseCall → String
  | acquire key _ _ | extend key _ _ | release key _ => key

def allows : LeaseCall → Option Held → Bool
  | acquire .. => Option.isNone
  | extend _ ownerId _ | release _ ownerId => Option.any (·.ownerId = ownerId)

def change {ε : Type} (entry : String → ℤ → ε) : LeaseCall → Dict String ε → Dict String ε
  | acquire key ownerId ttlSeconds | extend key ownerId ttlSeconds =>
      (·.insert key (entry ownerId ttlSeconds))
  | release key _ => (·.erase key)

def Accepted (now : ℚ) : LeaseCall → Prop
  | acquire _ _ ttlSeconds | extend _ _ ttlSeconds =>
      0 < ttlSeconds ∧ Collection.Expirable now ttlSeconds
  | release .. => True

end LeaseCall

def runsAt (now : ℚ) (held : Held) : Bool :=
  held.expiresAt.all fun deadline => !decide (deadline < now)

def heldFor (now : ℚ) (ownerId : String) (ttlSeconds : ℤ) : Held := ⟨ownerId, some (now + ttlSeconds)⟩

/-- The calls of `RedisResourceLeaseStore`. The script of `extend` has no answer, and raises, where
`EXPIRE` is asked for an end that is too late; an end that has passed deletes the key. -/
def redisCall (now : ℚ) (s : Dict String Held) : LeaseCall → Option Bool × Dict String Held
  | .acquire key ownerId ttlSeconds =>
      redisResourceLeaseStore.acquire now key ownerId ttlSeconds s
  | .extend key ownerId ttlSeconds =>
      let call := LeaseCall.extend key ownerId ttlSeconds
      let call := if ttlSeconds ≤ 0 then .release key ownerId else call
      let out := tableCall runsAt id now key call.allows (call.change (heldFor now)) s
      if out.1 ∧ ¬ Collection.Expirable now ttlSeconds then (none, s) else out.map some id
  | .release key ownerId => (redisResourceLeaseStore.release now key ownerId s).map some id

def toHeld (lease : String × ℚ) : Held := ⟨lease.1, some lease.2⟩

def leasedFor (now : ℚ) (ownerId : String) (ttlSeconds : ℤ) : String × ℚ :=
  (ownerId, now + max 1 ttlSeconds)

def unexpired (now : ℚ) (lease : String × ℚ) : Bool := decide (now < lease.2)

/-- The calls of `InMemoryResourceLeaseStore`. -/
def memoryCall (now : ℚ) (s : Dict String (String × ℚ)) :
    LeaseCall → Option Bool × Dict String (String × ℚ)
  | .acquire key ownerId ttlSeconds =>
      inMemoryResourceLeaseStore.acquire now key ownerId ttlSeconds s
  | .extend key ownerId ttlSeconds =>
      let call := LeaseCall.extend key ownerId ttlSeconds
      (tableCall unexpired toHeld now key call.allows (call.change (leasedFor now)) s).map some id
  | .release key ownerId => (inMemoryResourceLeaseStore.release now key ownerId s).map some id

section Table

variable {ε : Type} {current : ℚ → ε → Bool} {holder : ε → Held} {now : ℚ} {s : Dict String ε}
  {key ownerId : String} {held entry : ε}

theorem tableAcquire_eq (holder : ε → Held) : tableAcquire current now key entry s =
    tableCall current holder now key Option.isNone (·.insert key entry) s := by
  unfold tableAcquire tableCall
  dsimp only
  cases (settled current now s).lookup key with
  | none => rfl
  | some entry => rfl

theorem tableRelease_eq : tableRelease current holder now key ownerId s =
    tableCall current holder now key (Option.any (·.ownerId = ownerId)) (·.erase key) s := by
  unfold tableRelease tableCall
  dsimp only
  cases (settled current now s).lookup key with
  | none => rfl
  | some entry => simp

end Table

variable {now then' : ℚ} {m : Dict String (String × ℚ)} {s s' : Dict String Held} {held : Held}
  {key owner : String} {call : LeaseCall} {calls : List (ℚ × LeaseCall)} {ttlSeconds : ℤ}

theorem redisCall_of_accepted (h : call.Accepted now) : redisCall now s call =
    (tableCall runsAt id now call.key call.allows (call.change (heldFor now)) s).map some id := by
  cases call with
  | acquire key ownerId ttlSeconds =>
      rw [redisCall]
      exact (if_pos h).trans (congrArg (Prod.map some id) (tableAcquire_eq _))
  | extend key ownerId ttlSeconds =>
      simp only [redisCall, not_le.mpr h.1, h.2, not_true_eq_false, and_false, if_false]
      rfl
  | release key ownerId => exact congrArg (Prod.map some id) tableRelease_eq

theorem memoryCall_eq : memoryCall now m call =
    (tableCall unexpired toHeld now call.key call.allows (call.change (leasedFor now)) m).map some
      id := by
  cases call with
  | acquire key ownerId ttlSeconds =>
      exact congrArg (Prod.map some id) (tableAcquire_eq _)
  | extend key ownerId ttlSeconds => rfl
  | release key ownerId => exact congrArg (Prod.map some id) tableRelease_eq

/-! ### Exclusion -/

theorem lookup_tableCall (hheld : s.lookup key = some held) (hruns : runsAt now held = true)
    (hkept : call.key = key → call.allows (some held) = false) :
    (tableCall runsAt id now call.key call.allows (call.change (heldFor now)) s).2.lookup key =
      some held := by
  have hsettled : (settled runsAt now s).lookup key = some held := by
    rw [lookup_settled, hheld, Option.filter_some, if_pos hruns]
  unfold tableCall
  dsimp only
  split
  · rename_i hallows
    have hne : key ≠ call.key := by
      rintro rfl
      rw [hsettled, Option.map_some, id, hkept rfl] at hallows
      cases hallows
    cases call with
    | acquire other ownerId ttlSeconds => exact (AList.lookup_insert_ne hne).trans hsettled
    | extend other ownerId ttlSeconds => exact (AList.lookup_insert_ne hne).trans hsettled
    | release other ownerId => exact (AList.lookup_erase_ne hne).trans hsettled
  · exact hsettled

theorem lookup_redisCall (hheld : s.lookup key = some held) (hruns : runsAt now held = true)
    (hkept : call.key = key → call.allows (some held) = false) :
    (redisCall now s call).2.lookup key = some held := by
  have htable : ∀ {call : LeaseCall}, (call.key = key → call.allows (some held) = false) →
      (tableCall runsAt id now call.key call.allows (call.change (heldFor now)) s).2.lookup key =
        some held := lookup_tableCall hheld hruns
  cases call with
  | acquire other ownerId ttlSeconds =>
      change (if _ then Prod.map some id (tableAcquire runsAt now other _ s) else (none, s)).2.lookup
        key = _
      split
      · rw [tableAcquire_eq id]
        exact htable hkept
      · exact hheld
  | extend other ownerId ttlSeconds =>
      dsimp only [redisCall]
      by_cases hpassed : ttlSeconds ≤ 0
      · rw [if_pos hpassed]
        split
        · exact hheld
        · exact @htable (.release other ownerId) hkept
      · rw [if_neg hpassed]
        split
        · exact hheld
        · exact htable hkept
  | release other ownerId =>
      change (tableRelease runsAt id now other ownerId s).2.lookup key = _
      rw [tableRelease_eq]
      exact htable hkept

section Runs

variable {σ : Type} (call : ℚ → σ → LeaseCall → Option Bool × σ)

def afterCall (s : σ) (timed : ℚ × LeaseCall) : σ := (call timed.1 s timed.2).2

def answers : σ → List (ℚ × LeaseCall) → List (Option Bool)
  | _, [] => []
  | s, timed :: rest => (call timed.1 s timed.2).1 :: answers (afterCall call s timed) rest

end Runs

theorem lookup_afterCalls (hheld : s.lookup key = some held)
    (hcalls : ∀ timed ∈ calls, runsAt timed.1 held = true ∧
      (timed.2.key = key → timed.2.allows (some held) = false)) :
    (Trace.stateAfter (afterCall redisCall) s calls).lookup key = some held := by
  induction calls generalizing s with
  | nil => exact hheld
  | cons timed rest ih =>
      obtain ⟨⟨hruns, hkept⟩, hrest⟩ := List.forall_mem_cons.mp hcalls
      exact ih (lookup_redisCall hheld hruns hkept) hrest

/-! ### The store of the tests -/

/-- A lease ends at this very moment, and the call would be answered otherwise without it. -/
def MeetsEnd (s : Dict String Held) (timed : ℚ × LeaseCall) : Prop :=
  ∃ held, s.lookup timed.2.key = some held ∧ held.expiresAt = some timed.1 ∧
    timed.2.allows (some held) ≠ timed.2.allows none

def outlasts (now : ℚ) (held : Held) : Bool := held.expiresAt.all fun deadline => now < deadline

/-- The store in memory has the leases of the other one that do not end by now. -/
def Mirrors (now : ℚ) (m : Dict String (String × ℚ)) (s : Dict String Held) : Prop :=
  ∀ key, (m.lookup key).map toHeld = (s.lookup key).filter (outlasts now)

theorem Mirrors.insert {lease : String × ℚ} (h : Mirrors now m s) (hlease : now < lease.2)
    (key : String) : Mirrors now (m.insert key lease) (s.insert key (toHeld lease)) := by
  intro k
  by_cases hk : k = key
  · subst hk
    rw [AList.lookup_insert, AList.lookup_insert, Option.filter_some,
      if_pos (by simpa [outlasts, toHeld] using hlease), Option.map_some]
  · rw [AList.lookup_insert_ne hk, AList.lookup_insert_ne hk, h k]

theorem Mirrors.erase (h : Mirrors now m s) (key : String) :
    Mirrors now (m.erase key) (s.erase key) := by
  intro k
  by_cases hk : k = key
  · subst hk
    rw [AList.lookup_erase, AList.lookup_erase]
    rfl
  · rw [AList.lookup_erase_ne hk, AList.lookup_erase_ne hk, h k]

theorem Mirrors.change (h : Mirrors now m s) (haccepted : call.Accepted now) :
    Mirrors now (call.change (leasedFor now) m) (call.change (heldFor now) s) := by
  have hinsert : ∀ {ttlSeconds : ℤ}, 0 < ttlSeconds → ∀ key ownerId,
      Mirrors now (m.insert key (leasedFor now ownerId ttlSeconds))
        (s.insert key (heldFor now ownerId ttlSeconds)) := by
    intro ttlSeconds hpos key ownerId
    have hlease : leasedFor now ownerId ttlSeconds = (ownerId, now + ttlSeconds) := by
      rw [leasedFor, max_eq_right (by omega)]
    rw [hlease]
    exact h.insert (lt_add_of_pos_right now (Int.cast_pos.mpr hpos)) key
  cases call with
  | acquire key ownerId ttlSeconds => exact hinsert haccepted.1 key ownerId
  | extend key ownerId ttlSeconds => exact hinsert haccepted.1 key ownerId
  | release key ownerId => exact h.erase key

theorem lookup_unexpired (h : Mirrors then' m s) (hnow : then' ≤ now) (key : String) :
    ((settled unexpired now m).lookup key).map toHeld = (s.lookup key).filter (outlasts now) := by
  have hlater : (fun held => outlasts then' held && outlasts now held) = outlasts now := by
    funext held
    cases hends : held.expiresAt with
    | none => simp [outlasts, hends]
    | some deadline => simpa [outlasts, hends] using fun h => hnow.trans_lt h
  rw [← hlater, ← Option.filter_filter, ← h key, lookup_settled, Option.filter_map]
  rfl

theorem mirrors_settled (h : Mirrors then' m s) (hnow : then' ≤ now) :
    Mirrors now (settled unexpired now m) (settled runsAt now s) := by
  intro key
  rw [lookup_unexpired h hnow, lookup_settled, Option.filter_filter]
  refine congrArg (s.lookup key).filter (funext fun held => ?_)
  cases hends : held.expiresAt with
  | none => simp [outlasts, runsAt, hends]
  | some deadline => simpa [outlasts, runsAt, hends] using le_of_lt

theorem meetsEnd_iff : MeetsEnd s (now, call) ↔
    call.allows ((s.lookup call.key).filter (outlasts now)) ≠
      call.allows ((s.lookup call.key).filter (runsAt now)) := by
  unfold MeetsEnd
  dsimp only
  cases s.lookup call.key with
  | none => simp
  | some held =>
      by_cases hends : held.expiresAt = some now
      · have hout : outlasts now held = false := by simp [outlasts, hends]
        have hruns : runsAt now held = true := by simp [runsAt, hends]
        simp [hends, Option.filter_some, hout, hruns, eq_comm]
      · have hsame : outlasts now held = runsAt now held := by
          cases hdeadline : held.expiresAt with
          | none => simp [outlasts, runsAt, hdeadline]
          | some deadline =>
              have hne : deadline ≠ now := fun heq => hends (by rw [hdeadline, heq])
              rcases hne.lt_or_gt with hlt | hlt
              · simp [outlasts, runsAt, hdeadline, hlt, hlt.not_gt]
              · simp [outlasts, runsAt, hdeadline, hlt, hlt.not_gt]
        simp [hends, Option.filter_some, hsame]

/-- A call has one answer of both stores exactly where it does not meet the end of a lease. -/
theorem call_agrees (h : Mirrors then' m s) (hnow : then' ≤ now) (haccepted : call.Accepted now) :
    ((memoryCall now m call).1 = (redisCall now s call).1 ↔ ¬ MeetsEnd s (now, call)) ∧
      (¬ MeetsEnd s (now, call) →
        Mirrors now (memoryCall now m call).2 (redisCall now s call).2) := by
  have hsettled := mirrors_settled h hnow
  have hserver : (settled runsAt now s).lookup call.key =
      (s.lookup call.key).filter (runsAt now) := lookup_settled
  rw [memoryCall_eq, redisCall_of_accepted haccepted, meetsEnd_iff, not_ne_iff, tableCall, tableCall,
    lookup_unexpired h hnow, hserver, Option.map_id, id]
  cases call.allows ((s.lookup call.key).filter (outlasts now)) with
  | false =>
      cases call.allows ((s.lookup call.key).filter (runsAt now)) with
      | false => exact ⟨by simp, fun _ => hsettled⟩
      | true => simp
  | true =>
      cases call.allows ((s.lookup call.key).filter (runsAt now)) with
      | false => simp
      | true => exact ⟨by simp, fun _ => hsettled.change haccepted⟩

theorem answers_eq_iff (h : Mirrors then' m s) (hlater : ∀ timed ∈ calls, then' ≤ timed.1)
    (hsorted : (calls.map Prod.fst).Pairwise (· ≤ ·))
    (hcalls : ∀ timed ∈ calls, timed.2.Accepted timed.1) :
    answers memoryCall m calls = answers redisCall s calls ↔
      Trace.Along (afterCall redisCall) (fun s timed => ¬ MeetsEnd s timed) s calls := by
  induction calls generalizing then' m s with
  | nil => exact iff_of_true rfl trivial
  | cons timed rest ih =>
      obtain ⟨hfirst, hrest⟩ := List.forall_mem_cons.mp hcalls
      obtain ⟨hle, hsorted⟩ := List.pairwise_cons.mp hsorted
      obtain ⟨hanswer, hnext⟩ := call_agrees h (hlater timed List.mem_cons_self) hfirst
      rw [answers, answers, List.cons.injEq, hanswer, Trace.Along]
      exact and_congr_right fun hends => ih (hnext hends)
        (fun other hother => hle other.1 (List.mem_map_of_mem hother)) hsorted hrest

/-- The store of the tests gives the answers of the one on the server, to calls in their order and
with ttls that the server takes, exactly where no call meets the end of a lease. -/
theorem lease_stores_agree_iff (hsorted : (calls.map Prod.fst).Pairwise (· ≤ ·))
    (hcalls : ∀ timed ∈ calls, timed.2.Accepted timed.1) :
    answers memoryCall ∅ calls = answers redisCall ∅ calls ↔
      Trace.Along (afterCall redisCall) (fun s timed => ¬ MeetsEnd s timed) ∅ calls := by
  cases calls with
  | nil => exact iff_of_true rfl trivial
  | cons timed rest =>
      have hempty : Mirrors timed.1 ∅ ∅ := fun _ => rfl
      refine answers_eq_iff hempty (List.forall_mem_cons.mpr ⟨le_refl timed.1, fun other hother => ?_⟩)
        hsorted hcalls
      exact (List.pairwise_cons.mp hsorted).1 other.1 (List.mem_map_of_mem hother)

/-- At its end a lease is free in memory, and held on the server. -/
theorem lease_stores_differ :
    answers memoryCall ∅ [(0, .acquire "gpu" "a" 10), (10, .acquire "gpu" "b" 10)] ≠
      answers redisCall ∅ [(0, .acquire "gpu" "a" 10), (10, .acquire "gpu" "b" 10)] := by
  have haccepted : ∀ timed ∈ [((0 : ℚ), LeaseCall.acquire "gpu" "a" 10),
      (10, .acquire "gpu" "b" 10)], timed.2.Accepted timed.1 := by
    simp only [List.forall_mem_cons, LeaseCall.Accepted, Collection.Expirable]
    norm_num
  intro heq
  refine ((lease_stores_agree_iff (by simp) haccepted).mp heq).2.1 ⟨heldFor 0 "a" 10, ?_, ?_, nofun⟩
  · rw [afterCall, redisCall_of_accepted (haccepted _ List.mem_cons_self)]
    rfl
  · norm_num [heldFor]

end MindscapeLocalCore.RunnerResources.LeaseRuns
