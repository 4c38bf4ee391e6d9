import Mathlib.Tactic.NormNum
import MindscapeLocalCore.RunnerQueue.Membership
/-!
How a task id comes into the processing set of a shard. Dequeueing and promoting take it
from the pending list; a touch adds it as well.
-/

namespace MindscapeLocalCore.RunnerQueue.Leases

open Library.PythonText Library.Trace QueueStore Runs TransportRepair RunnerQueue.Membership

variable {queues queues' : Queues} {packId shard taskId id item : String}
  {f : ShardQueues → ShardQueues} {deadline now : ℚ} {s : System} {event : Event}
  {events before : List Event}

def InProcessing (queues : Queues) (packId taskId : String) : Prop :=
  ((queues packId).processing.get taskId).isSome

instance (queues : Queues) (packId taskId : String) :
    Decidable (InProcessing queues packId taskId) := inferInstanceAs (Decidable (_ = true))

section

-- unification must not evaluate the normalization of an id
attribute [local irreducible] strip

/-! ### What a step adds to the processing sets -/

theorem inProcessing_onShard (h : InProcessing (onShard packId f queues) shard id)
    (hf : ((f (queues packId)).processing.get id).isSome →
      ((queues packId).processing.get id).isSome) : InProcessing queues shard id := by
  rw [InProcessing] at h ⊢
  by_cases hshard : shard = packId
  · subst hshard
    rw [onShard_self] at h
    exact hf h
  · rwa [onShard_of_ne hshard] at h

theorem inProcessing_put (h : InProcessing (onShard packId f queues) shard id)
    (hf : (f (queues packId)).processing = (queues packId).processing.put taskId deadline) :
    InProcessing queues shard id ∨ shard = packId ∧ id = taskId := by
  by_cases hshard : shard = packId
  · subst hshard
    rw [InProcessing, onShard_self, hf] at h
    rcases isSome_put.mp h with heq | hmem
    · exact .inr ⟨rfl, heq⟩
    · exact .inl hmem
  · rw [InProcessing, onShard_of_ne hshard] at h
    exact .inl h

theorem inProcessing_removePending {shards : List String}
    (h : InProcessing (removePending taskId shards queues).1 shard id) :
    InProcessing queues shard id := by
  induction shards generalizing queues with
  | nil => exact h
  | cons first rest ih => exact inProcessing_onShard (ih h) fun hmem => hmem

theorem inProcessing_reroutePendingTask {sources : List String}
    (h : InProcessing (reroutePendingTask packId taskId sources queues).2 shard id) :
    InProcessing queues shard id := by
  rw [reroutePendingTask] at h
  split at h
  · exact h
  · simp only [reroutePending] at h
    split at h
    · exact inProcessing_removePending h
    · exact inProcessing_removePending (inProcessing_onShard h fun hmem => hmem)

theorem inProcessing_promotePendingTaskById
    (h : InProcessing (promotePendingTaskById packId taskId deadline queues).2 shard id) :
    InProcessing queues shard id ∨
      packId = shard ∧ strip taskId = id ∧ id ∈ (queues shard).pending := by
  rw [promotePendingTaskById] at h
  split at h
  · exact .inl h
  · simp only [removePendingAndProcess] at h
    split at h
    · rename_i hmem
      rcases inProcessing_put h rfl with hbefore | ⟨rfl, rfl⟩
      · exact .inl hbefore
      · exact .inr ⟨rfl, rfl, hmem⟩
    · exact .inl h

theorem inProcessing_reconcileMembership {reenqueuePending : Bool}
    (h : InProcessing (reconcileMembership packId taskId reenqueuePending queues) shard id) :
    InProcessing queues shard id := by
  rw [reconcileMembership] at h
  split at h
  · exact h
  · exact inProcessing_onShard h fun hmem => (isSome_del.mp hmem).2

theorem inProcessing_moveToTemp (hmove : moveToTemp packId queues = some (item, queues'))
    (h : InProcessing queues' shard id) : InProcessing queues shard id := by
  obtain ⟨⟨moved, pending, temp⟩, -, heq⟩ := Option.map_eq_some_iff.mp hmove
  obtain ⟨rfl, rfl⟩ := Prod.mk.inj heq
  exact inProcessing_onShard h fun hmem => hmem

theorem getLast?_of_moveToTemp (hmove : moveToTemp packId queues = some (item, queues')) :
    (queues packId).pending.getLast? = some item := by
  obtain ⟨⟨moved, pending, temp⟩, hlmove, heq⟩ := Option.map_eq_some_iff.mp hmove
  obtain ⟨rfl, rfl⟩ := Prod.mk.inj heq
  obtain ⟨last, hlast, hmoved⟩ := Option.map_eq_some_iff.mp hlmove
  obtain ⟨rfl, -⟩ := Prod.mk.inj hmoved
  exact hlast

inductive Adds (s : System) (packId taskId : String) : Event → Prop
  | dequeued {process now visibilityTimeoutSec}
      (hprocess : s.processes process = .dequeued packId taskId visibilityTimeoutSec) :
      Adds s packId taskId (.resume process now)
  | promoted {process now raw visibilityTimeoutSec} (hraw : strip raw = taskId)
      (hmem : taskId ∈ (s.queues packId).pending) :
      Adds s packId taskId
        (.start process now (.promotePendingTaskById packId raw visibilityTimeoutSec))
  | touched {process now addedTimeSec} :
      Adds s packId taskId
        (.start process now (.touchVisibilityTimeout packId taskId addedTimeSec))

theorem adds_of_inProcessing_next (h : InProcessing (next s event).queues packId taskId) :
    InProcessing s.queues packId taskId ∨ Adds s packId taskId event := by
  cases event with
  | resume process now =>
      change InProcessing (secondStep now s.queues (s.processes process)) packId taskId at h
      cases hprocess : s.processes process with
      | idle =>
          rw [hprocess] at h
          exact .inl h
      | dequeued shard id seconds =>
          rw [hprocess] at h
          rcases inProcessing_put h rfl with hbefore | ⟨rfl, rfl⟩
          · exact .inl hbefore
          · exact .inr (.dequeued hprocess)
      | reconciling target id reenqueuePending =>
          rw [hprocess] at h
          exact .inl (inProcessing_reconcileMembership h)
  | start process now operation =>
      change InProcessing (firstStep now s.queues operation).2 packId taskId at h
      cases operation with
      | enqueueTask shard id => exact .inl (inProcessing_onShard h fun hmem => hmem)
      | dequeueTask shard seconds =>
          simp only [firstStep] at h
          split at h
          · exact .inl h
          · rename_i hmove
            split at h
            · exact .inl (inProcessing_moveToTemp hmove h)
            · exact .inl (inProcessing_moveToTemp hmove h)
      | promotePendingTaskById shard id seconds =>
          rcases inProcessing_promotePendingTaskById h with hbefore | ⟨rfl, hraw, hmem⟩
          · exact .inl hbefore
          · exact .inr (.promoted hraw hmem)
      | reroutePendingTask shard id sources => exact .inl (inProcessing_reroutePendingTask h)
      | touchVisibilityTimeout shard id seconds =>
          rcases inProcessing_put h rfl with hbefore | ⟨rfl, rfl⟩
          · exact .inl hbefore
          · exact .inr .touched
      | nackTaskToDelayed shard id seconds =>
          exact .inl (inProcessing_onShard h fun hmem => (isSome_del.mp hmem).2)
      | moveToDeadletter shard id =>
          exact .inl (inProcessing_onShard h fun hmem => (isSome_del.mp hmem).2)
      | ackTask shard id =>
          exact .inl (inProcessing_onShard h fun hmem => (isSome_del.mp hmem).2)
      | reconcileTransportMembership shard id queueShard reenqueuePending =>
          simp only [firstStep] at h
          split at h
          · exact .inl (inProcessing_reconcileMembership h)
          · exact .inl (inProcessing_reconcileMembership h)

theorem start_of_dequeued {process : ℕ} {visibilityTimeoutSec : ℤ}
    (hprocess : event.process = process)
    (h : (next s event).processes process = .dequeued packId taskId visibilityTimeoutSec) :
    ∃ now seconds, event = .start process now (.dequeueTask packId seconds) ∧
      (s.queues packId).pending.getLast? = some taskId := by
  cases event with
  | resume other now =>
      obtain rfl : other = process := hprocess
      have hidle : (next s (.resume other now)).processes other = .idle :=
        Function.update_self ..
      exact Process.noConfusion (hidle.symm.trans h)
  | start other now operation =>
      obtain rfl : other = process := hprocess
      have hself : (next s (.start other now operation)).processes other =
          (firstStep now s.queues operation).1 := Function.update_self ..
      have hleft := hself.symm.trans h
      cases operation with
      | dequeueTask shard seconds =>
          simp only [firstStep] at hleft
          split at hleft
          · exact Process.noConfusion hleft
          · rename_i item queues hmove
            split at hleft
            · exact Process.noConfusion hleft
            · obtain ⟨rfl, rfl, rfl⟩ := Process.dequeued.inj hleft
              exact ⟨now, seconds, rfl, getLast?_of_moveToTemp hmove⟩
      | reconcileTransportMembership shard id queueShard reenqueuePending =>
          simp only [firstStep] at hleft
          split at hleft
          · exact Process.noConfusion hleft
          · exact Process.noConfusion hleft
      | enqueueTask shard id => exact Process.noConfusion hleft
      | promotePendingTaskById shard id seconds => exact Process.noConfusion hleft
      | reroutePendingTask shard id sources => exact Process.noConfusion hleft
      | touchVisibilityTimeout shard id seconds => exact Process.noConfusion hleft
      | nackTaskToDelayed shard id seconds => exact Process.noConfusion hleft
      | moveToDeadletter shard id => exact Process.noConfusion hleft
      | ackTask shard id => exact Process.noConfusion hleft

theorem inProcessing_touch {process : ℕ} {addedTimeSec : ℤ} :
    InProcessing (next s (.start process now
      (.touchVisibilityTimeout packId taskId addedTimeSec))).queues packId taskId := by
  change ((touchVisibilityTimeout packId taskId _ s.queues packId).processing.get _).isSome
  rw [touchVisibilityTimeout, onShard_self]
  exact isSome_put.mpr (.inl rfl)

end

/-! ### Runs -/

def after (events : List Event) : System := stateAfter next .initial events

def TakesPending (packId taskId : String) (before : List Event) : Event → Prop
  | .resume process _ =>
      ∃ early now visibilityTimeoutSec mid,
        before = early ++ .start process now (.dequeueTask packId visibilityTimeoutSec) :: mid ∧
          (∀ event ∈ mid, event.process ≠ process) ∧
          ((after early).queues packId).pending.getLast? = some taskId
  | .start _ _ (.promotePendingTaskById promoted raw _) =>
      promoted = packId ∧ strip raw = taskId ∧
        taskId ∈ ((after before).queues packId).pending
  | _ => False

def WasProcessing (packId taskId : String) (before : List Event) : Prop :=
  ∃ early later, before = early ++ later ∧ InProcessing (after early).queues packId taskId

def ReentersFromPending (packId taskId : String) (events : List Event) : Prop :=
  ∀ before event rest, events = before ++ event :: rest → WasProcessing packId taskId before →
    ¬ InProcessing (after before).queues packId taskId →
      InProcessing (after (before ++ [event])).queues packId taskId →
        TakesPending packId taskId before event

def TouchesFind (packId taskId : String) (events : List Event) : Prop :=
  ∀ before process now addedTimeSec rest,
    events = before ++
        .start process now (.touchVisibilityTimeout packId taskId addedTimeSec) :: rest →
      WasProcessing packId taskId before → InProcessing (after before).queues packId taskId

theorem taken_of_dequeued {process : ℕ} {visibilityTimeoutSec : ℤ}
    (h : (after before).processes process = .dequeued packId taskId visibilityTimeoutSec) :
    TakesPending packId taskId before (.resume process now) := by
  induction before using List.reverseRecOn with
  | nil => exact Process.noConfusion h
  | append_singleton before event ih =>
      rw [after, stateAfter_append_singleton] at h
      by_cases hprocess : event.process = process
      · obtain ⟨earlier, seconds, rfl, hlast⟩ := start_of_dequeued hprocess h
        exact ⟨before, earlier, seconds, [], rfl, fun _ hmem => absurd hmem List.not_mem_nil,
          hlast⟩
      · rw [processes_next_of_ne hprocess] at h
        obtain ⟨early, earlier, seconds, mid, rfl, hmid, hlast⟩ := ih h
        refine ⟨early, earlier, seconds, mid ++ [event], by simp, ?_, hlast⟩
        intro other hmem
        rcases List.mem_append.mp hmem with hmem | hmem
        · exact hmid other hmem
        · rwa [List.mem_singleton.mp hmem]

/-- The condition is exact: a touch that does not find the task adds it. -/
theorem finished_deliveries_stay_finished (packId taskId : String) (events : List Event) :
    ReentersFromPending packId taskId events ↔ TouchesFind packId taskId events := by
  constructor
  · intro hreenters before process now addedTimeSec rest hsplit hwas
    by_contra habsent
    have hadded : InProcessing (after (before ++ [.start process now
        (.touchVisibilityTimeout packId taskId addedTimeSec)])).queues packId taskId := by
      rw [after, stateAfter_append_singleton]
      exact inProcessing_touch
    exact hreenters before _ rest hsplit hwas habsent hadded
  · intro hfind before event rest hsplit hwas habsent hpresent
    rw [after, stateAfter_append_singleton] at hpresent
    rcases adds_of_inProcessing_next hpresent with hbefore | hadds
    · exact absurd hbefore habsent
    · cases hadds with
      | dequeued hprocess => exact taken_of_dequeued hprocess
      | promoted hraw hmem => exact ⟨rfl, hraw, hmem⟩
      | touched => exact absurd (hfind before _ _ _ rest hsplit hwas) habsent

/-! ### A touch after the acknowledgement -/

/-- The reaper reads the task while its runner works on it. -/
def claimed : Task where
  id := "task"
  status := .running
  queueShard := "browser"
  blockedReason := none
  frontierState := "running"
  createdAt := 0
  startedAt := some 1

theorem claimed_fresh : recycling (some claimed) 0 (some 4) = .touchedFresh := by
  have hfresh : heartbeatIsFresh (some 4) 0 = true := by norm_num [heartbeatIsFresh]
  rw [recycling, hfresh]
  rfl

def finishedRun : List Event :=
  [.start 0 0 (.enqueueTask "browser" "task"), .start 1 1 (.dequeueTask "browser" 180),
    .resume 1 1, .start 1 5 (.ackTask "browser" "task")]

/-- The touch of the reaper puts the finished task in the processing set again. -/
theorem finished_delivery_touched :
    ∃ events process now,
      ¬ ReentersFromPending "browser" "task" (events ++ [.start process now
        (transportOperation "browser" "task" (some claimed)
          (recycling (some claimed) 0 (some 4)))]) := by
  refine ⟨finishedRun, 2, 6, ?_⟩
  rw [claimed_fresh]
  intro hreenters
  have hwas : WasProcessing "browser" "task" finishedRun :=
    ⟨finishedRun.take 3, finishedRun.drop 3, rfl, rfl⟩
  have habsent : ¬ InProcessing (after finishedRun).queues "browser" "task" := by decide
  exact hreenters finishedRun _ [] rfl hwas habsent rfl

end MindscapeLocalCore.RunnerQueue.Leases
