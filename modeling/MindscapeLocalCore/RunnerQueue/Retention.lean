import MindscapeLocalCore.RunnerQueue.Membership
/-!
Whether an enqueued task stays in the structures of the queue: it does, unless a
reconciliation across two shards takes its only entry before it writes the new one.
-/

namespace MindscapeLocalCore.RunnerQueue.Retention

open Library.PythonText Library.Trace QueueStore Runs TransportRepair RunnerQueue.Membership

variable {s : System} {event : Event} {taskId : String}

section

-- unification must not evaluate the normalization of an id
attribute [local irreducible] strip

/-- The event acknowledges the task, or is a step of a reconciliation of the task
without re-enqueueing. -/
def Removes (taskId : String) (s : System) : Event → Prop
  | .start _ _ (.ackTask _ acked) => acked = taskId
  | .start _ _ (.reconcileTransportMembership _ reconciled _ false) => strip reconciled = taskId
  | .start _ _ _ => False
  | .resume process _ =>
      match s.processes process with
      | .reconciling _ reconciled false => strip reconciled = taskId
      | _ => False

/-- A reconciliation that re-enqueues the task on another shard finds the task also
outside the lists and sets that its first step clears. -/
def FoundBeyond (taskId : String) (s : System) : Event → Prop
  | .start _ _ (.reconcileTransportMembership packId reconciled queueShard true) =>
      strip reconciled = taskId → taskId ≠ "" →
        resolveTransportQueueStore packId queueShard ≠ packId → HeldBeyond packId s.queues taskId
  | _ => True

theorem held_firstStep {now : ℚ} {process : ℕ} {operation : Operation}
    (h : Held s.queues taskId) (hkept : ¬ Removes taskId s (.start process now operation)) :
    Held (firstStep now s.queues operation).2 taskId ↔
      FoundBeyond taskId s (.start process now operation) := by
  cases operation with
  | enqueueTask packId id => exact iff_of_true (held_enqueueTask h) trivial
  | dequeueTask packId seconds =>
      refine iff_of_true ?_ trivial
      simp only [firstStep]
      split
      · exact h
      · rename_i hmove
        split
        · exact held_moveToTemp h hmove
        · exact held_moveToTemp h hmove
  | promotePendingTaskById packId id seconds =>
      exact iff_of_true (held_promotePendingTaskById h) trivial
  | reroutePendingTask packId id sources => exact iff_of_true (held_reroutePendingTask h) trivial
  | touchVisibilityTimeout packId id seconds =>
      exact iff_of_true (held_touchVisibilityTimeout h) trivial
  | nackTaskToDelayed packId id seconds => exact iff_of_true (held_nackTaskToDelayed h) trivial
  | moveToDeadletter packId id => exact iff_of_true (held_moveToDeadletter h) trivial
  | ackTask packId id =>
      have hne : id ≠ taskId := hkept
      exact iff_of_true (held_ackTask h hne.symm) trivial
  | reconcileTransportMembership packId id queueShard reenqueuePending =>
      cases reenqueuePending with
      | false =>
          have hne : strip id ≠ taskId := hkept
          have hheld : Held (reconcileMembership packId id false s.queues) taskId :=
            held_reconcileMembership_of_ne h hne.symm
          refine iff_of_true ?_ trivial
          simp only [firstStep]
          split
          · exact hheld
          · exact hheld
      | true =>
          by_cases hsame : resolveTransportQueueStore packId queueShard = packId
          · simp only [firstStep, FoundBeyond, if_pos hsame]
            exact iff_of_true (held_reconcileMembership_true h) fun _ _ hcross =>
              absurd hsame hcross
          · simp only [firstStep, FoundBeyond, if_neg hsame]
            by_cases hid : strip id = taskId
            · subst hid
              by_cases hblank : strip id = ""
              · refine iff_of_true ?_ fun _ hne => absurd hblank hne
                rw [reconcileMembership, if_pos hblank]
                exact h
              · rw [held_reconcileMembership_false_iff hblank]
                exact ⟨fun hbeyond _ _ _ => hbeyond, fun hbeyond => hbeyond rfl hblank hsame⟩
            · exact iff_of_true (held_reconcileMembership_of_ne h (Ne.symm hid))
                fun heq => absurd heq hid

theorem held_secondStep {now : ℚ} {process : ℕ} (h : Held s.queues taskId)
    (hkept : ¬ Removes taskId s (.resume process now)) :
    Held (secondStep now s.queues (s.processes process)) taskId := by
  simp only [Removes] at hkept
  cases hprocess : s.processes process with
  | idle => exact h
  | dequeued packId id seconds => exact held_moveToProcessing h
  | reconciling target id reenqueuePending =>
      rw [hprocess] at hkept
      cases reenqueuePending with
      | true => exact held_reconcileMembership_true h
      | false => exact held_reconcileMembership_of_ne h (Ne.symm hkept)

theorem held_next (h : Held s.queues taskId) (hkept : ¬ Removes taskId s event) :
    Held (next s event).queues taskId ↔ FoundBeyond taskId s event := by
  cases event with
  | start process now operation => exact held_firstStep h hkept
  | resume process now => exact iff_of_true (held_secondStep h hkept) trivial

/-! ### The last step of an operation -/

/-- The state right after the last step of an operation, with the events that the other
processes execute between its steps. -/
def completed (s : System) (process : ℕ) (now later : ℚ) (operation : Operation)
    (others : List Event) : System :=
  let started := next s (.start process now operation)
  match started.processes process with
  | .idle => started
  | _ => next (stateAfter next started others) (.resume process later)

theorem processes_stateAfter_of_ne {process : ℕ} {others : List Event}
    (hothers : ∀ event ∈ others, event.process ≠ process) :
    (stateAfter next s others).processes process = s.processes process := by
  induction others generalizing s with
  | nil => rfl
  | cons event rest ih =>
      rw [stateAfter_cons, ih fun other hmem => hothers other (List.mem_cons_of_mem _ hmem)]
      exact processes_next_of_ne (hothers event List.mem_cons_self)

theorem completed_of_idle {process : ℕ} {now later : ℚ} {operation : Operation}
    {others : List Event}
    (hidle : (next s (.start process now operation)).processes process = .idle) :
    completed s process now later operation others = next s (.start process now operation) := by
  simp only [completed, hidle]

theorem queues_completed_of_reconciling {process : ℕ} {now later : ℚ} {operation : Operation}
    {others : List Event} {target : String} {reenqueuePending : Bool}
    (hleft : (next s (.start process now operation)).processes process =
      .reconciling target taskId reenqueuePending)
    (hothers : ∀ event ∈ others, event.process ≠ process) :
    (completed s process now later operation others).queues =
      reconcileMembership target taskId reenqueuePending
        (stateAfter next (next s (.start process now operation)) others).queues := by
  have hresume := (@processes_stateAfter_of_ne
    (next s (.start process now operation)) process others hothers).trans hleft
  simp only [completed, hleft]
  change secondStep later _
    ((stateAfter next (next s (.start process now operation)) others).processes process) = _
  rw [hresume]
  rfl

theorem count_completed {process : ℕ} {now later : ℚ} {packId : String}
    {queueShard : Option String} {others : List Event}
    (hothers : ∀ event ∈ others, event.process ≠ process) (hid : strip taskId = taskId)
    (hblank : taskId ≠ "") :
    ((completed s process now later
        (.reconcileTransportMembership packId taskId queueShard true) others).queues
      (resolveTransportQueueStore packId queueShard)).pending.count taskId = 1 := by
  have hcount : ∀ (target : String) (queues : Queues),
      (reconcileMembership target taskId true queues target).pending.count taskId = 1 := by
    intro target queues
    have hcount := @count_reconcileMembership queues target taskId (by rwa [hid])
    rwa [hid] at hcount
  by_cases hsame : resolveTransportQueueStore packId queueShard = packId
  · have hfirst : firstStep now s.queues
        (.reconcileTransportMembership packId taskId queueShard true) =
        (.idle, reconcileMembership packId taskId true s.queues) := by
      simp only [firstStep, if_pos hsame]
    have hidle : (next s (.start process now
        (.reconcileTransportMembership packId taskId queueShard true))).processes process =
        .idle := by
      rw [next, hfirst]
      exact Function.update_self ..
    rw [completed_of_idle hidle, next, hfirst, hsame]
    exact hcount packId s.queues
  · have hleft : (next s (.start process now
        (.reconcileTransportMembership packId taskId queueShard true))).processes process =
        .reconciling (resolveTransportQueueStore packId queueShard) taskId true := by
      rw [next, firstStep]
      simp only [if_neg hsame]
      exact Function.update_self ..
    rw [queues_completed_of_reconciling hleft hothers]
    exact hcount _ _

/-- An enqueued task that is neither acknowledged nor reconciled without re-enqueueing is
in some structure at every moment exactly when each reconciliation that re-enqueues it on
another shard finds it also elsewhere. Recycling a runnable task leaves it once in the
pending list of its shard. -/
theorem enqueued_tasks_are_kept (s : System) (process : ℕ) (now : ℚ) (packId taskId : String)
    (events : List Event)
    (hkept : Along next (fun s event => ¬ Removes taskId s event)
      (next s (.start process now (.enqueueTask packId taskId))) events) :
    ((∀ before rest, events = before ++ rest →
        Held (stateAfter next (next s (.start process now (.enqueueTask packId taskId)))
          before).queues taskId) ↔
      Along next (FoundBeyond taskId)
        (next s (.start process now (.enqueueTask packId taskId))) events) ∧
      ∀ later task staleLimit heartbeatAt others,
        recycling (some task) staleLimit heartbeatAt = .requeued →
          (∀ event ∈ others, event.process ≠ process) →
            strip task.id = task.id → task.id ≠ "" →
              ((completed s process now later
                  (transportOperation packId task.id (some task)
                    (recycling (some task) staleLimit heartbeatAt)) others).queues
                (resolveTransportQueueStore packId (some task.queueShard))).pending.count
                  task.id = 1 := by
  constructor
  · have hstart : Held (next s (.start process now (.enqueueTask packId taskId))).queues
        taskId := held_enqueueTask_self
    exact @holds_throughout_iff _ _ next _ (FoundBeyond taskId)
      (fun s => Held s.queues taskId) _ _ hstart (fun _ _ hheld => held_next hheld) hkept
  · intro later task staleLimit heartbeatAt others hrequeued hothers hid hblank
    rw [hrequeued]
    change ((completed s process now later (.reconcileTransportMembership packId task.id
      (some task.queueShard) true) others).queues _).pending.count task.id = 1
    exact count_completed hothers hid hblank

end

/-! ### Recycling a task across two shards -/

def abandoned (queueShard : String) : Task where
  id := "task"
  status := .running
  queueShard := queueShard
  blockedReason := none
  frontierState := "running"
  createdAt := 0
  startedAt := some 0

def abandonedRun (queueShard : String) : List Event :=
  [.start 1 1 (.dequeueTask "browser" 180), .resume 1 1,
    .start 2 200 (transportOperation "browser" "task" (some (abandoned queueShard))
      (recycling (some (abandoned queueShard)) 20 none))]

def enqueued : System := next .initial (.start 0 0 (.enqueueTask "browser" "task"))

theorem abandonedRun_kept (queueShard : String) :
    Along next (fun s event => ¬ Removes "task" s event) enqueued (abandonedRun queueShard) :=
  ⟨not_false, not_false, not_false, trivial⟩

theorem strip_task : strip "task" = "task" := by decide

theorem recycled_task_is_kept :
    Held (stateAfter next enqueued (abandonedRun "browser")).queues "task" ∧
      ((completed .initial 2 200 200 (transportOperation "browser" "task"
          (some (abandoned "vision")) (recycling (some (abandoned "vision")) 20 none))
        [.resume 1 1]).queues "vision").pending.count "task" = 1 := by
  constructor
  · apply (enqueued_tasks_are_kept .initial 0 0 "browser" "task" (abandonedRun "browser")
      (abandonedRun_kept "browser")).1.mpr ⟨trivial, trivial, ?_, trivial⟩ _ [] rfl
    exact fun _ _ hcross => absurd (by decide) hcross
  · exact (enqueued_tasks_are_kept .initial 2 200 "browser" "task" [] trivial).2 200
      (abandoned "vision") 20 none [.resume 1 1] (by decide) (by decide) strip_task (by decide)

/-- Between the two steps of the reaper the task is on no shard. -/
theorem recycled_task_lost :
    ∃ events, Along next (fun s event => ¬ Removes "task" s event) enqueued events ∧
      recycling (some (abandoned "vision")) 20 none = .requeued ∧
      ¬ Held (stateAfter next enqueued events).queues "task" := by
  refine ⟨abandonedRun "vision", abandonedRun_kept "vision", rfl, ?_⟩
  rintro ⟨shard, hholds⟩
  by_cases hbrowser : shard = "browser"
  · subst hbrowser
    exact absurd hholds (by decide)
  · have hempty : (stateAfter next enqueued (abandonedRun "vision")).queues shard = .empty := by
      have hqueues : (stateAfter next enqueued (abandonedRun "vision")).queues =
          reconcileMembership "browser" "task" false (moveToProcessing "browser" "task" (1 + 180)
            (onShard "browser" (fun q => { q with pending := [], temp := ["task"] })
              (enqueueTask "browser" "task" fun _ => .empty))) := rfl
      rw [hqueues, reconcileMembership, if_neg (by decide), onShard_of_ne hbrowser,
        moveToProcessing, onShard_of_ne hbrowser, onShard_of_ne hbrowser, enqueueTask,
        onShard_of_ne hbrowser]
    rw [hempty] at hholds
    exact absurd hholds (by decide)

end MindscapeLocalCore.RunnerQueue.Retention
