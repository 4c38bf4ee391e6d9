import MindscapeLocalCore.Library.PythonText
import MindscapeLocalCore.Library.Redis
import MindscapeLocalCore.Library.Trace

/-!
The Redis queue of the task runner. Each function here is one atomic step: a single
command, a pipeline, which the client sends as a transaction, or a script.
-/

namespace MindscapeLocalCore.RunnerQueue.QueueStore

open Library.PythonText Library.Redis Library.RedisList

/-- The keys of one pack id: three lists and two sorted sets. -/
structure ShardQueues where
  pending : List String
  processing : Collection ℚ
  delayed : Collection ℚ
  deadletter : List String
  temp : List String

abbrev Queues := String → ShardQueues

def ShardQueues.empty : ShardQueues := ⟨[], .missing, .missing, [], []⟩

def onShard (packId : String) (f : ShardQueues → ShardQueues) (queues : Queues) : Queues :=
  Function.update queues packId (f (queues packId))

/-! ### Queue methods -/

/-- `enqueue_task`, also its synchronous form. -/
def enqueueTask (packId taskId : String) : Queues → Queues :=
  onShard packId fun q => { q with pending := lpush taskId q.pending }

/-- The move of `dequeue_task_blocking` and `dequeue_task_nowait` to the temp list. -/
def moveToTemp (packId : String) (queues : Queues) : Option (String × Queues) :=
  (lmove (queues packId).pending (queues packId).temp).map fun (item, pending, temp) =>
    (item, onShard packId (fun q => { q with pending := pending, temp := temp }) queues)

def moveToProcessing (packId taskId : String) (deadline : ℚ) : Queues → Queues :=
  onShard packId fun q =>
    { q with
      processing := q.processing.put taskId deadline
      temp := lremFirst taskId q.temp }

/-- `LUA_REMOVE_PENDING_AND_PROCESS`. -/
def removePendingAndProcess (packId taskId : String) (deadline : ℚ) (queues : Queues) :
    Bool × Queues :=
  if taskId ∈ (queues packId).pending then
    (true, onShard packId (fun q =>
      { q with
        pending := lremFirst taskId q.pending
        processing := q.processing.put taskId deadline }) queues)
  else (false, queues)

def promotePendingTaskById (packId taskId : String) (deadline : ℚ) (queues : Queues) :
    Option String × Queues :=
  let normalizedTaskId := strip taskId
  if normalizedTaskId = "" then (none, queues)
  else
    let (moved, queues) := removePendingAndProcess packId normalizedTaskId deadline queues
    (if moved then some normalizedTaskId else none, queues)

/-- `LREM key 0 id` on the pending lists of several shards, and the sum of the replies. -/
def removePending (taskId : String) : List String → Queues → Queues × ℕ
  | [], queues => (queues, 0)
  | packId :: rest, queues =>
      let (pending, count) := lremAll taskId (queues packId).pending
      let (queues, removed) :=
        removePending taskId rest (onShard packId (fun q => { q with pending := pending }) queues)
      (queues, count + removed)

/-- `LUA_REROUTE_PENDING`: the sources first, then the target. -/
def reroutePending (packId taskId : String) (sources : List String) (queues : Queues) :
    (ℕ × Bool) × Queues :=
  let (queues, removed) := removePending taskId (sources ++ [packId]) queues
  if removed = 0 then ((0, false), queues)
  else ((removed, true), enqueueTask packId taskId queues)

def sourceKeys (sourceShards : List String) : List String :=
  sourceShards.foldl (fun keys shard =>
    let normalizedShard := strip shard
    if normalizedShard = "" then keys
    else if normalizedShard ∈ keys then keys
    else keys ++ [normalizedShard]) []

def reroutePendingTask (packId taskId : String) (sourceShards : List String)
    (queues : Queues) : (ℕ × Bool) × Queues :=
  let normalizedTaskId := strip taskId
  if normalizedTaskId = "" then ((0, false), queues)
  else reroutePending packId normalizedTaskId (sourceKeys sourceShards) queues

def ackTask (packId taskId : String) : Queues → Queues :=
  onShard packId fun q => { q with processing := q.processing.del taskId }

def nackTaskToDelayed (packId taskId : String) (unlockTime : ℚ) : Queues → Queues :=
  onShard packId fun q =>
    { q with
      delayed := q.delayed.put taskId unlockTime
      processing := q.processing.del taskId }

def moveToDeadletter (packId taskId : String) : Queues → Queues :=
  onShard packId fun q =>
    { q with
      deadletter := lpush taskId q.deadletter
      processing := q.processing.del taskId }

/-- A `ZADD` without `XX`: it also creates the member. -/
def touchVisibilityTimeout (packId taskId : String) (newDeadline : ℚ) : Queues → Queues :=
  onShard packId fun q => { q with processing := q.processing.put taskId newDeadline }

/-! ### Transport repair -/

/-- The pack id of the store that `resolve_transport_queue_store` returns. -/
def resolveTransportQueueStore (packId : String) (queueShard : Option String) : String :=
  let normalizedShard := strip (queueShard.getD "")
  if normalizedShard = "" ∨ normalizedShard = packId then packId else normalizedShard

/-- `reconcile_transport_membership`. -/
def reconcileMembership (packId taskId : String) (reenqueuePending : Bool)
    (queues : Queues) : Queues :=
  let normalizedTaskId := strip taskId
  if normalizedTaskId = "" then queues
  else
    onShard packId (fun q =>
      let pending := (lremAll normalizedTaskId q.pending).1
      { q with
        pending := if reenqueuePending then lpush normalizedTaskId pending else pending
        temp := (lremAll normalizedTaskId q.temp).1
        processing := q.processing.del normalizedTaskId
        delayed := q.delayed.del normalizedTaskId }) queues

end MindscapeLocalCore.RunnerQueue.QueueStore

/-!
Runners and the reaper on the queues: every process works on one operation at a time,
in one or two atomic steps, and the steps of the processes interleave.
-/

namespace MindscapeLocalCore.RunnerQueue.Runs

open Library.PythonText Library.Redis Library.RedisList QueueStore

inductive Operation
  | enqueueTask (packId taskId : String)
  | dequeueTask (packId : String) (visibilityTimeoutSec : ℤ)
  | promotePendingTaskById (packId taskId : String) (visibilityTimeoutSec : ℤ)
  | reroutePendingTask (packId taskId : String) (sourceShards : List String)
  | touchVisibilityTimeout (packId taskId : String) (addedTimeSec : ℤ)
  | nackTaskToDelayed (packId taskId : String) (delaySec : ℤ)
  | moveToDeadletter (packId taskId : String)
  | ackTask (packId taskId : String)
  | reconcileTransportMembership (packId taskId : String) (queueShard : Option String)
      (reenqueuePending : Bool)

/-- What a process has left to do: a dequeued item is in the temp list, a task is
reconciled on the shard of the reaper and not yet on its own. -/
inductive Process
  | idle
  | dequeued (packId taskId : String) (visibilityTimeoutSec : ℤ)
  | reconciling (target taskId : String) (reenqueuePending : Bool)

def firstStep (now : ℚ) (queues : Queues) : Operation → Process × Queues
  | .enqueueTask packId taskId => (.idle, enqueueTask packId taskId queues)
  | .dequeueTask packId visibilityTimeoutSec =>
      match moveToTemp packId queues with
      | none => (.idle, queues)
      | some (item, queues) =>
          if item = "" then (.idle, queues)
          else (.dequeued packId item visibilityTimeoutSec, queues)
  | .promotePendingTaskById packId taskId visibilityTimeoutSec =>
      (.idle, (promotePendingTaskById packId taskId (now + visibilityTimeoutSec) queues).2)
  | .reroutePendingTask packId taskId sourceShards =>
      (.idle, (reroutePendingTask packId taskId sourceShards queues).2)
  | .touchVisibilityTimeout packId taskId addedTimeSec =>
      (.idle, touchVisibilityTimeout packId taskId (now + addedTimeSec) queues)
  | .nackTaskToDelayed packId taskId delaySec =>
      (.idle, nackTaskToDelayed packId taskId (now + delaySec) queues)
  | .moveToDeadletter packId taskId => (.idle, moveToDeadletter packId taskId queues)
  | .ackTask packId taskId => (.idle, ackTask packId taskId queues)
  | .reconcileTransportMembership packId taskId queueShard reenqueuePending =>
      let target := resolveTransportQueueStore packId queueShard
      if target = packId then
        (.idle, reconcileMembership packId taskId reenqueuePending queues)
      else
        (.reconciling target taskId reenqueuePending,
          reconcileMembership packId taskId false queues)

def secondStep (now : ℚ) (queues : Queues) : Process → Queues
  | .idle => queues
  | .dequeued packId taskId visibilityTimeoutSec =>
      moveToProcessing packId taskId (now + visibilityTimeoutSec) queues
  | .reconciling target taskId reenqueuePending =>
      reconcileMembership target taskId reenqueuePending queues

structure System where
  queues : Queues
  processes : ℕ → Process

def System.initial : System := ⟨fun _ => .empty, fun _ => .idle⟩

/-- A process that starts an operation has finished the one before, or was stopped in
it; a process that is stopped for good has no further event. -/
inductive Event
  | start (process : ℕ) (now : ℚ) (operation : Operation)
  | resume (process : ℕ) (now : ℚ)

def Event.process : Event → ℕ
  | .start process _ _ => process
  | .resume process _ => process

def next (s : System) : Event → System
  | .start process now operation =>
      let (left, queues) := firstStep now s.queues operation
      ⟨queues, Function.update s.processes process left⟩
  | .resume process now =>
      ⟨secondStep now s.queues (s.processes process),
        Function.update s.processes process .idle⟩

theorem processes_next_of_ne {s : System} {event : Event} {process : ℕ} (hne : event.process ≠ process) :
    (next s event).processes process = s.processes process := by
  cases event with
  | start other now operation => exact Function.update_of_ne (Ne.symm hne) ..
  | resume other now => exact Function.update_of_ne (Ne.symm hne) ..

end MindscapeLocalCore.RunnerQueue.Runs

/-!
Recycling of a task whose lease in the processing set has expired.
-/

namespace MindscapeLocalCore.RunnerQueue.TransportRepair

open Runs

inductive TaskStatus
  | pending
  | running
  | succeeded
  | failed
  | cancelledByUser
  | expired
deriving DecidableEq, Repr

/-- `TERMINAL_TASK_STATUSES`. -/
def TaskStatus.terminal : TaskStatus → Bool
  | .succeeded | .failed | .cancelledByUser | .expired => true
  | .pending | .running => false

structure Task where
  id : String
  status : TaskStatus
  queueShard : String
  blockedReason : Option String
  frontierState : String
  createdAt : ℚ
  startedAt : Option ℚ
deriving DecidableEq

def Task.isRunnablePending (task : Task) : Bool :=
  if task.status ≠ .pending then false
  else if task.blockedReason.getD "" ≠ "" then false
  else task.frontierState = "ready"

/-- `task_heartbeat_is_fresh`, with what the callback returns for the task. -/
def heartbeatIsFresh (heartbeatAt : Option ℚ) (staleLimit : ℚ) : Bool :=
  heartbeatAt.any fun at_ => staleLimit < at_

/-- The results of `recycle_visibility_timeout_item`. -/
inductive Recycling
  | ackedMissing
  | ackedTerminal
  | ackedNonRunnable
  | touchedFresh
  | requeued
deriving DecidableEq, Repr

def recycling (task : Option Task) (staleLimit : ℚ) (heartbeatAt : Option ℚ) : Recycling :=
  match task with
  | none => .ackedMissing
  | some task =>
      if task.status.terminal then .ackedTerminal
      else if task.status = .pending ∧ task.isRunnablePending = false then .ackedNonRunnable
      else if task.status = .running ∧ heartbeatIsFresh heartbeatAt staleLimit then
        .touchedFresh
      else .requeued

def transportOperation (packId taskId : String) (task : Option Task) :
    Recycling → Operation
  | .ackedMissing => .reconcileTransportMembership packId taskId (some packId) false
  | .ackedTerminal | .ackedNonRunnable =>
      .reconcileTransportMembership packId taskId (task.map (·.queueShard)) false
  | .touchedFresh => .touchVisibilityTimeout packId taskId 180
  | .requeued => .reconcileTransportMembership packId taskId (task.map (·.queueShard)) true

end MindscapeLocalCore.RunnerQueue.TransportRepair
