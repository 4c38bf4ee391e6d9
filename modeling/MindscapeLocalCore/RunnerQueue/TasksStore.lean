import MindscapeLocalCore.RunnerQueue.QueueStore
/-!
The row of one task in the database, and the operations that read and write it: each
read and each update is a transaction of its own.
-/

namespace MindscapeLocalCore.RunnerQueue.TasksStore

open Runs TransportRepair

structure StoreNotFoundError where
  message : String

def notFound (taskId : String) : StoreNotFoundError := ⟨"Task not found: " ++ taskId⟩

/-! ### Transactions -/

/-- `try_claim_task`: `allowed` stands for the workspace quota, the concurrency conflicts
and the integrity constraints. -/
def tryClaimTask (now : ℚ) (allowed : Bool) : Option Task → Bool × Option Task
  | none => (false, none)
  | some task =>
      if task.status ≠ .pending then (false, some task)
      else if allowed then
        (true, some
          { task with
            status := .running
            startedAt := some now
            blockedReason := none
            frontierState := "running" })
      else (false, some task)

/-- `update_task_status`: the row is locked, its status is not looked at. -/
def updateTaskStatus (taskId : String) (status : TaskStatus) (startedAt : Option ℚ) :
    Option Task → Except StoreNotFoundError Task
  | none => .error (notFound taskId)
  | some task =>
      let task := { task with status, startedAt := startedAt <|> task.startedAt }
      if status = .running then .ok { task with blockedReason := none, frontierState := "running" }
      else if status.terminal then .ok { task with blockedReason := none, frontierState := "done" }
      else .ok task

/-- The fields that a call of `update_task` names. -/
structure TaskUpdates where
  status : Option TaskStatus
  startedAt : Option (Option ℚ)
  blockedReason : Option (Option String)
  frontierState : Option String

/-- `_normalize_frontier_updates_for_status`. -/
def TaskUpdates.normalizeFrontier (updates : TaskUpdates) : TaskUpdates :=
  match updates.status with
  | none => updates
  | some status =>
      if status.terminal then { updates with frontierState := some "done" }
      else if status = .running then { updates with frontierState := some "running" }
      else updates

def TaskUpdates.apply (updates : TaskUpdates) (task : Task) : Task :=
  { task with
    status := updates.status.getD task.status
    startedAt := updates.startedAt.getD task.startedAt
    blockedReason := updates.blockedReason.getD task.blockedReason
    frontierState := updates.frontierState.getD task.frontierState }

/-- `update_task`: nothing is written where the status is not an expected one. -/
def updateTask (taskId : String) (expectedStatuses : Option (List TaskStatus))
    (updates : TaskUpdates) (row : Option Task) : Except StoreNotFoundError (Option Task) :=
  let expected : Bool := match expectedStatuses with
    | none => true
    | some statuses => row.any fun task => statuses.contains task.status
  if expected then
    match row with
    | none => .error (notFound taskId)
    | some task => .ok (some (updates.normalizeFrontier.apply task))
  else .ok none

/-- What recycling writes; no scheduler field is left for `update_task` to derive. -/
def requeuedUpdates : TaskUpdates where
  status := some .pending
  startedAt := some none
  blockedReason := some none
  frontierState := some "ready"

/-- `reap_zombie_tasks` on one row, with what the live state or the row has as the last
heartbeat. -/
def isZombie (now : ℚ) (heartbeatTtlMinutes noHeartbeatTtlMinutes : ℤ)
    (heartbeatAt : Option ℚ) (task : Task) : Bool :=
  match heartbeatAt with
  | some heartbeatAt => 60 * heartbeatTtlMinutes < now - heartbeatAt
  | none => 60 * noHeartbeatTtlMinutes < now - task.startedAt.getD task.createdAt

/-! ### Interleaved operations -/

inductive Activity
  | idle
  | cancelling
  | reaping
  | requeueing (packId : String) (task : Task)
  | transporting (operation : Operation)
  | transported

structure Node where
  taskId : String
  row : Option Task
  queue : System
  activities : ℕ → Activity

def Node.status (node : Node) : Option TaskStatus := node.row.map (·.status)

/-- The first five are the first step of an operation or all of it, the last is the next
step of the operation in progress. The runner writes its result in one step. -/
inductive Action
  | tryClaimTask (now : ℚ) (allowed : Bool)
  | finish (succeeded : Bool)
  | cancelTask
  | reapZombieTasks (now : ℚ) (heartbeatTtlMinutes noHeartbeatTtlMinutes : ℤ)
      (heartbeatAt : Option ℚ)
  | recycle (packId : String) (staleLimit : ℚ) (heartbeatAt : Option ℚ)
  | proceed (now : ℚ)

structure Step where
  process : ℕ
  action : Action

/-- The first part of `cancel_task`: whether it goes on to the update. -/
def cancellable : Option Task → Bool
  | none => false
  | some task => task.status = .pending ∨ task.status = .running

/-- The rows that `reap_zombie_tasks` lists, and which of them it goes on to update. -/
def reapable (now : ℚ) (heartbeatTtlMinutes noHeartbeatTtlMinutes : ℤ)
    (heartbeatAt : Option ℚ) : Option Task → Bool
  | none => false
  | some task =>
      task.status = .running &&
        isZombie now heartbeatTtlMinutes noHeartbeatTtlMinutes heartbeatAt task

/-- The first part of `recycle_visibility_timeout_item`. -/
def recycled (taskId packId : String) (staleLimit : ℚ) (heartbeatAt : Option ℚ)
    (row : Option Task) : Activity :=
  match row, recycling row staleLimit heartbeatAt with
  | some task, .requeued => .requeueing packId task
  | _, result => .transporting (transportOperation packId taskId row result)

def Node.setActivity (node : Node) (process : ℕ) (activity : Activity) : Node :=
  { node with activities := Function.update node.activities process activity }

def Node.writeStatus (node : Node) (status : TaskStatus) : Node :=
  match updateTaskStatus node.taskId status none node.row with
  | .error _ => node
  | .ok task => { node with row := some task }

def Node.proceed (node : Node) (process : ℕ) (now : ℚ) : Node :=
  match node.activities process with
  | .idle => node
  | .cancelling => (node.writeStatus .cancelledByUser).setActivity process .idle
  | .reaping => (node.writeStatus .failed).setActivity process .idle
  | .requeueing packId task =>
      match updateTask node.taskId none requeuedUpdates node.row with
      | .error _ => node.setActivity process .idle
      | .ok updated =>
          { node with row := updated <|> node.row }.setActivity process
            (.transporting (transportOperation packId node.taskId (some task) .requeued))
  | .transporting operation =>
      { node with queue := Runs.next node.queue (.start process now operation) }.setActivity
        process .transported
  | .transported =>
      { node with queue := Runs.next node.queue (.resume process now) }.setActivity process .idle

def next (node : Node) (step : Step) : Node :=
  match step.action with
  | .tryClaimTask now allowed => { node with row := (tryClaimTask now allowed node.row).2 }
  | .finish succeeded => node.writeStatus (if succeeded then .succeeded else .failed)
  | .cancelTask =>
      node.setActivity step.process (if cancellable node.row then .cancelling else .idle)
  | .reapZombieTasks now heartbeatTtlMinutes noHeartbeatTtlMinutes heartbeatAt =>
      node.setActivity step.process
        (if reapable now heartbeatTtlMinutes noHeartbeatTtlMinutes heartbeatAt node.row then
          .reaping
        else .idle)
  | .recycle packId staleLimit heartbeatAt =>
      node.setActivity step.process
        (recycled node.taskId packId staleLimit heartbeatAt node.row)
  | .proceed now => node.proceed step.process now

/-- What `cancel_task` returns with a step, if the step ends it. -/
def cancelAnswer (node : Node) (step : Step) : Option Bool :=
  match step.action with
  | .cancelTask => if cancellable node.row then none else some false
  | .proceed _ =>
      match node.activities step.process with
      | .cancelling =>
          match updateTaskStatus node.taskId .cancelledByUser none node.row with
          | .error _ => some false
          | .ok _ => some true
      | _ => none
  | _ => none

end MindscapeLocalCore.RunnerQueue.TasksStore
