import MindscapeLocalCore.HostResources.ReservationStore
import MindscapeLocalCore.RunnerQueue.QueueStore
/-!
`try_claim_task` as the statements of one transaction: the row is read, the allocation row is
locked and the running tasks are counted under that lock, one update claims the task, and the
commit releases the lock. Every statement reads the committed rows.
-/

namespace MindscapeLocalCore.RunnerQueue.TaskClaims

open HostResources.ReservationStore (Timestamp cleanText dictOf)
open Library.Json Library.PythonText Library.Table
open TransportRepair (TaskStatus)

/-- `str` of a JSON value, `json.loads` where it does not raise, `->>` of a value that is
neither text nor null, and `datetime.isoformat`. -/
structure Platform where
  str : Json → String
  loads : String → Option Json
  arrowText : Json → String
  isoformat : Timestamp → String

/-! ### Rows -/

structure Task where
  id : String
  workspaceId : String
  queueShard : Option String
  packId : Option String
  taskType : Option String
  params : Json
  executionContext : Json
  concurrencyKey : Option String
  status : TaskStatus
  runnerId : Option String
  startedAt : Option Timestamp
  heartbeatAt : Option Timestamp
  blockedReason : Option String
  blockedPayload : Option Json
  frontierState : String
  frontierEnqueuedAt : Option Timestamp

/-- A row of `host_resource_workspace_allocations`. -/
structure Allocation where
  allocationId : String
  state : String
  maxParallelTaskClaims : Option ℤ
  metadata : Option Json

structure TaskTable where
  rows : List Task
  nodup : (rows.map Task.id).Nodup

/-! ### Keys and selectors -/

def distinct (texts : List (Option String)) : List String :=
  texts.foldl (fun kept text =>
    match text with
    | none => kept
    | some text => if text ∈ kept then kept else kept ++ [text]) []

def normalizeConcurrencyKeys (rawKeys : List String) : List String :=
  distinct (rawKeys.map cleanText)

def claimKeys (concurrencyKeys : List String) (persistedKey : Option String) : List String :=
  let keys := normalizeConcurrencyKeys concurrencyKeys
  match persistedKey with
  | none => keys
  | some persistedKey =>
      if Blank persistedKey then keys else normalizeConcurrencyKeys (keys ++ [persistedKey])

variable (p : Platform)

def cleanString : Option Json → Option String
  | none | some .null => none
  | some value => cleanText (p.str value)

def jsonMapping : Option Json → Dict
  | some (.obj members) => members
  | some (.str text) =>
      if Blank text then []
      else match p.loads text with
        | some (.obj members) => members
        | _ => []
  | _ => []

def quotaSelectors (metadata : Option Json) : List String :=
  match (jsonMapping p metadata).get? "task_selectors" with
  | some (.arr selectors) => distinct (selectors.map fun selector => cleanString p (some selector))
  | _ => []

/-- `execution_context::jsonb->>'playbook_code'`. -/
def playbookCode (task : Task) : Option String :=
  match (dictOf (some task.executionContext)).get? "playbook_code" with
  | none | some .null => none
  | some (.str text) => some text
  | some value => some (p.arrowText value)

/-! ### The context of a claim -/

def claimContextStaleKeys : List String :=
  ["dependency_hold", "error", "failed_at", "heartbeat_at", "resource_pressure",
   "resource_pressure_source", "resource_retry_delay_sec", "resource_snapshot", "resume_after",
   "runner_reaper", "runner_skip_conflict_lock_key", "runner_skip_lock_key",
   "runner_skip_reason"]

def paramsInputs (taskParams : Json) : Dict :=
  let members := dictOf (some taskParams)
  match members.get? "inputs" with
  | some (.obj nested) => nested
  | _ => members

def buildClaimExecutionContext (existing taskParams : Json) (runnerId : String)
    (now : Timestamp) : Dict :=
  let ctx := dictOf (some existing)
  let inputs := paramsInputs taskParams
  let ctx :=
    if inputs.isEmpty then ctx
    else ctx.set "inputs" (.obj (inputs.update (dictOf (ctx.get? "inputs"))))
  let ctx := claimContextStaleKeys.foldl Dict.erase ctx
  ((ctx.set "runner_id" (.str runnerId)).set "heartbeat_at" (.str (p.isoformat now))).set
    "status" (.str "running")

/-! ### The workspace quota -/

/-- What a decision asks of the quota: the allocation, and the workspace and shard of the row,
all cleaned. -/
structure Quota where
  allocationId : String
  workspaceId : String
  queueShard : String
  metadata : Option Json

/-- The first part of `_workspace_quota_allows_claim`; nothing is asked where an id is
missing. -/
def quotaOf (row : Task) (workspaceQuotaDecision : Option Dict) : Option Quota :=
  match workspaceQuotaDecision.bind fun payload => payload.get? "allocation" with
  | some (.obj allocation) => do
      let allocationId ← cleanString p (Dict.get? allocation "allocation_id")
      let workspaceId ← cleanText row.workspaceId
      let queueShard ← row.queueShard.bind cleanText
      some ⟨allocationId, workspaceId, queueShard, Dict.get? allocation "metadata"⟩
  | _ => none

def Quota.selectors (quota : Quota) (locked : Allocation) : List String :=
  if quotaSelectors p locked.metadata = [] then quotaSelectors p quota.metadata
  else quotaSelectors p locked.metadata

def Allocation.limit (allocation : Allocation) : ℤ :=
  max 1 (allocation.maxParallelTaskClaims.getD 1)

def Selected (selectors : List String) (task : Task) : Prop :=
  selectors = [] ∨ ∃ selector ∈ selectors, task.packId = some selector ∨
    task.taskType = some selector ∨ playbookCode p task = some selector

instance (selectors : List String) (task : Task) : Decidable (Selected p selectors task) :=
  inferInstanceAs (Decidable (_ ∨ ∃ selector ∈ selectors, _))

def RunningIn (workspaceId queueShard : String) (selectors : List String) (task : Task) : Prop :=
  task.workspaceId = workspaceId ∧ task.queueShard = some queueShard ∧ task.status = .running ∧
    Selected p selectors task

instance (workspaceId queueShard : String) (selectors : List String) (task : Task) :
    Decidable (RunningIn p workspaceId queueShard selectors task) :=
  inferInstanceAs (Decidable (_ ∧ _))

/-- `SELECT COUNT(*) … AND id <> :task_id`. -/
def activeCount (quota : Quota) (selectors : List String) (taskId : String)
    (tasks : List Task) : ℕ :=
  tasks.countP fun task => decide (task.id ≠ taskId ∧
    RunningIn p quota.workspaceId quota.queueShard selectors task)

/-- The rest of `_workspace_quota_allows_claim`, under the lock of the allocation row. -/
def quotaAllows (allocations : List Allocation) (quota : Quota) (taskId : String)
    (tasks : List Task) : Prop :=
  ∃ locked ∈ lookup Allocation.allocationId quota.allocationId allocations,
    cleanText locked.state = some "enabled" ∧
      (activeCount p quota (quota.selectors p locked) taskId tasks : ℤ) < locked.limit

instance (allocations : List Allocation) (quota : Quota) (taskId : String)
    (tasks : List Task) : Decidable (quotaAllows p allocations quota taskId tasks) :=
  match h : lookup Allocation.allocationId quota.allocationId allocations with
  | none => isFalse fun ⟨_, hlocked, _⟩ => nomatch h.symm.trans hlocked
  | some locked =>
      decidable_of_iff (cleanText locked.state = some "enabled" ∧
        (activeCount p quota (quota.selectors p locked) taskId tasks : ℤ) < locked.limit)
        ⟨fun hallowed => ⟨locked, h, hallowed⟩,
          fun ⟨_, hlocked, hallowed⟩ => Option.some.inj (h.symm.trans hlocked) ▸ hallowed⟩

/-! ### The update -/

/-- `_running_concurrency_conflict_clause`: a running task is stored under one of the keys. -/
def RunningConflict (keys : List String) (taskId : String) (tasks : List Task) : Prop :=
  ∃ running ∈ tasks, running.id ≠ taskId ∧ running.status = .running ∧
    ∃ key ∈ running.concurrencyKey, key ∈ keys

/-- `idx_tasks_running_concurrency_key_unique`. -/
def RunningKeyTaken (task : Task) (tasks : List Task) : Prop :=
  ∃ key ∈ task.concurrencyKey, key ≠ "" ∧ ∃ running ∈ tasks, running.id ≠ task.id ∧
    running.status = .running ∧ running.concurrencyKey = some key

instance (keys : List String) (taskId : String) (tasks : List Task) :
    Decidable (RunningConflict keys taskId tasks) :=
  inferInstanceAs (Decidable (∃ running ∈ tasks, _))

instance (task : Task) (tasks : List Task) : Decidable (RunningKeyTaken task tasks) :=
  inferInstanceAs (Decidable (∃ key ∈ task.concurrencyKey, _))

/-! ### Transactions -/

structure Request where
  taskId : String
  runnerId : String
  concurrencyKeys : List String
  workspaceQuotaDecision : Option Dict
  now : Timestamp

/-- A claim before its commit: the row that it read, whether the quota has let it on, the
allocation that it holds the lock of, and whether it has updated its row. -/
structure Transaction where
  request : Request
  row : Task
  admitted : Bool
  lock : Option String
  updated : Bool

structure Store where
  tasks : List Task
  transactions : List Transaction

def TaskTable.store (table : TaskTable) : Store := ⟨table.rows, []⟩

inductive Event
  | read (request : Request)
  | quota (position : ℕ)
  | update (position : ℕ)
  | commit (position : ℕ)
  | finish (taskId : String) (status : {status : TaskStatus // status ≠ .running})

/-- The first statement, and the return where there is no pending row. -/
def readTask (request : Request) (store : Store) : Store :=
  match lookup Task.id request.taskId store.tasks with
  | none => store
  | some row =>
      if row.status = .pending then
        { store with
          transactions := store.transactions ++ [⟨request, row, false, none, false⟩] }
      else store

def applyQuota (allocations : List Allocation) (position : ℕ) (store : Store) : Store :=
  match store.transactions[position]? with
  | none => store
  | some transaction =>
      if transaction.admitted then store
      else match quotaOf p transaction.row transaction.request.workspaceQuotaDecision with
        | none =>
            { store with
              transactions := store.transactions.set position { transaction with admitted := true } }
        | some quota =>
            if ∃ other ∈ store.transactions, other.lock = some quota.allocationId then store
            else if quotaAllows p allocations quota transaction.row.id store.tasks then
              { store with
                transactions := store.transactions.set position
                  { transaction with admitted := true, lock := some quota.allocationId } }
            else { store with transactions := store.transactions.eraseIdx position }

def Transaction.keys (transaction : Transaction) : List String :=
  claimKeys transaction.request.concurrencyKeys transaction.row.concurrencyKey

/-- The row matches the update, and no unique index is violated. -/
def Claims (transaction : Transaction) (tasks : List Task) : Prop :=
  ∃ task ∈ lookup Task.id transaction.row.id tasks, task.status = .pending ∧
    ¬ RunningConflict transaction.keys task.id tasks ∧ ¬ RunningKeyTaken task tasks

instance (transaction : Transaction) (tasks : List Task) : Decidable (Claims transaction tasks) :=
  inferInstanceAs (Decidable (∃ task ∈ lookup Task.id transaction.row.id tasks, _))

def Waits (transaction : Transaction) (transactions : List Transaction) : Prop :=
  ∃ other ∈ transactions, other.updated = true ∧ (other.row.id = transaction.row.id ∨
    ∃ key ∈ transaction.row.concurrencyKey, key ≠ "" ∧ other.row.concurrencyKey = some key)

instance (transaction : Transaction) (transactions : List Transaction) :
    Decidable (Waits transaction transactions) :=
  inferInstanceAs (Decidable (∃ other ∈ transactions, _))

def update (position : ℕ) (store : Store) : Store :=
  match store.transactions[position]? with
  | none => store
  | some transaction =>
      if transaction.admitted = true ∧ transaction.updated = false ∧
          ¬ Waits transaction store.transactions then
        if Claims transaction store.tasks then
          { store with
            transactions := store.transactions.set position { transaction with updated := true } }
        else { store with transactions := store.transactions.eraseIdx position }
      else store

def claimed (transaction : Transaction) (task : Task) : Task :=
  { task with
    status := .running
    startedAt := some transaction.request.now
    runnerId := some transaction.request.runnerId
    heartbeatAt := some transaction.request.now
    executionContext := .obj (buildClaimExecutionContext p transaction.row.executionContext
      transaction.row.params transaction.request.runnerId transaction.request.now)
    blockedReason := none
    blockedPayload := none
    frontierState := "running"
    frontierEnqueuedAt := none }

def commit (position : ℕ) (store : Store) : Store :=
  match store.transactions[position]? with
  | none => store
  | some transaction =>
      if transaction.updated then
        { tasks := amend Task.id transaction.row.id (claimed p transaction) store.tasks
          transactions := store.transactions.eraseIdx position }
      else store

/-- A task leaves `RUNNING`, or never gets there; the row must not be locked. -/
def finish (taskId : String) (status : TaskStatus) (store : Store) : Store :=
  if ∃ other ∈ store.transactions, other.updated = true ∧ other.row.id = taskId then store
  else { store with tasks := amend Task.id taskId (fun task => { task with status }) store.tasks }

variable (allocations : List Allocation)

def next (store : Store) : Event → Store
  | .read request => readTask request store
  | .quota position => applyQuota p allocations position store
  | .update position => update position store
  | .commit position => commit p position store
  | .finish taskId status => finish taskId status store

def completed (store : Store) : Event → Option Transaction
  | .commit position => store.transactions[position]?.filter Transaction.updated
  | _ => none

/-! ### Claims one after another -/

/-- `try_claim_task` without other claims: the transaction that it commits. -/
def tryClaimTask (request : Request) (tasks : List Task) : Option Transaction := do
  let row ← lookup Task.id request.taskId tasks
  if row.status = .pending ∧
      (∀ quota ∈ quotaOf p row request.workspaceQuotaDecision,
        quotaAllows p allocations quota row.id tasks) ∧
      Claims ⟨request, row, true, none, true⟩ tasks then
    some ⟨request, row, true, none, true⟩
  else none

inductive Call
  | claim (request : Request)
  | finish (taskId : String) (status : {status : TaskStatus // status ≠ .running})

/-- A claim from its first statement to its commit, or a completion. -/
def Call.events : Call → List Event
  | .claim request => [.read request, .quota 0, .update 0, .commit 0]
  | .finish taskId status => [.finish taskId status]

/-- The tasks, and the claims whose tasks have not been finished since, the newest first. -/
structure Ledger where
  tasks : List Task
  standing : List Transaction

def perform (ledger : Ledger) : Call → Ledger
  | .claim request =>
      match tryClaimTask p allocations request ledger.tasks with
      | none => ledger
      | some transaction =>
          { tasks := amend Task.id transaction.row.id (claimed p transaction) ledger.tasks
            standing := transaction :: ledger.standing }
  | .finish taskId status =>
      { tasks := amend Task.id taskId (fun task => { task with status := status.val }) ledger.tasks
        standing := ledger.standing.filter fun transaction => transaction.row.id ≠ taskId }

end MindscapeLocalCore.RunnerQueue.TaskClaims
