import MindscapeLocalCore.RunnerQueue.TaskClaims
/-!
What the claims of any number of runners leave, whatever the order of their statements and of
the completions: the limit of an allocation, one claim at a time of each task, and, for claims
that do not overlap, the key that a running task is stored under.
-/

namespace MindscapeLocalCore.RunnerQueue.ClaimRuns

open HostResources.ReservationStore (cleanText cleanText_eq_some dictOf)
open Library.Json Library.PythonText Library.Table Library.Trace TaskClaims
open TransportRepair (TaskStatus)

variable (p : Platform) (allocations : List Allocation) (table : TaskTable)

def after (events : List Event) : Store := stateAfter (next p allocations) table.store events

/-! ### Columns that no event changes -/

structure Fixed where
  id : String
  workspaceId : String
  queueShard : Option String
  packId : Option String
  taskType : Option String
  concurrencyKey : Option String
  playbookCode : Option String

def fixed (task : Task) : Fixed where
  id := task.id
  workspaceId := task.workspaceId
  queueShard := task.queueShard
  packId := task.packId
  taskType := task.taskType
  concurrencyKey := task.concurrencyKey
  playbookCode := playbookCode p task

/-- The rows have the columns that they started with, and so have the rows that were read. -/
structure Tracked (store : Store) : Prop where
  columns : store.tasks.map (fixed p) = table.rows.map (fixed p)
  rows : ∀ transaction ∈ store.transactions,
    fixed p transaction.row ∈ table.rows.map (fixed p)

variable {p allocations table} {store : Store} {transaction : Transaction} {task other : Task}
  {position : ℕ}

theorem nodup_of_columns (h : store.tasks.map (fixed p) = table.rows.map (fixed p)) :
    (store.tasks.map Task.id).Nodup := by
  have hids : ∀ tasks : List Task, tasks.map Task.id = (tasks.map (fixed p)).map Fixed.id := by
    intro tasks
    rw [List.map_map]
    rfl
  rw [hids, h, ← hids]
  exact table.nodup

theorem eq_of_id (h : Tracked p table store) (htask : task ∈ store.tasks)
    (hother : other ∈ store.tasks) (hid : task.id = other.id) : task = other := by
  have hfirst := lookup_eq_some_of_mem (nodup_of_columns h.columns) htask
  have hsecond := lookup_eq_some_of_mem (nodup_of_columns h.columns) hother
  rw [hid, hsecond] at hfirst
  exact (Option.some.inj hfirst).symm

theorem fixed_of_mem (h : Tracked p table store) (htransaction : transaction ∈ store.transactions)
    (htask : task ∈ store.tasks) (hid : task.id = transaction.row.id) :
    fixed p task = fixed p transaction.row := by
  have hrow := h.rows transaction htransaction
  rw [← h.columns] at hrow
  obtain ⟨current, hcurrent, hsame⟩ := List.mem_map.mp hrow
  have hid' : current.id = transaction.row.id := congrArg Fixed.id hsame
  rw [eq_of_id h htask hcurrent (hid.trans hid'.symm)]
  exact hsame

theorem map_fixed_amend {tasks : List Task} {id : String} {f : Task → Task}
    (hf : ∀ task ∈ tasks, task.id = id → fixed p (f task) = fixed p task) :
    (amend Task.id id f tasks).map (fixed p) = tasks.map (fixed p) := by
  rw [amend, List.map_map]
  refine List.map_congr_left fun task htask => ?_
  rw [Function.comp_apply]
  split
  · rename_i hid
    exact hf task htask hid
  · rfl

theorem playbookCode_claimed :
    playbookCode p (claimed p transaction task) = playbookCode p transaction.row := by
  have hcontext : (buildClaimExecutionContext p transaction.row.executionContext
      transaction.row.params transaction.request.runnerId transaction.request.now).get?
        "playbook_code" =
      (dictOf (some transaction.row.executionContext)).get? "playbook_code" := by
    rw [buildClaimExecutionContext, Dict.get?_set_of_ne _ _ (by decide),
      Dict.get?_set_of_ne _ _ (by decide), Dict.get?_set_of_ne _ _ (by decide),
      Dict.get?_foldl_erase (by decide)]
    split
    · rfl
    · rw [Dict.get?_set_of_ne _ _ (by decide)]
  have hobj : ∀ context : Dict, dictOf (some (.obj context)) = context := fun _ => rfl
  rw [playbookCode, playbookCode, claimed, hobj, hcontext]

theorem fixed_claimed (h : fixed p task = fixed p transaction.row) :
    fixed p (claimed p transaction task) = fixed p task := by
  have hplaybook : playbookCode p (claimed p transaction task) = playbookCode p task :=
    playbookCode_claimed.trans (congrArg Fixed.playbookCode h).symm
  rw [fixed, hplaybook]
  rfl

theorem tracked_start : Tracked p table table.store where
  columns := rfl
  rows _ h := absurd h List.not_mem_nil

/-! ### What each event can do -/

theorem not_of_countP_le_one {α : Type} {counted : α → Bool} {elements : List α} {element other : α}
    (hone : elements.countP counted ≤ 1) (helement : elements[position]? = some element)
    (hcounted : counted element = true) (hother : other ∈ elements.eraseIdx position) :
    counted other = false := by
  obtain ⟨hposition, hget⟩ := List.getElem?_eq_some_iff.mp helement
  have hperm := (List.getElem_cons_eraseIdx_perm hposition).countP_eq counted
  rw [hget, List.countP_cons, hcounted, if_pos rfl] at hperm
  have hnone : (elements.eraseIdx position).countP counted = 0 := by omega
  exact Bool.eq_false_iff.mpr (List.countP_eq_zero.mp hnone other hother)

theorem countP_set_of_eq {α : Type} {counted : α → Bool} {elements : List α}
    {element later : α} (helement : elements[position]? = some element)
    (hsame : counted later = counted element) :
    (elements.set position later).countP counted = elements.countP counted := by
  obtain ⟨hposition, hget⟩ := List.getElem?_eq_some_iff.mp helement
  rw [List.countP_set hposition, hget, hsame]
  split
  · rename_i hcounted
    have hpos : 0 < elements.countP counted :=
      List.countP_pos_iff.mpr ⟨element, List.mem_of_getElem? helement, hcounted⟩
    omega
  · rfl

theorem countP_set_le_one {α : Type} {counted : α → Bool} {elements : List α} {later : α}
    (hnone : ∀ other ∈ elements, counted other = false) :
    (elements.set position later).countP counted ≤ 1 := by
  by_cases hposition : position < elements.length
  · have hzero : elements.countP counted = 0 :=
      List.countP_eq_zero.mpr fun other hother => by simp [hnone other hother]
    rw [List.countP_set hposition, hzero]
    split <;> split <;> omega
  · rw [List.set_eq_of_length_le (Nat.not_lt.mp hposition)]
    have hzero : elements.countP counted = 0 :=
      List.countP_eq_zero.mpr fun other hother => by simp [hnone other hother]
    rw [hzero]
    exact Nat.zero_le 1

theorem mem_of_getElem? (h : store.transactions[position]? = some transaction) :
    transaction ∈ store.transactions := List.mem_of_getElem? h

theorem readTask_cases (request : Request) (store : Store) :
    readTask request store = store ∨ ∃ row ∈ store.tasks, row.status = .pending ∧
      readTask request store =
        { store with transactions := store.transactions ++ [⟨request, row, false, none, false⟩] } := by
  rw [readTask]
  split
  · exact .inl rfl
  · rename_i row hrow
    split
    · rename_i hpending
      exact .inr ⟨row, mem_of_lookup hrow, hpending, rfl⟩
    · exact .inl rfl

theorem applyQuota_cases (allocations : List Allocation) (position : ℕ) (store : Store) :
    applyQuota p allocations position store = store ∨
      ∃ transaction, store.transactions[position]? = some transaction ∧
        transaction.admitted = false ∧
        (quotaOf p transaction.row transaction.request.workspaceQuotaDecision = none ∧
            applyQuota p allocations position store =
              { store with
                transactions :=
                  store.transactions.set position { transaction with admitted := true } } ∨
          ∃ quota, quotaOf p transaction.row transaction.request.workspaceQuotaDecision =
              some quota ∧
            (∀ other ∈ store.transactions, other.lock ≠ some quota.allocationId) ∧
            (quotaAllows p allocations quota transaction.row.id store.tasks ∧
                applyQuota p allocations position store =
                  { store with
                    transactions := store.transactions.set position
                      { transaction with
                        admitted := true, lock := some quota.allocationId } } ∨
              applyQuota p allocations position store =
                { store with transactions := store.transactions.eraseIdx position })) := by
  rw [applyQuota]
  split
  · exact .inl rfl
  · rename_i transaction htransaction
    split
    · exact .inl rfl
    · rename_i hadmitted
      split
      · rename_i hquota
        exact .inr ⟨transaction, htransaction, Bool.eq_false_iff.mpr hadmitted,
          .inl ⟨hquota, rfl⟩⟩
      · rename_i quota hquota
        split
        · exact .inl rfl
        · rename_i hfree
          refine .inr ⟨transaction, htransaction, Bool.eq_false_iff.mpr hadmitted,
            .inr ⟨quota, hquota, fun other hother hlock => hfree ⟨other, hother, hlock⟩, ?_⟩⟩
          split
          · rename_i hallows
            exact .inl ⟨hallows, rfl⟩
          · exact .inr rfl

theorem update_cases (position : ℕ) (store : Store) :
    update position store = store ∨
      ∃ transaction, store.transactions[position]? = some transaction ∧
        transaction.admitted = true ∧ transaction.updated = false ∧
        ¬ Waits transaction store.transactions ∧
        (Claims transaction store.tasks ∧
            update position store =
              { store with
                transactions :=
                  store.transactions.set position { transaction with updated := true } } ∨
          update position store =
            { store with transactions := store.transactions.eraseIdx position }) := by
  rw [update]
  split
  · exact .inl rfl
  · rename_i transaction htransaction
    split
    · rename_i hready
      obtain ⟨hadmitted, hupdated, hwaits⟩ := hready
      refine .inr ⟨transaction, htransaction, hadmitted, hupdated, hwaits, ?_⟩
      split
      · rename_i hclaims
        exact .inl ⟨hclaims, rfl⟩
      · exact .inr rfl
    · exact .inl rfl

theorem commit_cases (position : ℕ) (store : Store) :
    commit p position store = store ∨
      ∃ transaction, store.transactions[position]? = some transaction ∧
        transaction.updated = true ∧
        commit p position store =
          { tasks := amend Task.id transaction.row.id (claimed p transaction) store.tasks
            transactions := store.transactions.eraseIdx position } := by
  rw [commit]
  split
  · exact .inl rfl
  · rename_i transaction htransaction
    split
    · rename_i hupdated
      exact .inr ⟨transaction, htransaction, hupdated, rfl⟩
    · exact .inl rfl

theorem finish_cases (taskId : String) (status : TaskStatus) (store : Store) :
    finish taskId status store = store ∨
      (∀ other ∈ store.transactions, other.updated = true → other.row.id ≠ taskId) ∧
        finish taskId status store =
          { store with
            tasks := amend Task.id taskId (fun task => { task with status }) store.tasks } := by
  rw [finish]
  split
  · exact .inl rfl
  · rename_i hfree
    exact .inr ⟨fun other hother hupdated hid => hfree ⟨other, hother, hupdated, hid⟩, rfl⟩

theorem completed_eq_some {event : Event} (h : completed store event = some transaction) :
    ∃ position, event = .commit position ∧
      store.transactions[position]? = some transaction ∧ transaction.updated = true := by
  cases event with
  | commit position =>
      obtain ⟨htransaction, hupdated⟩ := Option.filter_eq_some_iff.mp h
      exact ⟨position, rfl, htransaction, hupdated⟩
  | _ => cases h

theorem tasks_next_of_completed {event : Event} (h : completed store event = some transaction) :
    (next p allocations store event).tasks =
      amend Task.id transaction.row.id (claimed p transaction) store.tasks := by
  obtain ⟨position, rfl, htransaction, hupdated⟩ := completed_eq_some h
  rw [next, commit, htransaction]
  simp only [hupdated, if_true]

/-! ### Rows -/

theorem map_fixed_claimed (h : Tracked p table store)
    (htransaction : transaction ∈ store.transactions) :
    (amend Task.id transaction.row.id (claimed p transaction) store.tasks).map (fixed p) =
      store.tasks.map (fixed p) :=
  map_fixed_amend fun _ htask hid =>
    fixed_claimed (fixed_of_mem h htransaction htask hid)

theorem tracked_transactions (h : Tracked p table store) {transactions : List Transaction}
    (hrows : ∀ transaction ∈ transactions, fixed p transaction.row ∈
      table.rows.map (fixed p)) : Tracked p table { store with transactions } :=
  ⟨h.columns, hrows⟩

theorem tracked_set (h : Tracked p table store)
    (htransaction : store.transactions[position]? = some transaction) {later : Transaction}
    (hrow : later.row = transaction.row) :
    Tracked p table { store with transactions := store.transactions.set position later } := by
  refine tracked_transactions h fun other hother => ?_
  rcases List.mem_or_eq_of_mem_set hother with hold | rfl
  · exact h.rows other hold
  · rw [hrow]
    exact h.rows transaction (mem_of_getElem? htransaction)

theorem tracked_erase (h : Tracked p table store) :
    Tracked p table { store with transactions := store.transactions.eraseIdx position } :=
  tracked_transactions h fun other hother => h.rows other (List.mem_of_mem_eraseIdx hother)

theorem tracked_next (h : Tracked p table store) (event : Event) :
    Tracked p table (next p allocations store event) := by
  cases event with
  | read request =>
      rcases readTask_cases request store with hsame | ⟨row, hrow, -, hread⟩
      · rw [next, hsame]
        exact h
      · rw [next, hread]
        refine tracked_transactions h fun other hother => ?_
        rcases List.mem_append.mp hother with hold | hnew
        · exact h.rows other hold
        · rw [List.mem_singleton.mp hnew, ← h.columns]
          exact List.mem_map_of_mem hrow
  | quota position =>
      rcases applyQuota_cases (p := p) allocations position store with hsame |
        ⟨transaction, htransaction, -, ⟨-, happlied⟩ | ⟨quota, -, -, ⟨-, happlied⟩ | happlied⟩⟩
      · rw [next, hsame]
        exact h
      · rw [next, happlied]
        exact tracked_set h htransaction rfl
      · rw [next, happlied]
        exact tracked_set h htransaction rfl
      · rw [next, happlied]
        exact tracked_erase h
  | update position =>
      rcases update_cases position store with hsame |
        ⟨transaction, htransaction, -, -, -, ⟨-, hupdate⟩ | hupdate⟩
      · rw [next, hsame]
        exact h
      · rw [next, hupdate]
        exact tracked_set h htransaction rfl
      · rw [next, hupdate]
        exact tracked_erase h
  | commit position =>
      rcases commit_cases (p := p) position store with hsame |
        ⟨transaction, htransaction, -, hcommit⟩
      · rw [next, hsame]
        exact h
      · rw [next, hcommit]
        refine ⟨?_, (tracked_erase h).rows⟩
        exact (map_fixed_claimed h (mem_of_getElem? htransaction)).trans h.columns
  | finish taskId status =>
      rcases finish_cases taskId status.val store with hsame | ⟨-, hfinish⟩
      · rw [next, hsame]
        exact h
      · rw [next, hfinish]
        refine ⟨?_, h.rows⟩
        exact (map_fixed_amend (f := fun task => { task with status := status.val })
          fun _ _ _ => rfl).trans h.columns

theorem tracked_after (events : List Event) :
    Tracked p table (after p allocations table events) := by
  induction events using List.reverseRecOn with
  | nil => exact tracked_start
  | append_singleton events event ih =>
      rw [after, stateAfter_append_singleton]
      exact tracked_next ih event

/-! ### Running tasks -/

def Runs (store : Store) (taskId : String) : Prop :=
  ∃ task ∈ store.tasks, task.id = taskId ∧ task.status = .running

theorem runs_amend {tasks : List Task} {id taskId : String} {f : Task → Task}
    (hid : ∀ task, (f task).id = task.id)
    (hstatus : ∀ task, task.id = taskId → task.id = id → (f task).status = .running)
    (h : ∃ task ∈ tasks, task.id = taskId ∧ task.status = .running) :
    ∃ task ∈ amend Task.id id f tasks, task.id = taskId ∧ task.status = .running := by
  obtain ⟨task, htask, hsame, hrunning⟩ := h
  refine ⟨_, List.mem_map_of_mem htask, ?_⟩
  split
  · rename_i hamended
    exact ⟨(hid task).trans hsame, hstatus task hsame hamended⟩
  · exact ⟨hsame, hrunning⟩

theorem runs_next {taskId : String} {event : Event} (h : Runs store taskId)
    (hevent : ∀ status, event ≠ .finish taskId status) :
    Runs (next p allocations store event) taskId := by
  cases event with
  | read request =>
      rcases readTask_cases request store with hsame | ⟨row, -, -, hread⟩
      · rw [next, hsame]
        exact h
      · rw [next, hread]
        exact h
  | quota position =>
      rcases applyQuota_cases (p := p) allocations position store with hsame |
        ⟨transaction, -, -, ⟨-, happlied⟩ | ⟨quota, -, -, ⟨-, happlied⟩ | happlied⟩⟩
      · rw [next, hsame]
        exact h
      all_goals
        rw [next, happlied]
        exact h
  | update position =>
      rcases update_cases position store with hsame |
        ⟨transaction, -, -, -, -, ⟨-, hupdate⟩ | hupdate⟩
      · rw [next, hsame]
        exact h
      all_goals
        rw [next, hupdate]
        exact h
  | commit position =>
      rcases commit_cases (p := p) position store with hsame | ⟨transaction, -, -, hcommit⟩
      · rw [next, hsame]
        exact h
      · rw [next, hcommit]
        exact runs_amend (fun _ => rfl) (fun _ _ _ => rfl) h
  | finish finished status =>
      rcases finish_cases finished status.val store with hsame | ⟨-, hfinish⟩
      · rw [next, hsame]
        exact h
      · rw [next, hfinish]
        refine runs_amend (fun _ => rfl) (fun task hid hid' => ?_) h
        exact absurd (hid'.symm.trans hid ▸ rfl) (hevent status)

structure Updated (store : Store) : Prop where
  pending : ∀ transaction ∈ store.transactions, transaction.updated = true →
    ∃ task ∈ store.tasks, task.id = transaction.row.id ∧ task.status = .pending
  once : ∀ taskId, store.transactions.countP (fun transaction =>
    transaction.updated && decide (transaction.row.id = taskId)) ≤ 1

theorem updated_start : Updated table.store where
  pending _ h := absurd h List.not_mem_nil
  once _ := Nat.zero_le _

theorem updated_erase (h : Updated store) :
    Updated { store with transactions := store.transactions.eraseIdx position } where
  pending other hother := h.pending other (List.mem_of_mem_eraseIdx hother)
  once taskId := (List.eraseIdx_sublist ..).countP_le.trans (h.once taskId)

theorem updated_set (h : Updated store)
    (htransaction : store.transactions[position]? = some transaction) {later : Transaction}
    (hrow : later.row = transaction.row) (hupdated : later.updated = transaction.updated) :
    Updated { store with transactions := store.transactions.set position later } := by
  refine ⟨fun other hother hother' => ?_, fun taskId => ?_⟩
  · rcases List.mem_or_eq_of_mem_set hother with hold | rfl
    · exact h.pending other hold hother'
    · rw [hrow]
      rw [hupdated] at hother'
      exact h.pending transaction (mem_of_getElem? htransaction) hother'
  · rw [countP_set_of_eq htransaction (by rw [hrow, hupdated])]
    exact h.once taskId

theorem exists_pending_amend {id taskId : String} {f : Task → Task} {tasks : List Task}
    (hne : taskId ≠ id) (h : ∃ task ∈ tasks, task.id = taskId ∧ task.status = .pending) :
    ∃ task ∈ amend Task.id id f tasks, task.id = taskId ∧ task.status = .pending := by
  obtain ⟨task, htask, hid, hpending⟩ := h
  refine ⟨task, List.mem_map.mpr ⟨task, htask, ?_⟩, hid, hpending⟩
  rw [if_neg (hid ▸ hne)]

theorem updated_next (h : Updated store) (event : Event) :
    Updated (next p allocations store event) := by
  cases event with
  | read request =>
      rcases readTask_cases request store with hsame | ⟨row, -, -, hread⟩
      · rw [next, hsame]
        exact h
      · rw [next, hread]
        refine ⟨fun other hother hupdated => ?_, fun taskId => ?_⟩
        · rcases List.mem_append.mp hother with hold | hnew
          · exact h.pending other hold hupdated
          · rw [List.mem_singleton.mp hnew] at hupdated
            cases hupdated
        · rw [List.countP_append]
          exact h.once taskId
  | quota position =>
      rcases applyQuota_cases (p := p) allocations position store with hsame |
        ⟨transaction, htransaction, -, ⟨-, happlied⟩ | ⟨quota, -, -, ⟨-, happlied⟩ | happlied⟩⟩
      · rw [next, hsame]
        exact h
      · rw [next, happlied]
        exact updated_set h htransaction rfl rfl
      · rw [next, happlied]
        exact updated_set h htransaction rfl rfl
      · rw [next, happlied]
        exact updated_erase h
  | update position =>
      rcases update_cases position store with hsame |
        ⟨transaction, htransaction, -, -, hwaits, ⟨hclaims, hupdate⟩ | hupdate⟩
      · rw [next, hsame]
        exact h
      · obtain ⟨task, htask, hpending, -⟩ := hclaims
        rw [next, hupdate]
        refine ⟨fun other hother hupdated => ?_, fun taskId => ?_⟩
        · rcases List.mem_or_eq_of_mem_set hother with hold | rfl
          · exact h.pending other hold hupdated
          · exact ⟨task, mem_of_lookup htask, key_of_lookup htask, hpending⟩
        · by_cases hid : transaction.row.id = taskId
          · refine countP_set_le_one fun other hother => ?_
            refine Bool.and_eq_false_imp.mpr fun hupdated => decide_eq_false fun hid' => ?_
            exact hwaits ⟨other, hother, hupdated, .inl (hid'.trans hid.symm)⟩
          · rw [countP_set_of_eq htransaction (by simp [hid])]
            exact h.once taskId
      · rw [next, hupdate]
        exact updated_erase h
  | commit position =>
      rcases commit_cases (p := p) position store with hsame |
        ⟨transaction, htransaction, hupdated, hcommit⟩
      · rw [next, hsame]
        exact h
      · rw [next, hcommit]
        refine ⟨fun other hother hupdated' => ?_, (updated_erase h).once⟩
        refine exists_pending_amend (fun hid => ?_)
          (h.pending other (List.mem_of_mem_eraseIdx hother) hupdated')
        have hlone := not_of_countP_le_one (h.once transaction.row.id) htransaction
          (by simp [hupdated]) hother
        simp [hupdated', hid] at hlone
  | finish taskId status =>
      rcases finish_cases taskId status.val store with hsame | ⟨hfree, hfinish⟩
      · rw [next, hsame]
        exact h
      · rw [next, hfinish]
        refine ⟨fun other hother hupdated => ?_, h.once⟩
        exact exists_pending_amend (hfree other hother hupdated)
          (h.pending other hother hupdated)

theorem updated_after (events : List Event) : Updated (after p allocations table events) := by
  induction events using List.reverseRecOn with
  | nil => exact updated_start
  | append_singleton events event ih =>
      rw [after, stateAfter_append_singleton]
      exact updated_next ih event

theorem runs_of_completed {event : Event} (hupdated : Updated store)
    (h : completed store event = some transaction) :
    Runs (next p allocations store event) transaction.row.id := by
  obtain ⟨position, -, htransaction, hwritten⟩ := completed_eq_some h
  obtain ⟨task, htask, hid, -⟩ :=
    hupdated.pending transaction (mem_of_getElem? htransaction) hwritten
  rw [Runs, tasks_next_of_completed h]
  refine ⟨_, List.mem_map_of_mem htask, ?_⟩
  rw [if_pos hid]
  exact ⟨hid, rfl⟩

theorem not_runs_of_completed {event : Event} (htracked : Tracked p table store)
    (hupdated : Updated store) (h : completed store event = some transaction) :
    ¬ Runs store transaction.row.id := by
  obtain ⟨position, -, htransaction, hwritten⟩ := completed_eq_some h
  obtain ⟨task, htask, hid, hpending⟩ :=
    hupdated.pending transaction (mem_of_getElem? htransaction) hwritten
  rintro ⟨other, hother, hid', hrunning⟩
  rw [eq_of_id htracked hother htask (hid'.trans hid.symm), hpending] at hrunning
  cases hrunning

/-! ### The lock of an allocation -/

def Names (p : Platform) (allocationId : String) (request : Request) : Prop :=
  ∃ allocation, (request.workspaceQuotaDecision.bind fun payload =>
      payload.get? "allocation") = some (.obj allocation) ∧
    cleanString p (Dict.get? allocation "allocation_id") = some allocationId

variable {allocationId : String} {quota : Quota} {row : Task} {request : Request}

theorem quotaOf_eq (row : Task) (h : Names p allocationId request) :
    ∃ metadata, quotaOf p row request.workspaceQuotaDecision =
      (cleanText row.workspaceId).bind fun workspaceId =>
        (row.queueShard.bind cleanText).map fun queueShard =>
          ⟨allocationId, workspaceId, queueShard, metadata⟩ := by
  obtain ⟨allocation, hallocation, hid⟩ := h
  refine ⟨Dict.get? allocation "metadata", ?_⟩
  rw [quotaOf, hallocation]
  simp only [hid]
  cases cleanText row.workspaceId with
  | none => rfl
  | some workspaceId => cases row.queueShard.bind cleanText <;> rfl

theorem quotaOf_eq_some (h : Names p allocationId request)
    (hquota : quotaOf p row request.workspaceQuotaDecision = some quota) :
    quota.allocationId = allocationId ∧ cleanText row.workspaceId = some quota.workspaceId ∧
      row.queueShard.bind cleanText = some quota.queueShard := by
  obtain ⟨metadata, heq⟩ := quotaOf_eq row h
  rw [hquota] at heq
  obtain ⟨workspaceId, hworkspace, hshard⟩ := Option.bind_eq_some_iff.mp heq.symm
  obtain ⟨queueShard, hqueue, rfl⟩ := Option.map_eq_some_iff.mp hshard
  exact ⟨rfl, hworkspace, hqueue⟩

theorem quotaOf_congr {decision : Option Dict} (hworkspace : task.workspaceId = row.workspaceId)
    (hshard : task.queueShard = row.queueShard) :
    quotaOf p task decision = quotaOf p row decision := by
  rw [quotaOf, quotaOf, hworkspace, hshard]

theorem unasked_of_quotaOf (h : Names p allocationId request)
    (hquota : quotaOf p row request.workspaceQuotaDecision = none) :
    cleanText row.workspaceId = none ∨ row.queueShard.bind cleanText = none := by
  obtain ⟨metadata, heq⟩ := quotaOf_eq row h
  rw [hquota] at heq
  cases hworkspace : cleanText row.workspaceId with
  | none => exact .inl rfl
  | some workspaceId =>
      rw [hworkspace, Option.bind_some] at heq
      exact .inr (Option.map_eq_none_iff.mp heq.symm)

theorem cleanText_ne_none {text cleaned : String} (h : cleanText text = some cleaned) :
    cleanText cleaned ≠ none := by
  have hstrip := cleanText_eq_some h
  intro hnone
  have hblank : Blank (strip text) := by
    rw [hstrip, ← strip_eq_empty_iff]
    by_contra hne
    rw [cleanText, if_neg hne] at hnone
    cases hnone
  rw [cleanText, if_pos (strip_eq_empty_of_blank hblank)] at h
  cases h

theorem not_unasked_of_runningIn {selectors : List String}
    (h : Names p allocationId request)
    (hdecision : cleanText row.workspaceId = some quota.workspaceId ∧
      row.queueShard.bind cleanText = some quota.queueShard)
    (hrunning : RunningIn p quota.workspaceId quota.queueShard selectors task) :
    quotaOf p task request.workspaceQuotaDecision ≠ none := by
  intro hunasked
  rcases unasked_of_quotaOf h hunasked with hnone | hnone
  · rw [hrunning.1] at hnone
    exact cleanText_ne_none hdecision.1 hnone
  · obtain ⟨shard, -, hshard⟩ := Option.bind_eq_some_iff.mp hdecision.2
    rw [hrunning.2.1] at hnone
    exact cleanText_ne_none hshard hnone

/-- One open claim holds the lock, and the quota has room for its task. -/
structure Limited (p : Platform) (allocations : List Allocation) (allocationId : String)
    (store : Store) : Prop where
  names : ∀ transaction ∈ store.transactions, Names p allocationId transaction.request
  waiting : ∀ transaction ∈ store.transactions, transaction.admitted = false →
    transaction.lock = none
  admitted : ∀ transaction ∈ store.transactions, transaction.updated = true →
    transaction.admitted = true
  locked : ∀ transaction ∈ store.transactions, transaction.admitted = true → ∀ quota,
    quotaOf p transaction.row transaction.request.workspaceQuotaDecision = some quota →
    transaction.lock = some allocationId
  single : store.transactions.countP (fun transaction => transaction.lock.isSome) ≤ 1
  lock : ∀ transaction ∈ store.transactions, ∀ held ∈ transaction.lock, held = allocationId
  room : ∀ transaction ∈ store.transactions, transaction.lock = some allocationId → ∀ quota,
    quotaOf p transaction.row transaction.request.workspaceQuotaDecision = some quota →
    quotaAllows p allocations quota transaction.row.id store.tasks

theorem limited_start : Limited p allocations allocationId table.store where
  names _ h := absurd h List.not_mem_nil
  waiting _ h := absurd h List.not_mem_nil
  admitted _ h := absurd h List.not_mem_nil
  locked _ h := absurd h List.not_mem_nil
  single := Nat.zero_le _
  lock _ h := absurd h List.not_mem_nil
  room _ h := absurd h List.not_mem_nil

theorem limited_erase (h : Limited p allocations allocationId store) :
    Limited p allocations allocationId
      { store with transactions := store.transactions.eraseIdx position } where
  names other hother := h.names other (List.mem_of_mem_eraseIdx hother)
  waiting other hother := h.waiting other (List.mem_of_mem_eraseIdx hother)
  admitted other hother := h.admitted other (List.mem_of_mem_eraseIdx hother)
  locked other hother := h.locked other (List.mem_of_mem_eraseIdx hother)
  single := (List.eraseIdx_sublist ..).countP_le.trans h.single
  lock other hother := h.lock other (List.mem_of_mem_eraseIdx hother)
  room other hother := h.room other (List.mem_of_mem_eraseIdx hother)

theorem quotaAllows_amend {id taskId : String} {f : Task → Task} {tasks : List Task}
    (hid : ∀ task, (f task).id = task.id)
    (hcounted : ∀ task ∈ tasks, task.id = id → ∀ selectors,
      RunningIn p quota.workspaceId quota.queueShard selectors (f task) →
      RunningIn p quota.workspaceId quota.queueShard selectors task)
    (h : quotaAllows p allocations quota taskId tasks) :
    quotaAllows p allocations quota taskId (amend Task.id id f tasks) := by
  obtain ⟨locked, hlocked, henabled, hroom⟩ := h
  refine ⟨locked, hlocked, henabled, lt_of_le_of_lt (Int.ofNat_le.mpr ?_) hroom⟩
  refine countP_amend_le fun task htask hsame hafter => ?_
  rw [hid] at hafter
  exact ⟨hafter.1, hcounted task htask hsame _ hafter.2⟩

theorem lock_eq_none_of_erase (h : Limited p allocations allocationId store)
    (htransaction : store.transactions[position]? = some transaction) {other : Transaction}
    (hother : other ∈ store.transactions.eraseIdx position)
    (hlock : other.lock = some allocationId) : transaction.lock = none := by
  cases hheld : transaction.lock with
  | none => rfl
  | some held =>
      have hlone := not_of_countP_le_one h.single htransaction (by rw [hheld]; rfl) hother
      rw [hlock] at hlone
      cases hlone

theorem limited_readTask (h : Limited p allocations allocationId store)
    (hnames : Names p allocationId request) (row : Task) :
    Limited p allocations allocationId
      { store with transactions := store.transactions ++ [⟨request, row, false, none, false⟩] } := by
  have hcases : ∀ {holds : Transaction → Prop},
      (∀ transaction ∈ store.transactions, holds transaction) → holds ⟨request, row, false, none, false⟩ →
      ∀ transaction ∈ store.transactions ++ [⟨request, row, false, none, false⟩], holds transaction := by
    intro holds hold hnew transaction hmem
    rcases List.mem_append.mp hmem with hmem | hmem
    · exact hold transaction hmem
    · rw [List.mem_singleton.mp hmem]
      exact hnew
  refine ⟨hcases h.names hnames, hcases h.waiting fun _ => rfl,
    hcases h.admitted fun hupdated => ?_, hcases h.locked fun hadmitted => ?_, ?_, hcases h.lock fun _ hheld => ?_,
    hcases h.room fun hlock => ?_⟩
  · cases hupdated
  · cases hadmitted
  · rw [List.countP_append]
    exact h.single
  · cases hheld
  · cases hlock

theorem limited_set (h : Limited p allocations allocationId store)
    (htransaction : store.transactions[position]? = some transaction) {later : Transaction}
    (hrequest : later.request = transaction.request) (hadmitted : later.admitted = true)
    (hlocked : ∀ quota, quotaOf p later.row later.request.workspaceQuotaDecision = some quota →
      later.lock = some allocationId ∧
        quotaAllows p allocations quota later.row.id store.tasks)
    (hlock : ∀ held ∈ later.lock, held = allocationId)
    (hsingle : (store.transactions.set position later).countP
      (fun transaction => transaction.lock.isSome) ≤ 1) :
    Limited p allocations allocationId
      { store with transactions := store.transactions.set position later } := by
  have hcases : ∀ {holds : Transaction → Prop},
      (∀ transaction ∈ store.transactions, holds transaction) → holds later →
      ∀ transaction ∈ store.transactions.set position later, holds transaction := by
    intro holds hold hnew transaction hmem
    rcases List.mem_or_eq_of_mem_set hmem with hmem | rfl
    · exact hold transaction hmem
    · exact hnew
  refine ⟨hcases h.names ?_, hcases h.waiting ?_,
    hcases h.admitted fun _ => hadmitted, hcases h.locked ?_, hsingle,
    hcases h.lock hlock, hcases h.room ?_⟩
  · rw [hrequest]
    exact h.names transaction (mem_of_getElem? htransaction)
  · intro hunadmitted
    rw [hadmitted] at hunadmitted
    cases hunadmitted
  · exact fun _ quota hquota => (hlocked quota hquota).1
  · exact fun _ quota hquota => (hlocked quota hquota).2

theorem limited_next (htracked : Tracked p table store)
    (h : Limited p allocations allocationId store) {event : Event}
    (hnames : ∀ request, event = .read request → Names p allocationId request) :
    Limited p allocations allocationId (next p allocations store event) := by
  cases event with
  | read request =>
      rcases readTask_cases request store with hsame | ⟨row, -, -, hread⟩
      · rw [next, hsame]
        exact h
      · rw [next, hread]
        exact limited_readTask h (hnames request rfl) row
  | quota position =>
      rcases applyQuota_cases (p := p) allocations position store with hsame |
        ⟨transaction, htransaction, hadmitted, ⟨hquota, happlied⟩ |
          ⟨quota, hquota, hfree, ⟨hallows, happlied⟩ | happlied⟩⟩
      · rw [next, hsame]
        exact h
      · have hwaiting := h.waiting transaction (mem_of_getElem? htransaction) hadmitted
        rw [next, happlied]
        refine limited_set h htransaction rfl rfl (fun quota hquota' => ?_) (fun held hheld => ?_)
          (le_of_eq_of_le (countP_set_of_eq htransaction (by rfl)) h.single)
        · rw [hquota] at hquota'
          cases hquota'
        · rw [hwaiting] at hheld
          cases hheld
      · have hmem := mem_of_getElem? htransaction
        have hid := (quotaOf_eq_some (h.names transaction hmem) hquota).1
        rw [next, happlied]
        refine limited_set h htransaction rfl rfl (fun quota' hquota' => ?_) (fun held hheld => ?_)
          (countP_set_le_one fun other hother => ?_)
        · rw [hquota] at hquota'
          exact ⟨congrArg some hid, Option.some.inj hquota' ▸ hallows⟩
        · exact (Option.some.inj hheld).symm.trans hid
        · cases hheld : other.lock with
          | none => rfl
          | some held =>
              have hsame := h.lock other hother held hheld
              exact absurd (hheld.trans (congrArg some (hsame.trans hid.symm)))
                (hfree other hother)
      · rw [next, happlied]
        exact limited_erase h
  | update position =>
      rcases update_cases position store with hsame |
        ⟨transaction, htransaction, hadmitted, -, -, ⟨-, hupdate⟩ | hupdate⟩
      · rw [next, hsame]
        exact h
      · have hmem := mem_of_getElem? htransaction
        rw [next, hupdate]
        refine limited_set h htransaction rfl hadmitted (fun quota hquota => ?_)
          (h.lock transaction hmem) (le_of_eq_of_le (countP_set_of_eq htransaction (by rfl)) h.single)
        have hlock := h.locked transaction hmem hadmitted quota hquota
        exact ⟨hlock, h.room transaction hmem hlock quota hquota⟩
      · rw [next, hupdate]
        exact limited_erase h
  | commit position =>
      rcases commit_cases (p := p) position store with hsame |
        ⟨transaction, htransaction, hupdated, hcommit⟩
      · rw [next, hsame]
        exact h
      · have hmem := mem_of_getElem? htransaction
        have herased : Limited p allocations allocationId
            { store with transactions := store.transactions.eraseIdx position } := limited_erase h
        rw [next, hcommit]
        refine ⟨herased.names, herased.waiting, herased.admitted, herased.locked,
          herased.single, herased.lock, ?_⟩
        intro other hother hlock quota hquota
        refine quotaAllows_amend (fun _ => rfl) (fun task htask hid selectors hrunning => ?_)
          (herased.room other hother hlock quota hquota)
        -- Another transaction has the lock, so this one was not asked for a workspace and a shard.
        have hunlocked := lock_eq_none_of_erase h htransaction hother hlock
        have hunasked : quotaOf p transaction.row
            transaction.request.workspaceQuotaDecision = none := by
          cases hasked : quotaOf p transaction.row transaction.request.workspaceQuotaDecision with
          | none => rfl
          | some asked =>
              rw [h.locked transaction hmem (h.admitted transaction hmem hupdated) asked hasked]
                at hunlocked
              cases hunlocked
        have hfixed := fixed_of_mem htracked hmem htask hid
        refine absurd ?_ (not_unasked_of_runningIn (h.names transaction hmem)
          (quotaOf_eq_some (h.names other (List.mem_of_mem_eraseIdx hother)) hquota).2 hrunning)
        rw [← hunasked]
        exact quotaOf_congr (congrArg Fixed.workspaceId hfixed)
          (congrArg Fixed.queueShard hfixed)
  | finish taskId status =>
      rcases finish_cases taskId status.val store with hsame | ⟨-, hfinish⟩
      · rw [next, hsame]
        exact h
      · rw [next, hfinish]
        refine ⟨h.names, h.waiting, h.admitted, h.locked, h.single, h.lock, ?_⟩
        intro other hother hlock quota hquota
        refine quotaAllows_amend (fun _ => rfl) (fun task _ _ selectors hrunning => ?_)
          (h.room other hother hlock quota hquota)
        exact absurd hrunning.2.2.1 status.property

theorem limited_after {events : List Event}
    (hnames : ∀ request, Event.read request ∈ events → Names p allocationId request) :
    Limited p allocations allocationId (after p allocations table events) := by
  induction events using List.reverseRecOn with
  | nil => exact limited_start
  | append_singleton events event ih =>
      rw [after, stateAfter_append_singleton]
      refine limited_next (tracked_after events)
        (ih fun request hread => hnames request (List.mem_append_left _ hread)) ?_
      rintro request rfl
      exact hnames request (List.mem_append_right _ (List.mem_singleton.mpr rfl))

/-! ### The limit -/

/-- The running tasks of the workspace and the shard that the claimed row names, as the quota
cleans them, and of the selectors are within the limit. -/
def WithinLimit (p : Platform) (allocations : List Allocation) (allocationId : String)
    (transaction : Transaction) (tasks : List Task) : Prop :=
  ∀ workspaceId ∈ cleanText transaction.row.workspaceId,
    ∀ queueShard ∈ transaction.row.queueShard.bind cleanText,
      ∃ quota ∈ quotaOf p transaction.row transaction.request.workspaceQuotaDecision,
        ∃ locked ∈ lookup Allocation.allocationId allocationId allocations,
          cleanText locked.state = some "enabled" ∧
            ((tasks.countP fun task => decide (RunningIn p workspaceId queueShard
              (quota.selectors p locked) task) : ℕ) : ℤ) ≤ locked.limit

theorem withinLimit_of_quotaAllows (hnodup : (store.tasks.map Task.id).Nodup)
    (hquota : quotaOf p transaction.row transaction.request.workspaceQuotaDecision = some quota)
    (hallows : quotaAllows p allocations quota transaction.row.id store.tasks)
    (hnames : Names p allocationId transaction.request) :
    WithinLimit p allocations allocationId transaction
      (amend Task.id transaction.row.id (claimed p transaction) store.tasks) := by
  obtain ⟨hid, hworkspace, hshard⟩ := quotaOf_eq_some hnames hquota
  intro workspaceId hworkspaceId queueShard hqueueShard
  rw [Option.mem_def, hworkspace, Option.some.injEq] at hworkspaceId
  rw [Option.mem_def, hshard, Option.some.injEq] at hqueueShard
  subst hworkspaceId hqueueShard
  obtain ⟨locked, hlocked, henabled, hroom⟩ := hallows
  rw [hid] at hlocked
  refine ⟨quota, hquota, locked, hlocked, henabled, ?_⟩
  have hcount : (amend Task.id transaction.row.id (claimed p transaction) store.tasks).countP
      (fun task => decide (RunningIn p quota.workspaceId quota.queueShard
        (quota.selectors p locked) task)) ≤
      store.tasks.countP (fun task => decide (task.id ≠ transaction.row.id ∧
        RunningIn p quota.workspaceId quota.queueShard (quota.selectors p locked) task)) + 1 :=
    countP_amend_le_succ hnodup
  rw [activeCount] at hroom
  omega

theorem withinLimit_of_completed {events : List Event} {event : Event}
    (hnames : ∀ request, Event.read request ∈ events → Names p allocationId request)
    (h : completed (after p allocations table events) event = some transaction) :
    WithinLimit p allocations allocationId transaction
      (after p allocations table (events ++ [event])).tasks := by
  have hlimited : Limited p allocations allocationId (after p allocations table events) :=
    limited_after hnames
  have htracked : Tracked p table (after p allocations table events) := tracked_after events
  obtain ⟨position, -, htransaction, hupdated⟩ := completed_eq_some h
  have hmem := mem_of_getElem? htransaction
  have htasks : (after p allocations table (events ++ [event])).tasks =
      amend Task.id transaction.row.id (claimed p transaction)
        (after p allocations table events).tasks := by
    rw [after, stateAfter_append_singleton]
    exact tasks_next_of_completed h
  intro workspaceId hworkspaceId queueShard hqueueShard
  cases hquota : quotaOf p transaction.row transaction.request.workspaceQuotaDecision with
  | none =>
      rcases unasked_of_quotaOf (hlimited.names transaction hmem) hquota with hnone | hnone
      · rw [hnone] at hworkspaceId
        cases hworkspaceId
      · rw [hnone] at hqueueShard
        cases hqueueShard
  | some quota =>
      have hlock := hlimited.locked transaction hmem
        (hlimited.admitted transaction hmem hupdated) quota hquota
      have hwithin := withinLimit_of_quotaAllows (nodup_of_columns htracked.columns) hquota
        (hlimited.room transaction hmem hlock quota hquota) (hlimited.names transaction hmem)
        workspaceId hworkspaceId queueShard hqueueShard
      rw [htasks, ← hquota]
      exact hwithin

/-! ### One claim at a time -/

theorem exists_finish_of_completed {early between : List Event} {event event' : Event}
    {first second : Transaction}
    (hfirst : completed (after p allocations table early) event = some first)
    (hsecond : completed (after p allocations table (early ++ event :: between)) event' =
      some second)
    (hid : first.row.id = second.row.id) :
    ∃ part status rest, between = part ++ .finish first.row.id status :: rest ∧
      Runs (after p allocations table (early ++ event :: part)) first.row.id ∧
      ¬ Runs (after p allocations table
        (early ++ event :: part ++ [.finish first.row.id status])) first.row.id := by
  have hcut : ∀ part : List Event, after p allocations table (early ++ event :: part) =
      stateAfter (next p allocations)
        (next p allocations (after p allocations table early) event) part := by
    intro part
    rw [after, stateAfter_append]
    rfl
  have hstart : Runs (next p allocations (after p allocations table early) event)
      first.row.id := runs_of_completed (updated_after early) hfirst
  have hend : ¬ Runs (after p allocations table (early ++ event :: between)) first.row.id := by
    rw [hid]
    exact not_runs_of_completed (tracked_after _) (updated_after _) hsecond
  rw [hcut] at hend
  obtain ⟨part, lost, rest, rfl, hpart, hlost⟩ :=
    exists_event_of_lost (fun store => Runs store first.row.id) hstart hend
  have hfinish : ∃ status, lost = .finish first.row.id status := by
    by_contra hother
    exact hlost (runs_next hpart fun status heq => hother ⟨status, heq⟩)
  obtain ⟨status, rfl⟩ := hfinish
  refine ⟨part, status, rest, rfl, ?_, ?_⟩
  · rw [hcut]
    exact hpart
  · rw [List.append_assoc, List.cons_append, hcut, stateAfter_append_singleton]
    exact hlost

/-! ### Claims one after another -/

variable (p allocations table) in
def serially (calls : List Call) : Ledger :=
  stateAfter (perform p allocations) ⟨table.rows, []⟩ calls

theorem stateAfter_update_commit {tasks : List Task} (hadmitted : transaction.admitted = true)
    (hupdated : transaction.updated = false) :
    stateAfter (next p allocations) ⟨tasks, [transaction]⟩ [.update 0, .commit 0] =
      ⟨if Claims transaction tasks then
        amend Task.id transaction.row.id (claimed p transaction) tasks else tasks, []⟩ := by
  have hwaits : ¬ Waits transaction [transaction] := by
    rintro ⟨other, hother, hother', -⟩
    rw [List.mem_singleton.mp hother, hupdated] at hother'
    cases hother'
  have hupdate : update 0 ⟨tasks, [transaction]⟩ =
      if Claims transaction tasks then ⟨tasks, [{ transaction with updated := true }]⟩
      else ⟨tasks, []⟩ := by
    rw [update]
    simp only [List.getElem?_cons_zero, hadmitted, hupdated, hwaits, not_false_eq_true, and_self,
      if_true, List.set_cons_zero, List.eraseIdx_cons_zero]
  rw [stateAfter_cons, next, hupdate]
  by_cases hclaims : Claims transaction tasks
  · rw [if_pos hclaims, if_pos hclaims]
    rfl
  · rw [if_neg hclaims, if_neg hclaims]
    rfl

theorem applyQuota_alone (p : Platform) (allocations : List Allocation) (tasks : List Task)
    (transaction : Transaction) (hadmitted : transaction.admitted = false)
    (hlock : transaction.lock = none) :
    (∀ quota ∈ quotaOf p transaction.row transaction.request.workspaceQuotaDecision,
        quotaAllows p allocations quota transaction.row.id tasks) ∧
        (∃ lock, applyQuota p allocations 0 ⟨tasks, [transaction]⟩ =
          ⟨tasks, [{ transaction with admitted := true, lock }]⟩) ∨
      (¬ ∀ quota ∈ quotaOf p transaction.row transaction.request.workspaceQuotaDecision,
        quotaAllows p allocations quota transaction.row.id tasks) ∧
        applyQuota p allocations 0 ⟨tasks, [transaction]⟩ = ⟨tasks, []⟩ := by
  rw [applyQuota]
  simp only [List.getElem?_cons_zero, hadmitted, Bool.false_eq_true, if_false]
  cases hquota : quotaOf p transaction.row transaction.request.workspaceQuotaDecision with
  | none =>
      refine .inl ⟨fun quota h => absurd h (Option.not_mem_none quota), transaction.lock, rfl⟩
  | some quota =>
      have hfree : ¬ ∃ other ∈ [transaction], other.lock = some quota.allocationId := by
        rintro ⟨other, hother, hheld⟩
        rw [List.mem_singleton.mp hother, hlock] at hheld
        cases hheld
      simp only [hfree, if_false]
      by_cases hallows : quotaAllows p allocations quota transaction.row.id tasks
      · refine .inl ⟨fun quota' hquota' => Option.some.inj hquota' ▸ hallows,
          some quota.allocationId, ?_⟩
        rw [if_pos hallows]
        rfl
      · refine .inr ⟨fun hall => hallows (hall quota rfl), ?_⟩
        rw [if_neg hallows]
        rfl

theorem tryClaimTask_of_pending (p : Platform) (allocations : List Allocation)
    {tasks : List Task}
    (hrow : lookup Task.id request.taskId tasks = some row) (hpending : row.status = .pending) :
    tryClaimTask p allocations request tasks =
      if (∀ quota ∈ quotaOf p row request.workspaceQuotaDecision,
          quotaAllows p allocations quota row.id tasks) ∧
        Claims ⟨request, row, true, none, true⟩ tasks then
        some ⟨request, row, true, none, true⟩
      else none := by
  rw [tryClaimTask, hrow]
  simp only [Option.bind_eq_bind, Option.bind_some, hpending, true_and]

/-- Without other claims open, the statements of a claim are `try_claim_task`. -/
theorem stateAfter_events (tasks : List Task) (held : List Transaction) (call : Call) :
    stateAfter (next p allocations) ⟨tasks, []⟩ call.events =
      ⟨(perform p allocations ⟨tasks, held⟩ call).tasks, []⟩ := by
  cases call with
  | finish taskId status => simp [Call.events, perform, next, finish]
  | claim request =>
      rw [Call.events, perform]
      cases hrow : lookup Task.id request.taskId tasks with
      | none =>
          have htry : tryClaimTask p allocations request tasks = none := by
            rw [tryClaimTask, hrow]
            rfl
          rw [htry]
          simp [next, readTask, hrow, applyQuota, update, commit]
      | some row =>
          by_cases hpending : row.status = .pending
          · have hread : readTask request ⟨tasks, []⟩ =
                ⟨tasks, [⟨request, row, false, none, false⟩]⟩ := by
              rw [readTask, hrow]
              simp only [hpending, if_true, List.nil_append]
            rw [stateAfter_cons, stateAfter_cons, next, hread, next]
            rcases applyQuota_alone p allocations tasks ⟨request, row, false, none, false⟩ rfl rfl
              with
              ⟨hallows, lock, happlied⟩ | ⟨hrefused, happlied⟩
            · rw [happlied, stateAfter_update_commit rfl rfl]
              by_cases hclaims : Claims ⟨request, row, true, none, true⟩ tasks
              · have hsame : Claims ⟨request, row, true, lock, false⟩ tasks := hclaims
                have htry := tryClaimTask_of_pending p allocations hrow hpending
                rw [if_pos ⟨hallows, hclaims⟩] at htry
                rw [htry]
                exact congrArg (Store.mk · []) (if_pos hsame)
              · have hsame : ¬ Claims ⟨request, row, true, lock, false⟩ tasks := hclaims
                have htry := tryClaimTask_of_pending p allocations hrow hpending
                rw [if_neg fun hall => hclaims hall.2] at htry
                rw [htry]
                exact congrArg (Store.mk · []) (if_neg hsame)
            · rw [happlied, tryClaimTask_of_pending p allocations hrow hpending, if_neg fun hall => hrefused hall.1]
              rfl
          · have htry : tryClaimTask p allocations request tasks = none := by
              rw [tryClaimTask, hrow]
              exact if_neg fun hall => hpending hall.1
            rw [htry]
            simp [next, readTask, hrow, hpending, applyQuota, update, commit]

theorem after_serially (calls : List Call) :
    after p allocations table (calls.flatMap Call.events) =
      ⟨(serially p allocations table calls).tasks, []⟩ := by
  induction calls using List.reverseRecOn with
  | nil => rfl
  | append_singleton calls call ih =>
      rw [after] at ih
      rw [List.flatMap_append, List.flatMap_singleton, after, stateAfter_append, ih,
        stateAfter_events _ (serially p allocations table calls).standing, serially, serially,
        stateAfter_append_singleton]

/-- The tasks of the claims that stand run, and no claim was made over a running key. -/
structure Apart (p : Platform) (ledger : Ledger) : Prop where
  running : ∀ transaction ∈ ledger.standing, ∃ task ∈ ledger.tasks,
    fixed p task = fixed p transaction.row ∧ task.status = .running
  pairwise : ledger.standing.Pairwise fun later earlier =>
    ∀ key ∈ earlier.row.concurrencyKey, key ∉ later.keys

theorem tryClaimTask_eq_some {tasks : List Task}
    (h : tryClaimTask p allocations request tasks = some transaction) :
    transaction.row ∈ tasks ∧ Claims transaction tasks := by
  rw [tryClaimTask] at h
  obtain ⟨row, hrow, hsome⟩ := Option.bind_eq_some_iff.mp h
  split at hsome
  · rename_i hclaims
    cases hsome
    exact ⟨mem_of_lookup hrow, hclaims.2.2⟩
  · cases hsome

theorem apart_perform {ledger : Ledger} (htracked : Tracked p table ⟨ledger.tasks, []⟩)
    (h : Apart p ledger) (call : Call) : Apart p (perform p allocations ledger call) := by
  cases call with
  | finish taskId status =>
      rw [perform]
      refine ⟨fun transaction hmem => ?_, h.pairwise.filter _⟩
      obtain ⟨hstanding, hkept⟩ := List.mem_filter.mp hmem
      obtain ⟨task, htask, hfixed, hrunning⟩ := h.running transaction hstanding
      refine ⟨task, List.mem_map.mpr ⟨task, htask, if_neg ?_⟩, hfixed, hrunning⟩
      have hid : task.id = transaction.row.id := congrArg Fixed.id hfixed
      rw [hid]
      exact of_decide_eq_true hkept
  | claim request =>
      rw [perform]
      cases hclaim : tryClaimTask p allocations request ledger.tasks with
      | none => exact h
      | some transaction =>
          obtain ⟨hrow, task, htask, hpending, hapart, -⟩ := tryClaimTask_eq_some hclaim
          have hid : task.id = transaction.row.id := key_of_lookup htask
          have hsame : task = transaction.row :=
            eq_of_id htracked (mem_of_lookup htask) hrow hid
          refine ⟨fun other hother => ?_, List.pairwise_cons.mpr ⟨fun earlier hearlier key hkey hin =>
            ?_, h.pairwise⟩⟩
          · rcases List.mem_cons.mp hother with rfl | hold
            · refine ⟨claimed p other task, List.mem_map.mpr ⟨task, mem_of_lookup htask, if_pos hid⟩,
                ?_, rfl⟩
              rw [fixed_claimed (congrArg (fixed p) hsame), hsame]
            · obtain ⟨running, hmem, hfixed, hrunning⟩ := h.running other hold
              refine ⟨_, List.mem_map_of_mem hmem, ?_⟩
              split
              · rename_i hamended
                have hclaimed : running = transaction.row :=
                  eq_of_id htracked hmem hrow hamended
                exact ⟨(fixed_claimed (congrArg (fixed p) hclaimed)).trans hfixed, rfl⟩
              · exact ⟨hfixed, hrunning⟩
          · obtain ⟨running, hmem, hfixed, hrunning⟩ := h.running earlier hearlier
            refine hapart ⟨running, hmem, fun hsameId => ?_, hrunning, key, ?_, hin⟩
            · rw [eq_of_id htracked hmem (mem_of_lookup htask) hsameId, hpending] at hrunning
              cases hrunning
            · have hkeys : running.concurrencyKey = earlier.row.concurrencyKey :=
                congrArg Fixed.concurrencyKey hfixed
              rw [hkeys]
              exact hkey

theorem apart_serially (calls : List Call) : Apart p (serially p allocations table calls) := by
  induction calls using List.reverseRecOn with
  | nil => exact ⟨fun _ h => absurd h List.not_mem_nil, List.Pairwise.nil⟩
  | append_singleton calls call ih =>
      have htracked : Tracked p table (after p allocations table (calls.flatMap Call.events)) :=
        tracked_after _
      rw [after_serially] at htracked
      rw [serially, stateAfter_append_singleton]
      exact apart_perform htracked ih call

/-! ### Quota, rows and keys -/

/-- What claims leave: within the limit where every decision names the allocation, one claim
of a task until it leaves `RUNNING`, and, one after another, none under a key that a task runs
under. -/
structure Respected (p : Platform) (allocations : List Allocation) (table : TaskTable) :
    Prop where
  limit : ∀ allocationId events event transaction,
    (∀ request, Event.read request ∈ events → Names p allocationId request) →
    completed (after p allocations table events) event = some transaction →
    WithinLimit p allocations allocationId transaction
      (after p allocations table (events ++ [event])).tasks
  once : ∀ early event between event' first second,
    completed (after p allocations table early) event = some first →
    completed (after p allocations table (early ++ event :: between)) event' = some second →
    first.row.id = second.row.id →
    ∃ part status rest, between = part ++ .finish first.row.id status :: rest ∧
      Runs (after p allocations table (early ++ event :: part)) first.row.id ∧
      ¬ Runs (after p allocations table
        (early ++ event :: part ++ [.finish first.row.id status])) first.row.id
  keys : ∀ calls, (serially p allocations table calls).standing.Pairwise fun later earlier =>
    ∀ key ∈ earlier.row.concurrencyKey, key ∉ later.keys

theorem claims_respected (p : Platform) (allocations : List Allocation) (table : TaskTable) :
    Respected p allocations table where
  limit _ _ _ _ hnames h := withinLimit_of_completed hnames h
  once _ _ _ _ _ _ hfirst hsecond hid := exists_finish_of_completed hfirst hsecond hid
  keys calls := (apart_serially calls).pairwise

/-! ### Keys that are passed, and rows without a shard -/

def plain : Platform := ⟨fun _ => "a", fun _ => none, fun _ => "", fun _ => ""⟩

def pendingTask (id : String) (queueShard : Option String) : Task where
  id := id
  workspaceId := "w"
  queueShard := queueShard
  packId := none
  taskType := none
  params := .null
  executionContext := .null
  concurrencyKey := none
  status := .pending
  runnerId := none
  startedAt := none
  heartbeatAt := none
  blockedReason := none
  blockedPayload := none
  frontierState := "ready"
  frontierEnqueuedAt := none

def twoTasks (queueShard : Option String) : TaskTable where
  rows := [pendingTask "t" queueShard, pendingTask "u" queueShard]
  nodup := by simp [pendingTask]

def named : Dict := [("allocation", .obj [("allocation_id", .str "a")])]

def oneAtATime : List Allocation := [⟨"a", "enabled", some 1, none⟩]

def claimOf (taskId : String) (decision : Option Dict) : Call :=
  .claim ⟨taskId, "runner", ["k"], decision, 0⟩

/-- Two tasks that are stored without a key run with the same passed key, and two tasks
without a shard run under a limit of one. -/
theorem shared_key_and_exceeded_limit :
    (∃ later earlier, later.keys = ["k"] ∧ earlier.keys = ["k"] ∧
      (serially plain [] (twoTasks (some "s")) [claimOf "t" none, claimOf "u" none]).standing =
        [later, earlier]) ∧
    (serially plain oneAtATime (twoTasks none)
      [claimOf "t" (some named), claimOf "u" (some named)]).tasks.countP
        (fun task => task.workspaceId = "w" ∧ task.queueShard = none ∧ task.status = .running) =
      2 := by
  refine ⟨⟨_, _, ?_, ?_, rfl⟩, ?_⟩ <;> decide

end MindscapeLocalCore.RunnerQueue.ClaimRuns
