import MindscapeLocalCore.RunnerQueue.TasksStore
/-!
Whether cancelling, reaping and recycling leave the status of a finished task alone. They
read it in one transaction and write in another that does not compare it again.
-/

namespace MindscapeLocalCore.RunnerQueue.FinishedTasks

open Library.Trace
open Runs (System Operation)
open TransportRepair TasksStore

variable {node : Node} {step : Step} {steps before after : List Step} {process : ℕ} {now : ℚ}

def Finished (node : Node) : Prop :=
  ∃ status, node.status = some status ∧ status.terminal = true

/-- The steps of `cancel_task`, `reap_zombie_tasks` and `recycle_visibility_timeout_item`. -/
def OfRepair : Action → Prop
  | .tryClaimTask _ _ | .finish _ => False
  | .cancelTask | .reapZombieTasks _ _ _ _ | .recycle _ _ _ | .proceed _ => True

/-- The step leaves the status of a finished task, does not go on to re-enqueue one, and
reports a cancellation only of a task that was pending or running. -/
structure Respects (node : Node) (step : Step) : Prop where
  kept : OfRepair step.action → Finished node → (next node step).status = node.status
  notRequeued : ∀ packId task now, step.action = .proceed now →
    node.activities step.process = .requeueing packId task → Finished node →
      ∀ operation, (next node step).activities step.process ≠ .transporting operation
  cancelled : cancelAnswer node step = some true →
    node.status = some .pending ∨ node.status = some .running

def written : Activity → Option TaskStatus
  | .cancelling => some .cancelledByUser
  | .reaping => some .failed
  | .requeueing _ _ => some .pending
  | .idle | .transporting _ | .transported => none

/-- A write of `cancel_task` and of recycling finds a task that is not finished, a write
of the reaper one that is not finished or has failed. -/
def FindsUnfinished (node : Node) (step : Step) : Prop :=
  ∀ now, step.action = .proceed now →
    (written (node.activities step.process)).isSome → Finished node →
      node.activities step.process = .reaping ∧ node.status = some .failed

/-! ### What a step writes -/

theorem status_writeStatus (status : TaskStatus) :
    (node.writeStatus status).status = node.status.map fun _ => status := by
  rw [Node.writeStatus, Node.status, Node.status]
  cases hrow : node.row with
  | none => simp [updateTaskStatus, hrow]
  | some task =>
      by_cases hrunning : status = .running
      · simp [updateTaskStatus, hrunning]
      · cases hterminal : status.terminal <;> simp [updateTaskStatus, hrunning, hterminal]

theorem status_proceed :
    (node.proceed process now).status =
      match written (node.activities process) with
      | none => node.status
      | some status => node.status.map fun _ => status := by
  rw [Node.proceed]
  cases hactivity : node.activities process with
  | idle => rfl
  | cancelling => exact status_writeStatus .cancelledByUser
  | reaping => exact status_writeStatus .failed
  | requeueing packId task =>
      rw [Node.status, Node.status]
      cases hrow : node.row with
      | none => simp [updateTask, Node.setActivity, written, hrow]
      | some found => rfl
  | transporting operation => rfl
  | transported => rfl

theorem status_next_of_finished (h : Finished node)
    (hfinish : ∀ succeeded, step.action ≠ .finish succeeded)
    (hwritten : ∀ now, step.action = .proceed now →
      written (node.activities step.process) = none ∨
        written (node.activities step.process) = node.status) :
    (next node step).status = node.status := by
  obtain ⟨status, hstatus, hterminal⟩ := h
  rw [next]
  cases haction : step.action with
  | tryClaimTask now allowed =>
      obtain ⟨task, hrow, rfl⟩ := Option.map_eq_some_iff.mp hstatus
      have hpending : task.status ≠ .pending := by
        intro hpending
        rw [hpending] at hterminal
        exact Bool.false_ne_true hterminal
      have hclaim : tryClaimTask now allowed node.row = (false, node.row) := by
        rw [hrow, tryClaimTask, if_pos hpending]
      simp only [hclaim]
  | finish succeeded => exact absurd haction (hfinish succeeded)
  | cancelTask => rfl
  | reapZombieTasks => rfl
  | recycle => rfl
  | proceed now =>
      simp only
      rw [status_proceed]
      rcases hwritten now haction with hnone | hsame
      · rw [hnone]
      · rw [hsame, hstatus]
        rfl

theorem terminal_of_finished {status : TaskStatus} (h : Finished node)
    (hstatus : node.status = some status) : status.terminal = true := by
  obtain ⟨found, hfound, hterminal⟩ := h
  rwa [Option.some.inj (hstatus.symm.trans hfound)]

theorem cancelAnswer_of_cancelling (haction : step.action = .proceed now)
    (hactivity : node.activities step.process = .cancelling) (h : Finished node) :
    cancelAnswer node step = some true := by
  obtain ⟨status, hstatus, -⟩ := h
  obtain ⟨task, hrow, -⟩ := Option.map_eq_some_iff.mp hstatus
  simp [cancelAnswer, haction, hactivity, hrow, updateTaskStatus, TaskStatus.terminal]

theorem findsUnfinished_of_respects (h : Respects node step) : FindsUnfinished node step := by
  intro now haction hwritten hfinished
  have hrepair : OfRepair step.action := by
    rw [haction]
    trivial
  have hkept := h.kept hrepair hfinished
  rw [next, haction] at hkept
  simp only [status_proceed] at hkept
  obtain ⟨status, hstatus, hterminal⟩ := hfinished
  cases hactivity : node.activities step.process with
  | cancelling =>
      rcases h.cancelled (cancelAnswer_of_cancelling haction hactivity ⟨status, hstatus, hterminal⟩)
        with hpending | hrunning
      · exact absurd (terminal_of_finished ⟨status, hstatus, hterminal⟩ hpending) Bool.false_ne_true
      · exact absurd (terminal_of_finished ⟨status, hstatus, hterminal⟩ hrunning) Bool.false_ne_true
  | reaping =>
      rw [hactivity, hstatus] at hkept
      exact ⟨rfl, hstatus.trans hkept.symm⟩
  | requeueing packId task =>
      rw [hactivity, hstatus] at hkept
      obtain rfl : TaskStatus.pending = status := Option.some.inj hkept
      exact absurd hterminal Bool.false_ne_true
  | idle =>
      rw [hactivity] at hwritten
      exact absurd hwritten Bool.false_ne_true
  | transporting operation =>
      rw [hactivity] at hwritten
      exact absurd hwritten Bool.false_ne_true
  | transported =>
      rw [hactivity] at hwritten
      exact absurd hwritten Bool.false_ne_true

theorem cancelling_of_cancelAnswer (h : cancelAnswer node step = some true) :
    (∃ now, step.action = .proceed now) ∧ node.activities step.process = .cancelling ∧
      ∃ status, node.status = some status := by
  rw [cancelAnswer] at h
  cases haction : step.action with
  | proceed now =>
      rw [haction] at h
      cases hactivity : node.activities step.process with
      | cancelling =>
          refine ⟨⟨now, rfl⟩, rfl, ?_⟩
          cases hrow : node.row with
          | none => simp [hactivity, hrow, updateTaskStatus] at h
          | some task => exact ⟨task.status, by rw [Node.status, hrow]; rfl⟩
      | idle | reaping | requeueing _ _ | transporting _ | transported =>
          rw [hactivity] at h
          exact absurd h.symm (Option.some_ne_none _)
  | cancelTask =>
      rw [haction] at h
      cases hcancellable : cancellable node.row <;> simp [hcancellable] at h
  | tryClaimTask _ _ | finish _ | reapZombieTasks _ _ _ _ | recycle _ _ _ =>
      rw [haction] at h
      exact absurd h.symm (Option.some_ne_none _)

theorem unwritten_of_findsUnfinished (h : FindsUnfinished node step)
    (haction : step.action = .proceed now) (hfinished : Finished node) :
    written (node.activities step.process) = none ∨
      written (node.activities step.process) = node.status := by
  cases hwritten : written (node.activities step.process) with
  | none => exact .inl rfl
  | some status =>
      obtain ⟨hreaping, hfailed⟩ := h now haction (by rw [hwritten]; rfl) hfinished
      rw [hreaping] at hwritten
      exact .inr (hwritten.symm.trans hfailed.symm)

theorem respects_of_findsUnfinished (h : FindsUnfinished node step) : Respects node step where
  kept hrepair hfinished := by
    apply status_next_of_finished hfinished
    · intro succeeded haction
      rw [haction] at hrepair
      exact hrepair
    · intro now haction
      exact unwritten_of_findsUnfinished h haction hfinished
  notRequeued packId task now haction hactivity hfinished := by
    have hwritten : (written (node.activities step.process)).isSome := by rw [hactivity]; rfl
    have hreaping := (h now haction hwritten hfinished).1
    exact Activity.noConfusion (hactivity.symm.trans hreaping)
  cancelled hanswer := by
    obtain ⟨⟨now, haction⟩, hactivity, status, hstatus⟩ := cancelling_of_cancelAnswer hanswer
    have hwritten : (written (node.activities step.process)).isSome := by rw [hactivity]; rfl
    have hunfinished : status.terminal = false := by
      by_contra hterminal
      have hreaping := (h now haction hwritten
        ⟨status, hstatus, Bool.eq_true_of_not_eq_false hterminal⟩).1
      exact Activity.noConfusion (hactivity.symm.trans hreaping)
    rw [hstatus]
    cases status with
    | pending => exact .inl rfl
    | running => exact .inr rfl
    | succeeded | failed | cancelledByUser | expired => exact absurd hunfinished.symm Bool.false_ne_true

theorem respects_iff : Respects node step ↔ FindsUnfinished node step :=
  ⟨findsUnfinished_of_respects, respects_of_findsUnfinished⟩

/-! ### Runs -/

theorem status_stateAfter (hfinished : Finished node)
    (hfinish : ∀ step ∈ steps, ∀ succeeded, step.action ≠ .finish succeeded)
    (h : Along next FindsUnfinished node steps) :
    (stateAfter next node steps).status = node.status := by
  induction steps generalizing node with
  | nil => rfl
  | cons step rest ih =>
      have hstep : (next node step).status = node.status :=
        status_next_of_finished hfinished (hfinish step List.mem_cons_self)
          fun now haction => unwritten_of_findsUnfinished h.1 haction hfinished
      have hlater : Finished (next node step) := by
        obtain ⟨status, hstatus, hterminal⟩ := hfinished
        exact ⟨status, hstep.trans hstatus, hterminal⟩
      rw [stateAfter_cons,
        ih hlater (fun other hmem => hfinish other (List.mem_cons_of_mem _ hmem)) h.2, hstep]

/-- Cancelling, reaping and recycling leave a finished task alone exactly when each of
their writes finds the task unfinished, or failed when the reaper writes. In such a run the
status stays from then on. -/
theorem finished_tasks_are_not_overwritten (node : Node) (steps : List Step) :
    (Along next Respects node steps ↔ Along next FindsUnfinished node steps) ∧
      (Along next FindsUnfinished node steps → ∀ before after, steps = before ++ after →
        Finished (stateAfter next node before) →
          (∀ step ∈ after, ∀ succeeded, step.action ≠ .finish succeeded) →
            (stateAfter next node steps).status = (stateAfter next node before).status) := by
  refine ⟨along_congr fun _ _ => respects_iff, ?_⟩
  rintro h before after rfl hfinished hfinish
  rw [stateAfter_append]
  exact status_stateAfter hfinished hfinish (along_append.mp h).2

/-! ### A runner finishes between a read and a write -/

def silent : Node where
  taskId := "task"
  row := some
    { id := "task"
      status := .running
      queueShard := "browser"
      blockedReason := none
      frontierState := "running"
      createdAt := 0
      startedAt := some 0 }
  queue := .initial
  activities _ := .idle

def lateReads : List Step :=
  [⟨2, .recycle "browser" 20 none⟩, ⟨3, .cancelTask⟩, ⟨3, .proceed 200⟩]

theorem succeeded_task_stays :
    (stateAfter next silent ([⟨1, .finish true⟩] ++ lateReads)).status = some .succeeded := by
  have hfinds : Along next FindsUnfinished silent ([⟨1, .finish true⟩] ++ lateReads) := by
    refine ⟨?_, ?_, ?_, ?_, trivial⟩
    · rintro now ⟨⟩
    · rintro now ⟨⟩
    · rintro now ⟨⟩
    · intro now _ hwritten
      exact absurd hwritten (by decide)
  refine ((finished_tasks_are_not_overwritten silent ([⟨1, .finish true⟩] ++ lateReads)).2
    hfinds [⟨1, .finish true⟩] lateReads rfl ⟨.succeeded, rfl, rfl⟩ ?_).trans rfl
  intro step hmem succeeded
  simp only [lateReads, List.mem_cons, List.not_mem_nil, or_false] at hmem
  rcases hmem with rfl | rfl | rfl <;> rintro ⟨⟩

def beforeRequeue : List Step := [⟨2, .recycle "browser" 20 none⟩, ⟨1, .finish true⟩]

def requeue : List Step := [⟨2, .proceed 200⟩, ⟨2, .proceed 200⟩, ⟨2, .proceed 200⟩]

def beforeCancellation : List Step := [⟨3, .cancelTask⟩, ⟨1, .finish true⟩]

/-- A task that succeeds after the reaper has read it is set back and enqueued again, and
one that succeeds after `cancel_task` has read it is reported as cancelled. -/
theorem succeeded_task_overwritten :
    ∃ node before after, (stateAfter next node before).status = some .succeeded ∧
      ¬ Along next Respects node (before ++ after) ∧
      (stateAfter next node (before ++ after)).status = some .pending ∧
      ((stateAfter next node (before ++ after)).queue.queues "browser").pending = ["task"] ∧
      ∃ reads write, (stateAfter next node reads).status = some .succeeded ∧
        cancelAnswer (stateAfter next node reads) write = some true ∧
        (stateAfter next node (reads ++ [write])).status = some .cancelledByUser := by
  refine ⟨silent, beforeRequeue, requeue, rfl, ?_, rfl, rfl, beforeCancellation,
    ⟨3, .proceed 200⟩, rfl, rfl, rfl⟩
  intro hrespects
  have hwrite := ok_of_along next hrespects
  exact absurd (hwrite.kept trivial ⟨.succeeded, rfl, rfl⟩) (by decide)

end MindscapeLocalCore.RunnerQueue.FinishedTasks
