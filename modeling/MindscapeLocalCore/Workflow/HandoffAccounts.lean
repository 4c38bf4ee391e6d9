import MindscapeLocalCore.Workflow.HandoffHistory

/-!
A handoff workflow accounts for every step of its plan exactly when it neither loses
results of a wave nor leaves steps behind.
-/

namespace MindscapeLocalCore.Workflow.HandoffAccounts

open HandoffPlan HandoffExecution HandoffHistory Library

variable (env : Surroundings) (plan : List WorkflowStep)

def letsContinue : ErrorHandlingStrategy → Bool
  | .continueOnError => true
  | .skipStep => true
  | .retryThenContinue => true
  | .stopWorkflow => false
  | .retryThenStop => false

def Works (step : WorkflowStep) (result : StepResult) : Prop :=
  result.hasStatus "completed" = true ∨
    isErrorStatus result.status = true ∧ letsContinue step.errorHandling = true

def Settled (history : List Event) (position : ℕ) (step : WorkflowStep) : Prop :=
  .skipped position ∈ history ∨
    ∃ result, .finished position result ∈ history ∧ Works step result

structure Accounts (history : List Event) (returned : Returned) : Prop where
  /-- A step that was executed has its result in the returned steps. -/
  recorded : ∀ position step result, plan[position]? = some step →
    .finished position result ∈ history → returned.steps step.playbookCode = some result
  /-- A step whose condition was false when its dependencies were completed is skipped. -/
  refused : ∀ position step, plan[position]? = some step → .refused position ∈ history →
    .skipped position ∈ history ∧ returned.steps step.playbookCode = some skippedResult
  timely : Timely plan history
  settled : returned.status = "completed" →
    ∀ position step, plan[position]? = some step → Settled history position step

/-- The scan of the turn that begins in `s`. -/
def scan (s : Run) : List (String × Entry) × Run :=
  getReadySteps env (buildDependencyGraph plan) s.pending s

def RootHolds (s : Run) (item : String × Entry) : Prop :=
  item.1 ∉ s.completed → buildDependencyGraph plan item.1 = ∅ →
    holds env item.2.step s.results = true

/-- Steps without dependencies are not refused, no failure stops the workflow, and only the
last step of a wave pauses it. -/
structure Orderly (s : Run) : Prop where
  roots : Trace.Along (visit env (buildDependencyGraph plan)) (RootHolds env plan) s s.pending
  exits : ∀ before item after, (scan env plan s).1 = before ++ item :: after →
    shouldStopWorkflowAfterError item.2.step (resultOf env (scan env plan s).2 item) = false ∧
      ((resultOf env (scan env plan s).2 item).hasStatus "paused" = true → after = [])

def Pauses (s : Run) : Prop :=
  ∃ item ∈ (scan env plan s).1, (resultOf env (scan env plan s).2 item).hasStatus "paused" = true

/-- A scan that finds no step leaves none behind, and the steps of a wave work. -/
structure Thorough (s : Run) : Prop where
  moves : (scan env plan s).1 = [] → (scan env plan s).2.pending = []
  works : ∀ item ∈ (scan env plan s).1, Works item.2.step (resultOf env (scan env plan s).2 item)

def afterTurns (n : ℕ) (s : Run) : Run := (turn env (buildDependencyGraph plan))^[n] s

def Throughout (condition : Run → Prop) (s : Run) : Prop :=
  ∀ n, (afterTurns env plan n s).returned = none → condition (afterTurns env plan n s)

/-- No turn is disorderly, and a workflow that does not pause has a code of its own for each
step and leaves none out. -/
def Accountable (s : Run) : Prop :=
  Throughout env plan (Orderly env plan) s ∧
    (Throughout env plan (fun s => ¬ Pauses env plan s) s →
      (plan.map WorkflowStep.playbookCode).Nodup ∧ Throughout env plan (Thorough env plan) s)

def Sober (history : List Event) : Prop :=
  ∀ item ∈ pendingSteps plan, buildDependencyGraph plan item.1 = ∅ →
    .refused item.2.position ∉ history

def Worked (history : List Event) : Prop :=
  ∀ item ∈ pendingSteps plan, ∀ result, .finished item.2.position result ∈ history →
    Works item.2.step result

variable {env plan} {s : Run}

section Turns

theorem turn_of_returned {returned : Returned} (h : s.returned = some returned) :
    turn env (buildDependencyGraph plan) s = s := by
  rw [turn, h]

theorem turn_of_nil (hrunning : s.returned = none) (hready : (scan env plan s).1 = []) :
    turn env (buildDependencyGraph plan) s =
      { (scan env plan s).2 with returned := some (completedResult (scan env plan s).2) } := by
  rw [turn, hrunning]
  by_cases hpending : s.pending = []
  · have hscan : (scan env plan s).2 = s := by
      rw [scan, hpending]
      rfl
    rw [hscan]
    exact if_pos hpending
  · exact (if_neg hpending).trans (if_pos hready)

theorem turn_of_wave (hrunning : s.returned = none) (hready : (scan env plan s).1 ≠ []) :
    turn env (buildDependencyGraph plan) s =
      processResults (resultOf env (scan env plan s).2) (scan env plan s).1
        (executeWave env (scan env plan s).2 (scan env plan s).1) := by
  have hpending : s.pending ≠ [] := by
    intro hnil
    rw [scan, hnil] at hready
    exact hready rfl
  rw [turn, hrunning]
  exact (if_neg hpending).trans (if_neg hready)

theorem afterTurns_of_returned {returned : Returned} (h : s.returned = some returned) (n : ℕ) :
    afterTurns env plan n s = s :=
  Function.iterate_fixed (turn_of_returned h) n

theorem throughout_of_returned {returned : Returned} (h : s.returned = some returned)
    {condition : Run → Prop} : Throughout env plan condition s := by
  intro n hrunning
  rw [afterTurns_of_returned h, h] at hrunning
  cases hrunning

theorem throughout_iff {condition : Run → Prop} (hrunning : s.returned = none) :
    Throughout env plan condition s ↔ condition s ∧
      Throughout env plan condition (turn env (buildDependencyGraph plan) s) := by
  constructor
  · exact fun h => ⟨h 0 hrunning, fun n => h (n + 1)⟩
  · rintro ⟨hfirst, hrest⟩ n hn
    cases n with
    | zero => exact hfirst
    | succ n => exact hrest n hn

theorem scan_eq (items : List (String × Entry)) :
    (getReadySteps env (buildDependencyGraph plan) items s).2 =
      Trace.stateAfter (visit env (buildDependencyGraph plan)) s items := by
  induction items generalizing s with
  | nil => rfl
  | cons item items ih => exact ih

end Turns

section Histories

theorem sober_append_iff {history events : List Event}
    (hevents : ∀ position, .refused position ∉ events) :
    Sober plan (history ++ events) ↔ Sober plan history := by
  refine forall₃_congr fun item _ _ => not_congr ?_
  rw [List.mem_append]
  exact or_iff_left (hevents item.2.position)

theorem sober_visit_iff (h : Kept plan s) {item : String × Entry} (hitem : item ∈ s.pending) :
    Sober plan (visit env (buildDependencyGraph plan) s item).history ↔
      Sober plan s.history ∧ RootHolds env plan s item := by
  have hplan := h.subset item hitem
  rw [visit]
  by_cases hdone : item.1 ∈ s.completed
  · rw [if_pos hdone]
    exact (and_iff_left fun hopen => absurd hdone hopen).symm
  · rw [if_neg hdone]
    by_cases hroot : buildDependencyGraph plan item.1 = ∅
    · rw [if_pos hroot]
      by_cases hholds : holds env item.2.step s.results = true
      · rw [if_pos hholds]
        exact (and_iff_left fun _ _ => hholds).symm
      · rw [if_neg hholds]
        refine iff_of_false (fun hsober => ?_) fun hboth => hholds (hboth.2 hdone hroot)
        exact hsober item hplan hroot (List.mem_append_right _ (List.mem_singleton.mpr rfl))
    · rw [if_neg hroot]
      have hvacuous : RootHolds env plan s item := fun _ hgraph => absurd hgraph hroot
      rw [and_iff_left hvacuous]
      split
      · split
        · rfl
        · refine forall₂_congr fun other hother => forall_congr' fun hgraph => not_congr ?_
          refine ⟨fun hmem => ?_, List.mem_append_left _⟩
          rcases List.mem_append.mp hmem with hold | hnew
          · exact hold
          · have hposition : other.2.position = item.2.position := by simpa using hnew
            rw [eq_of_position_eq hother hplan hposition] at hgraph
            exact absurd hgraph hroot
      · rfl

theorem sober_scan_iff (h : Kept plan s) :
    Sober plan (scan env plan s).2.history ↔ Sober plan s.history ∧
      Trace.Along (visit env (buildDependencyGraph plan)) (RootHolds env plan) s s.pending := by
  rw [scan, scan_eq]
  refine Trace.holds_iff_along (fun s => Sober plan s.history)
    (fun s items => Kept plan s ∧ (∀ item ∈ items, item ∈ s.pending) ∧
      (items.map Prod.fst).Nodup) ?_ ?_ ⟨h, fun _ => id, h.distinct⟩
  · rintro s item items ⟨hkept, hitems, hdistinct⟩
    obtain ⟨hne, hdistinct⟩ := List.nodup_cons.mp hdistinct
    obtain ⟨hvisit, hpending⟩ := hkept.visit env (hitems item List.mem_cons_self)
    refine ⟨hvisit, fun other hother => ?_, hdistinct⟩
    refine hpending other (hitems other (List.mem_cons_of_mem item hother)) fun hsame => ?_
    exact hne (hsame ▸ List.mem_map_of_mem hother)
  · rintro s item items ⟨hkept, hitems, -⟩
    exact sober_visit_iff hkept (hitems item List.mem_cons_self)

theorem scanned_pending (env : Surroundings) (h : Kept plan s) :
    Scanned plan s.pending s (scan env plan s).1 (scan env plan s).2 :=
  scanned h (fun _ => id) h.distinct

theorem accounts_of_sober (h : Kept plan s) (hsober : Sober plan s.history)
    {returned : Returned} (hsteps : returned.steps = s.results)
    (hsettled : returned.status = "completed" → ∀ position step, plan[position]? = some step →
      Settled s.history position step) : Accounts plan s.history returned where
  recorded position step result hstep hfinished := by
    obtain ⟨item, hitem, rfl, hresult⟩ := h.finished position result hfinished
    obtain ⟨hposition, hcode⟩ := mem_entries.mp (mem_entries_of_pending hitem)
    rw [hposition] at hstep
    rw [hsteps, ← Option.some.inj hstep, ← hcode, hresult]
  refused position step hstep hrefused := by
    obtain ⟨item, hitem, rfl, hwhy⟩ := h.refused position hrefused
    have hskipped := hwhy.resolve_left fun hroot => hsober item hitem hroot hrefused
    obtain ⟨⟨same, hsame, hposition, -, hresult⟩, -⟩ := h.skipped _ hskipped
    obtain rfl := eq_of_position_eq hsame hitem hposition
    obtain ⟨hposition, hcode⟩ := mem_entries.mp (mem_entries_of_pending hitem)
    rw [hposition] at hstep
    rw [hsteps, ← Option.some.inj hstep, ← hcode]
    exact ⟨hskipped, hresult⟩
  timely := h.timely
  settled := hsettled

theorem sober_of_accounts (h : Kept plan s) {events : List Event}
    (hevents : ∀ position, .skipped position ∉ events) {returned : Returned}
    (haccounts : Accounts plan (s.history ++ events) returned) : Sober plan s.history := by
  intro item hitem hroot hrefused
  obtain ⟨hposition, -⟩ := mem_entries.mp (mem_entries_of_pending hitem)
  obtain ⟨hskipped, -⟩ :=
    haccounts.refused _ _ hposition (List.mem_append_left _ hrefused)
  have hold := (List.mem_append.mp hskipped).resolve_right (hevents _)
  obtain ⟨⟨same, hsame, hposition', hgraph, -⟩, -⟩ := h.skipped _ hold
  rw [eq_of_position_eq hsame hitem hposition'] at hgraph
  exact hgraph hroot

theorem accounts_completed_iff (h : Kept plan s) :
    Accounts plan s.history (completedResult s) ↔ Sober plan s.history ∧
      (plan.map WorkflowStep.playbookCode).Nodup ∧ s.pending = [] ∧ Worked plan s.history := by
  constructor
  · intro haccounts
    have hsober : Sober plan s.history := by
      have happend : Accounts plan (s.history ++ []) (completedResult s) := by
        rw [List.append_nil]
        exact haccounts
      exact sober_of_accounts h (fun _ => List.not_mem_nil) happend
    have hsettled := haccounts.settled rfl
    refine ⟨hsober, entries_pending_iff.mp fun item hitem => ?_, ?_, fun item hitem r hr => ?_⟩
    · obtain ⟨hposition, hcode⟩ := mem_entries.mp hitem
      have hsame : ∀ other ∈ pendingSteps plan, other.2.position = item.2.position →
          item ∈ pendingSteps plan := by
        intro other hother hequal
        obtain ⟨hposition', hcode'⟩ := mem_entries.mp (mem_entries_of_pending hother)
        rw [hequal, hposition] at hposition'
        have hstep := Option.some.inj hposition'
        have heq : item = other := by
          refine Prod.ext (by rw [hcode, hcode', hstep]) ?_
          obtain ⟨code, position, step⟩ := item
          obtain ⟨code', position', step'⟩ := other
          obtain rfl : step = step' := hstep
          obtain rfl : position' = position := hequal
          rfl
        exact heq ▸ hother
      rcases hsettled _ _ hposition with hskipped | ⟨r, hfinished, -⟩
      · obtain ⟨⟨other, hother, hequal, -⟩, -⟩ := h.skipped _ hskipped
        exact hsame other hother hequal
      · obtain ⟨other, hother, hequal, -⟩ := h.finished _ r hfinished
        exact hsame other hother hequal
    · refine List.eq_nil_iff_forall_not_mem.mpr fun item hitem => ?_
      obtain ⟨-, hunfinished, -, hunskipped⟩ := h.untouched hitem
      obtain ⟨hposition, -⟩ := mem_entries.mp (mem_entries_of_pending (h.subset item hitem))
      rcases hsettled _ _ hposition with hskipped | ⟨r, hfinished, -⟩
      · exact hunskipped hskipped
      · exact hunfinished r hfinished
    · obtain ⟨hposition, -⟩ := mem_entries.mp (mem_entries_of_pending hitem)
      rcases hsettled _ _ hposition with hskipped | ⟨r', hfinished, hworks⟩
      · exact absurd hr ((h.skipped _ hskipped).2 r)
      · obtain ⟨first, hfirst, hequal, hresult⟩ := h.finished _ r hr
        obtain ⟨other, hother, hequal', hresult'⟩ := h.finished _ r' hfinished
        rw [eq_of_position_eq hother hfirst (hequal'.trans hequal.symm), hresult] at hresult'
        rw [Option.some.inj hresult']
        exact hworks
  · rintro ⟨hsober, hdistinct, hpending, hworked⟩
    refine accounts_of_sober h hsober rfl fun _ position step hstep => ?_
    have hitem : (step.playbookCode, Entry.mk position step) ∈ pendingSteps plan :=
      entries_pending_iff.mpr hdistinct _ (mem_entries.mpr ⟨hstep, rfl⟩)
    have hclosed : s.results step.playbookCode ≠ none := by
      intro hnone
      have hopen := (h.open_iff _ hitem).mpr hnone
      rw [hpending] at hopen
      cases hopen
    obtain ⟨r, hresult⟩ := Option.ne_none_iff_exists'.mp hclosed
    rcases h.sources _ hitem r hresult with hfinished | hskipped
    · exact .inr ⟨r, hfinished, hworked _ hitem r hfinished⟩
    · exact .inl hskipped

end Histories

section Exits

variable {ready before after : List (String × Entry)} {item : String × Entry}

theorem error_not_status {result : StepResult} (h : isErrorStatus result.status = true) :
    result.hasStatus "paused" = false ∧ result.hasStatus "completed" = false := by
  have hne : ∀ text, isErrorStatus (.str text) = false → result.hasStatus text = false := by
    intro text htext
    refine decide_eq_false fun hstatus => ?_
    cases hvalue : result.status with
    | str value =>
        rw [hvalue] at hstatus h
        rw [Option.some.inj hstatus, htext] at h
        cases h
    | _ =>
        rw [hvalue] at hstatus
        cases hstatus
  exact ⟨hne "paused" (by decide), hne "completed" (by decide)⟩

theorem not_works_of_stop {step : WorkflowStep} {result : StepResult}
    (h : shouldStopWorkflowAfterError step result = true) : ¬ Works step result := by
  rw [shouldStopWorkflowAfterError, Bool.and_eq_true] at h
  obtain ⟨herror, hstop⟩ := h
  rintro (hcompleted | ⟨-, hcontinue⟩)
  · rw [(error_not_status herror).2] at hcompleted
    cases hcompleted
  · cases hstrategy : step.errorHandling with
    | stopWorkflow => rw [hstrategy] at hcontinue; cases hcontinue
    | continueOnError => rw [hstrategy] at hstop; cases hstop
    | skipStep => rw [hstrategy] at hstop; cases hstop
    | retryThenStop => rw [hstrategy] at hcontinue; cases hcontinue
    | retryThenContinue => rw [hstrategy] at hstop; cases hstop

theorem processResults_exit {result : String × Entry → StepResult}
    (hbefore : ∀ other ∈ before, GoesOn result other) (hitem : ¬ GoesOn result item)
    (hdistinct : ((before ++ item :: after).map Prod.fst).Nodup) :
    ∃ recorded returned, Recorded result (before ++ [item]) s recorded ∧
      (processResults result (before ++ item :: after) s).history = recorded.history ∧
      (processResults result (before ++ item :: after) s).returned = some returned ∧
      returned.steps = recorded.results ∧
      (((result item).hasStatus "paused" = true ∧ returned.status = "paused") ∨
        (shouldStopWorkflowAfterError item.2.step (result item) = true ∧
          returned.status = "completed")) := by
  rw [processResults_append hbefore]
  rw [List.map_append, List.map_cons] at hdistinct
  obtain ⟨hnodup, -, hapart⟩ := List.nodup_append'.mp hdistinct
  have hrecorded : Recorded result (before ++ [item]) s
      (record (before.foldl (settle result) s) item.1 (result item)) :=
    (recorded_settle hnodup).record fun hmem => hapart hmem List.mem_cons_self
  rw [processResults]
  by_cases hpaused : (result item).hasStatus "paused" = true
  · rw [if_pos hpaused]
    exact ⟨_, _, hrecorded, rfl, rfl, rfl, .inl ⟨hpaused, rfl⟩⟩
  · have hstop : shouldStopWorkflowAfterError item.2.step (result item) = true := by
      by_contra hgo
      exact hitem ⟨eq_false_of_ne_true hpaused, eq_false_of_ne_true hgo⟩
    rw [if_neg hpaused]
    simp only [if_pos hstop]
    exact ⟨_, _, hrecorded.apply, rfl, rfl, rfl, .inr ⟨hstop, rfl⟩⟩

theorem accounts_exit_iff (h : Kept plan s) (hready : ready = before ++ item :: after)
    (hdistinct : (ready.map Prod.fst).Nodup)
    (hopen : ∀ other ∈ ready, other ∈ s.pending ∧
      dependenciesMet (buildDependencyGraph plan) s other.1 = true)
    (hbefore : ∀ other ∈ before, GoesOn (resultOf env s) other)
    (hitem : ¬ GoesOn (resultOf env s) item) :
    ∃ returned,
      (processResults (resultOf env s) ready (executeWave env s ready)).returned =
        some returned ∧
      (Accounts plan
          (processResults (resultOf env s) ready (executeWave env s ready)).history returned ↔
        Sober plan s.history ∧ after = [] ∧
          (resultOf env s item).hasStatus "paused" = true) := by
  have hmem : item ∈ ready := by
    rw [hready]
    exact List.mem_append_right before List.mem_cons_self
  have hplan := h.subset item (hopen item hmem).1
  have hnodup : ((before ++ item :: after).map Prod.fst).Nodup := hready ▸ hdistinct
  obtain ⟨recorded, returned, hrecorded, hhistory, hreturned, hsteps, hstatus⟩ :=
    processResults_exit (s := executeWave env s ready) hbefore hitem hnodup
  rw [← hready] at hhistory hreturned
  refine ⟨returned, hreturned, ?_⟩
  rw [hhistory, hrecorded.history]
  have hfinished : ∀ other ∈ ready, .finished other.2.position (resultOf env s other) ∈
      (executeWave env s ready).history := fun other hother =>
    List.mem_append_right _ (finished_mem_wave.mpr ⟨other, hother, rfl, rfl⟩)
  constructor
  · intro haccounts
    refine ⟨sober_of_accounts h (fun _ => refused_not_mem_wave.2) haccounts, ?_, ?_⟩
    · -- the results of the steps after the exit are lost
      refine List.eq_nil_iff_forall_not_mem.mpr fun last hlast => ?_
      have hlast' : last ∈ ready := by
        rw [hready]
        exact List.mem_append_right before (List.mem_cons_of_mem item hlast)
      obtain ⟨hposition, hcode⟩ :=
        mem_entries.mp (mem_entries_of_pending (h.subset last (hopen last hlast').1))
      have hresult := haccounts.recorded _ _ _ hposition (hfinished last hlast')
      have hold : last.1 ∉ (before ++ [item]).map Prod.fst := by
        rw [List.append_cons, List.map_append] at hnodup
        exact fun hmem =>
          (List.nodup_append'.mp hnodup).2.2 hmem (List.mem_map_of_mem hlast)
      rw [hsteps, ← hcode, hrecorded.old last.1 hold] at hresult
      rw [show (executeWave env s ready).results = s.results from rfl,
        (h.untouched (hopen last hlast').1).1] at hresult
      cases hresult
    · -- a failure that stops the workflow is not settled
      rcases hstatus with ⟨hpaused, -⟩ | ⟨hstop, hcompleted⟩
      · exact hpaused
      · obtain ⟨hposition, -⟩ := mem_entries.mp (mem_entries_of_pending hplan)
        obtain ⟨-, hunfinished, -, hunskipped⟩ := h.untouched (hopen item hmem).1
        rcases haccounts.settled hcompleted _ _ hposition with hskipped | ⟨r, hr, hworks⟩
        · rcases List.mem_append.mp hskipped with hold | hnew
          · exact absurd hold hunskipped
          · exact absurd hnew refused_not_mem_wave.2
        · rcases List.mem_append.mp hr with hold | hnew
          · exact absurd hold (hunfinished r)
          · obtain ⟨other, hother, hequal, rfl⟩ := finished_mem_wave.mp hnew
            rw [eq_of_position_eq (h.subset other (hopen other hother).1) hplan hequal] at hworks
            exact absurd hworks (not_works_of_stop hstop)
  · rintro ⟨hsober, rfl, hpaused⟩
    have hall : Recorded (resultOf env s) ready (executeWave env s ready) recorded := by
      rw [hready]
      rw [hready] at hrecorded
      exact hrecorded
    have hkept := h.add (added_wave h hdistinct hopen hall)
    have hsober' : Sober plan recorded.history := by
      rw [hrecorded.history]
      exact (sober_append_iff fun _ => refused_not_mem_wave.1).mpr hsober
    have hpausedStatus : returned.status = "paused" := by
      rcases hstatus with ⟨-, hstatus⟩ | ⟨hstop, -⟩
      · exact hstatus
      · rw [shouldStopWorkflowAfterError, Bool.and_eq_true] at hstop
        rw [(error_not_status hstop.1).1] at hpaused
        cases hpaused
    have haccounts := accounts_of_sober hkept hsober' hsteps fun hcompleted => by
      rw [hpausedStatus] at hcompleted
      exact absurd hcompleted (by decide)
    rw [hrecorded.history] at haccounts
    exact haccounts

end Exits

section Waves

theorem wave_spec (h : Kept plan s) (hrunning : s.returned = none)
    (hready : (scan env plan s).1 ≠ [])
    (hgoesOn : ∀ item ∈ (scan env plan s).1, GoesOn (resultOf env (scan env plan s).2) item) :
    Kept plan (turn env (buildDependencyGraph plan) s) ∧
      (turn env (buildDependencyGraph plan) s).returned = none ∧
      (turn env (buildDependencyGraph plan) s).pending.length < s.pending.length ∧
      (turn env (buildDependencyGraph plan) s).history = (scan env plan s).2.history ++
        env.interleave (scan env plan s).2 ((scan env plan s).1.map Prod.snd) := by
  have hscan := scanned_pending env h
  have hdistinct : ((scan env plan s).1.map Prod.fst).Nodup :=
    (hscan.sublist.map Prod.fst).nodup h.distinct
  have hrecorded : Recorded (resultOf env (scan env plan s).2) (scan env plan s).1
      (executeWave env (scan env plan s).2 (scan env plan s).1)
      (turn env (buildDependencyGraph plan) s) := by
    rw [turn_of_wave hrunning hready, processResults_of_goesOn hgoesOn]
    exact recorded_settle hdistinct
  have hkept := hscan.kept.add (added_wave hscan.kept hdistinct hscan.open_ready hrecorded)
  refine ⟨hkept, ?_, ?_, hrecorded.history⟩
  · rw [hrecorded.returned]
    exact hscan.returned.trans hrunning
  · obtain ⟨item, hitem⟩ := List.exists_mem_of_ne_nil _ hready
    have hgone : item ∉ (turn env (buildDependencyGraph plan) s).pending := by
      rw [hrecorded.pending]
      exact fun hboth => hboth.2 (List.mem_map_of_mem hitem)
    have hsubset : ∀ other ∈ (turn env (buildDependencyGraph plan) s).pending,
        other ∈ s.pending := by
      intro other hother
      have hplan := hkept.subset other hother
      have hscanned : other ∈ (scan env plan s).2.pending := ((hrecorded.pending other).mp hother).1
      rw [h.open_iff other hplan]
      by_contra hresult
      have hdone := (h.completed_iff other.1).mpr hresult
      rw [← (hscan.completed other.1 hdone).2] at hresult
      exact hresult ((hscan.kept.open_iff other hplan).mp hscanned)
    have hlonger : (item :: (turn env (buildDependencyGraph plan) s).pending).Nodup :=
      List.nodup_cons.mpr ⟨hgone, List.Nodup.of_map Prod.fst hkept.distinct⟩
    refine (List.subperm_of_subset hlonger fun other hother => ?_).length_le
    rcases List.mem_cons.mp hother with rfl | hother
    · exact hscan.sublist.subset hitem
    · exact hsubset other hother

theorem worked_scan_iff (env : Surroundings) (h : Kept plan s) :
    Worked plan (scan env plan s).2.history ↔ Worked plan s.history :=
  forall₃_congr fun _ _ r =>
    imp_congr ((scanned_pending env h).finished _ r) Iff.rfl

theorem worked_wave_iff (h : Kept plan s) :
    Worked plan ((scan env plan s).2.history ++
        env.interleave (scan env plan s).2 ((scan env plan s).1.map Prod.snd)) ↔
      Worked plan s.history ∧ ∀ item ∈ (scan env plan s).1,
        Works item.2.step (resultOf env (scan env plan s).2 item) := by
  have hscan := scanned_pending env h
  have hplan : ∀ item ∈ (scan env plan s).1, item ∈ pendingSteps plan :=
    fun item hitem => h.subset item (hscan.sublist.subset hitem)
  rw [← worked_scan_iff env h]
  constructor
  · intro hworked
    refine ⟨fun item hitem r hr => hworked item hitem r (List.mem_append_left _ hr),
      fun item hitem => hworked item (hplan item hitem) _ (List.mem_append_right _ ?_)⟩
    exact finished_mem_wave.mpr ⟨item, hitem, rfl, rfl⟩
  · rintro ⟨hworked, hworks⟩ item hitem r hr
    rcases List.mem_append.mp hr with hold | hnew
    · exact hworked item hitem r hold
    · obtain ⟨other, hother, hposition, rfl⟩ := finished_mem_wave.mp hnew
      obtain rfl := eq_of_position_eq (hplan other hother) hitem hposition
      exact hworks other hother

theorem exists_exit {result : String × Entry → StepResult} {ready : List (String × Entry)}
    (h : ¬ ∀ item ∈ ready, GoesOn result item) :
    ∃ before item after, ready = before ++ item :: after ∧
      (∀ other ∈ before, GoesOn result other) ∧ ¬ GoesOn result item := by
  induction ready with
  | nil => exact absurd (fun _ hitem => nomatch hitem) h
  | cons first ready ih =>
      by_cases hfirst : GoesOn result first
      · have hrest : ¬ ∀ item ∈ ready, GoesOn result item :=
          fun hall => h (List.forall_mem_cons.mpr ⟨hfirst, hall⟩)
        obtain ⟨before, item, after, rfl, hbefore, hitem⟩ := ih hrest
        exact ⟨first :: before, item, after, rfl, List.forall_mem_cons.mpr ⟨hfirst, hbefore⟩, hitem⟩
      · exact ⟨[], first, ready, rfl, nofun, hfirst⟩

theorem exits_iff {result : String × Entry → StepResult} {before after : List (String × Entry)}
    {item : String × Entry} (hbefore : ∀ other ∈ before, GoesOn result other)
    (hitem : ¬ GoesOn result item) :
    (∀ first other rest, before ++ item :: after = first ++ other :: rest →
      shouldStopWorkflowAfterError other.2.step (result other) = false ∧
        ((result other).hasStatus "paused" = true → rest = [])) ↔
      after = [] ∧ (result item).hasStatus "paused" = true := by
  constructor
  · intro hall
    obtain ⟨hstop, hlast⟩ := hall before item after rfl
    have hpaused : (result item).hasStatus "paused" = true := by
      by_contra hgo
      exact hitem ⟨eq_false_of_ne_true hgo, hstop⟩
    exact ⟨hlast hpaused, hpaused⟩
  · rintro ⟨rfl, hpaused⟩ first other rest hsplit
    rcases List.eq_nil_or_concat rest with rfl | ⟨rest, last, rfl⟩
    · obtain ⟨-, hsame⟩ := List.append_inj' hsplit rfl
      rw [← (List.cons.inj hsame).1]
      refine ⟨eq_false_of_ne_true fun hstop => ?_, fun _ => rfl⟩
      rw [shouldStopWorkflowAfterError, Bool.and_eq_true] at hstop
      rw [(error_not_status hstop.1).1] at hpaused
      cases hpaused
    · have hmem : other ∈ before := by
        rw [List.concat_eq_append, ← List.cons_append, ← List.append_assoc] at hsplit
        rw [(List.append_inj' hsplit rfl).1]
        exact List.mem_append_right first List.mem_cons_self
      obtain ⟨hgo, hstop⟩ := hbefore other hmem
      refine ⟨hstop, fun hpaused' => ?_⟩
      rw [hgo] at hpaused'
      cases hpaused'

/-- From any state of the loop, the workflow returns, and its result accounts for every step
exactly when it has refused no step without dependencies and goes on accountably. -/
theorem accounts_from_iff (env : Surroundings) (n : ℕ) (h : Kept plan s) (hrunning : s.returned = none)
    (hn : s.pending.length < n) :
    ∃ returned, (afterTurns env plan n s).returned = some returned ∧
      (Accounts plan (afterTurns env plan n s).history returned ↔
        Sober plan s.history ∧ Throughout env plan (Orderly env plan) s ∧
          (Throughout env plan (fun s => ¬ Pauses env plan s) s →
            (plan.map WorkflowStep.playbookCode).Nodup ∧ Worked plan s.history ∧
              Throughout env plan (Thorough env plan) s)) := by
  induction n generalizing s with
  | zero => exact absurd hn (Nat.not_lt_zero _)
  | succ n ih =>
      have hscan := scanned_pending env h
      have hnext : afterTurns env plan (n + 1) s =
          afterTurns env plan n (turn env (buildDependencyGraph plan) s) := rfl
      rw [hnext, throughout_iff hrunning, throughout_iff hrunning, throughout_iff hrunning]
      by_cases hready : (scan env plan s).1 = []
      · have hturn := turn_of_nil hrunning hready
        have hreturned : (turn env (buildDependencyGraph plan) s).returned =
            some (completedResult (scan env plan s).2) := by rw [hturn]
        have horderly : Orderly env plan s ↔
            Trace.Along (visit env (buildDependencyGraph plan)) (RootHolds env plan) s
              s.pending := by
          refine ⟨fun horderly => horderly.roots, fun hroots => ⟨hroots, ?_⟩⟩
          intro before item after hsplit
          rw [hready] at hsplit
          exact absurd hsplit.symm (List.append_ne_nil_of_right_ne_nil _ (List.cons_ne_nil _ _))
        have hthorough : Thorough env plan s ↔ (scan env plan s).2.pending = [] := by
          refine ⟨fun hthorough => hthorough.moves hready, fun hnil => ⟨fun _ => hnil, ?_⟩⟩
          rw [hready]
          nofun
        have hpauses : ¬ Pauses env plan s := by
          rintro ⟨item, hitem, -⟩
          rw [hready] at hitem
          cases hitem
        rw [afterTurns_of_returned hreturned]
        refine ⟨_, hreturned, ?_⟩
        rw [show (turn env (buildDependencyGraph plan) s).history = (scan env plan s).2.history by
          rw [hturn], accounts_completed_iff hscan.kept, sober_scan_iff h, worked_scan_iff env h,
          horderly, hthorough]
        have htrue : ∀ condition : Run → Prop, Throughout env plan condition
            (turn env (buildDependencyGraph plan) s) := fun _ => throughout_of_returned hreturned
        simp only [htrue, and_true, hpauses, not_false_eq_true, true_imp_iff]
        tauto
      · by_cases hgoesOn : ∀ item ∈ (scan env plan s).1,
            GoesOn (resultOf env (scan env plan s).2) item
        · obtain ⟨hkept, hrunning', hless, hhistory⟩ := wave_spec h hrunning hready hgoesOn
          obtain ⟨returned, hreturned, haccounts⟩ := ih hkept hrunning' (by omega)
          refine ⟨returned, hreturned, haccounts.trans ?_⟩
          have horderly : Orderly env plan s ↔
              Trace.Along (visit env (buildDependencyGraph plan)) (RootHolds env plan) s
                s.pending := by
            refine ⟨fun horderly => horderly.roots, fun hroots => ⟨hroots, ?_⟩⟩
            intro before item after hsplit
            obtain ⟨hpause, hstop⟩ := hgoesOn item (by
              rw [hsplit]
              exact List.mem_append_right before List.mem_cons_self)
            refine ⟨hstop, fun hpaused => ?_⟩
            rw [hpause] at hpaused
            cases hpaused
          have hthorough : Thorough env plan s ↔ ∀ item ∈ (scan env plan s).1,
              Works item.2.step (resultOf env (scan env plan s).2 item) :=
            ⟨fun hthorough => hthorough.works, fun hworks => ⟨fun hnil => absurd hnil hready, hworks⟩⟩
          have hpauses : ¬ Pauses env plan s := by
            rintro ⟨item, hitem, hpaused⟩
            rw [(hgoesOn item hitem).1] at hpaused
            cases hpaused
          rw [hhistory, sober_append_iff fun _ => refused_not_mem_wave.1, sober_scan_iff h,
            worked_wave_iff h, horderly, hthorough, and_iff_right (a := ¬ Pauses env plan s) hpauses]
          tauto
        · obtain ⟨before, item, after, hsplit, hbefore, hitem⟩ := exists_exit hgoesOn
          obtain ⟨returned, hreturned, haccounts⟩ := accounts_exit_iff hscan.kept hsplit
            ((hscan.sublist.map Prod.fst).nodup h.distinct) hscan.open_ready hbefore hitem
          rw [← turn_of_wave hrunning hready] at hreturned haccounts
          rw [afterTurns_of_returned hreturned]
          refine ⟨returned, hreturned, haccounts.trans ?_⟩
          have htrue : ∀ condition : Run → Prop, Throughout env plan condition
              (turn env (buildDependencyGraph plan) s) :=
            fun _ => throughout_of_returned hreturned
          have horderly : Orderly env plan s ↔
              Trace.Along (visit env (buildDependencyGraph plan)) (RootHolds env plan) s
                s.pending ∧
              after = [] ∧ (resultOf env (scan env plan s).2 item).hasStatus "paused" = true := by
            rw [← exits_iff hbefore hitem, ← hsplit]
            exact ⟨fun horderly => ⟨horderly.roots, horderly.exits⟩,
              fun hboth => ⟨hboth.1, hboth.2⟩⟩
          have hpauses : (resultOf env (scan env plan s).2 item).hasStatus "paused" = true →
              Pauses env plan s := by
            intro hpaused
            refine ⟨item, ?_, hpaused⟩
            rw [hsplit]
            exact List.mem_append_right before List.mem_cons_self
          rw [sober_scan_iff h, horderly]
          simp only [htrue, and_true]
          tauto

/-- The workflow returns, and its result accounts for every step of the plan exactly when
every turn is orderly and, where no step pauses, the codes are distinct and every turn is
thorough. -/
theorem accounts_iff (context : Json.Dict) {n : ℕ} (hn : plan.length < n) :
    ∃ returned, (afterTurns env plan n (start plan context)).returned = some returned ∧
      (Accounts plan (afterTurns env plan n (start plan context)).history returned ↔
        Accountable env plan (start plan context)) := by
  have hlength : (start plan context).pending.length < n := by
    have hsubperm : (pendingSteps plan).Subperm (entries plan) :=
      List.subperm_of_subset (List.Nodup.of_map Prod.fst nodup_pendingSteps)
        fun _ hitem => mem_entries_of_pending hitem
    refine hsubperm.length_le.trans_lt ?_
    rw [entries, List.length_map, List.length_zipIdx]
    exact hn
  obtain ⟨returned, hreturned, haccounts⟩ :=
    accounts_from_iff env n (kept_start context) rfl hlength
  refine ⟨returned, hreturned, haccounts.trans ?_⟩
  have hsober : Sober plan (start plan context).history := fun _ _ _ => List.not_mem_nil
  have hworked : Worked plan (start plan context).history :=
    fun _ _ _ hr => absurd hr List.not_mem_nil
  rw [and_iff_right hsober, and_iff_right (a := Worked plan _) hworked]
  rfl

end Waves

def review : WorkflowStep :=
  { playbookCode := "review"
    inputs := []
    inputMapping := []
    condition := none
    errorHandling := .retryThenStop }

def publish : WorkflowStep := { review with playbookCode := "publish" }

def withStatus (status : String) : StepResult :=
  { status := .str status
    outputs := []
    retriesExhausted := false
    details := [] }

/-- Surroundings in which `review` ends as it is told, and everything else completes. -/
def reviewing (status : String) : Surroundings :=
  { evaluateCondition := fun _ _ => true
    execute := fun _ entry => .returned
      (if entry.step.playbookCode = "review" then withStatus status else withStatus "completed")
    interleave := fun _ ready => ready.map (fun entry => .started entry.position) ++
      ready.map fun entry => .finished entry.position
        (if entry.step.playbookCode = "review" then withStatus status
          else withStatus "completed")
    interleave_perm := fun _ _ => List.Perm.refl _ }

theorem accounts_iff_reviewed :
    ∃ returned, (afterTurns (reviewing "completed") [review, publish] 3
        (start [review, publish] [])).returned = some returned ∧
      (Accounts [review, publish] (afterTurns (reviewing "completed") [review, publish] 3
          (start [review, publish] [])).history returned ↔
        Accountable (reviewing "completed") [review, publish] (start [review, publish] [])) :=
  accounts_iff [] (by decide)

/-- The review pauses the workflow, and the result of the other step of its wave is lost. -/
theorem paused_wave_loses_result :
    ∃ returned, (afterTurns (reviewing "paused") [review, publish] 3
        (start [review, publish] [])).returned = some returned ∧
      .finished 1 (withStatus "completed") ∈ (afterTurns (reviewing "paused") [review, publish] 3
        (start [review, publish] [])).history ∧
      returned.steps "publish" = none ∧
      ¬ Accounts [review, publish] (afterTurns (reviewing "paused") [review, publish] 3
        (start [review, publish] [])).history returned := by
  have hhistory : (afterTurns (reviewing "paused") [review, publish] 3
      (start [review, publish] [])).history =
        [.started 0, .started 1, .finished 0 (withStatus "paused"),
          .finished 1 (withStatus "completed")] := rfl
  have hfinished : .finished 1 (withStatus "completed") ∈ (afterTurns (reviewing "paused")
      [review, publish] 3 (start [review, publish] [])).history := by
    rw [hhistory]
    simp
  refine ⟨_, rfl, hfinished, rfl, fun haccounts => ?_⟩
  have hrecorded := haccounts.recorded 1 publish _ rfl hfinished
  cases hrecorded

end MindscapeLocalCore.Workflow.HandoffAccounts
