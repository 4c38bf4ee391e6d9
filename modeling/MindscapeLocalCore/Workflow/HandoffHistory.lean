import MindscapeLocalCore.Library.Trace
import MindscapeLocalCore.Workflow.HandoffExecution

/-!
What holds of a handoff workflow whenever its loop turns: every step of the plan is
pending, or its result is the one that its only execution gave, or it was skipped.
-/

namespace MindscapeLocalCore.Workflow.HandoffHistory

open HandoffPlan HandoffExecution Library

variable (env : Surroundings) (plan : List WorkflowStep)

/-- No step starts twice, and none before its dependencies are completed. -/
def Timely (history : List Event) : Prop :=
  ∀ before position after, history = before ++ .started position :: after →
    .started position ∉ before ∧
      ∀ step, plan[position]? = some step → ∀ dep ∈ dependencies plan step,
        ∃ other : String × Entry, plan[other.2.position]? = some other.2.step ∧
          other.2.step.playbookCode = dep ∧
          ∃ result, .finished other.2.position result ∈ before ∧
            result.hasStatus "completed" = true

structure Kept (s : Run) : Prop where
  subset : ∀ item ∈ s.pending, item ∈ pendingSteps plan
  distinct : (s.pending.map Prod.fst).Nodup
  open_iff : ∀ item ∈ pendingSteps plan, item ∈ s.pending ↔ s.results item.1 = none
  completed_iff : ∀ code, code ∈ s.completed ↔ s.results code ≠ none
  started : ∀ position, .started position ∈ s.history →
    ∃ result, .finished position result ∈ s.history
  finished : ∀ position result, .finished position result ∈ s.history →
    ∃ item ∈ pendingSteps plan, item.2.position = position ∧ s.results item.1 = some result
  skipped : ∀ position, .skipped position ∈ s.history →
    (∃ item ∈ pendingSteps plan, item.2.position = position ∧
      buildDependencyGraph plan item.1 ≠ ∅ ∧ s.results item.1 = some skippedResult) ∧
    ∀ result, .finished position result ∉ s.history
  refused : ∀ position, .refused position ∈ s.history →
    ∃ item ∈ pendingSteps plan, item.2.position = position ∧
      (buildDependencyGraph plan item.1 = ∅ ∨ .skipped position ∈ s.history)
  sources : ∀ item ∈ pendingSteps plan, ∀ result, s.results item.1 = some result →
    .finished item.2.position result ∈ s.history ∨ .skipped item.2.position ∈ s.history
  timely : Timely plan s.history

variable {env plan}

theorem kept_start (context : Json.Dict) : Kept plan (start plan context) where
  subset _ := id
  distinct := nodup_pendingSteps
  open_iff _ hitem := ⟨fun _ => rfl, fun _ => hitem⟩
  completed_iff _ := ⟨fun h => absurd h (Finset.notMem_empty _), fun h => absurd rfl h⟩
  started := nofun
  finished := nofun
  skipped := nofun
  refused := nofun
  sources _ _ _ h := nomatch h
  timely before position after h := by
    have hnil : before ++ Event.started position :: after = [] := h.symm
    exact absurd hnil (List.append_ne_nil_of_right_ne_nil _ (List.cons_ne_nil _ _))

variable {s : Run} {item : String × Entry}

theorem Kept.untouched (h : Kept plan s) (hitem : item ∈ s.pending) :
    s.results item.1 = none ∧ (∀ result, .finished item.2.position result ∉ s.history) ∧
      .started item.2.position ∉ s.history ∧ .skipped item.2.position ∉ s.history := by
  have hplan := h.subset item hitem
  have hnone := (h.open_iff item hplan).mp hitem
  have hunfinished : ∀ result, .finished item.2.position result ∉ s.history := by
    intro result hfinished
    obtain ⟨other, hother, hposition, hresult⟩ := h.finished _ _ hfinished
    rw [eq_of_position_eq hother hplan hposition, hnone] at hresult
    cases hresult
  refine ⟨hnone, hunfinished, fun hstarted => ?_, fun hskipped => ?_⟩
  · obtain ⟨result, hfinished⟩ := h.started _ hstarted
    exact hunfinished result hfinished
  · obtain ⟨⟨other, hother, hposition, -, hresult⟩, -⟩ := h.skipped _ hskipped
    rw [eq_of_position_eq hother hplan hposition, hnone] at hresult
    cases hresult

theorem timely_append {history events : List Event} (h : Timely plan history)
    (hevents : ∀ before position after, events = before ++ .started position :: after →
      .started position ∉ history ∧ .started position ∉ before ∧
        ∀ step, plan[position]? = some step → ∀ dep ∈ dependencies plan step,
          ∃ other : String × Entry, plan[other.2.position]? = some other.2.step ∧
            other.2.step.playbookCode = dep ∧
            ∃ result, .finished other.2.position result ∈ history ∧
              result.hasStatus "completed" = true) :
    Timely plan (history ++ events) := by
  intro before position after hsplit
  rcases List.append_eq_append_iff.mp hsplit with ⟨middle, rfl, hlater⟩ | ⟨middle, hold, hrest⟩
  · obtain ⟨hhistory, hmiddle, hdeps⟩ := hevents middle position after hlater
    refine ⟨fun hmem => (List.mem_append.mp hmem).elim hhistory hmiddle, ?_⟩
    intro step hstep dep hdep
    obtain ⟨other, hother, hcode, result, hfinished, hcompleted⟩ := hdeps step hstep dep hdep
    exact ⟨other, hother, hcode, result, List.mem_append_left _ hfinished, hcompleted⟩
  · cases middle with
    | nil =>
        rw [List.append_nil] at hold
        obtain ⟨hhistory, -, hdeps⟩ := hevents [] position after hrest.symm
        exact hold ▸ ⟨hhistory, hdeps⟩
    | cons first middle =>
        obtain ⟨rfl, rfl⟩ := List.cons.inj hrest
        exact h before position middle hold

/-- What is added to a run: steps that are concluded with a result, and the events of it. -/
structure Added (plan : List WorkflowStep) (s : Run) (concluded : List (String × Entry))
    (result : String × Entry → StepResult) (events : List Event) (s' : Run) : Prop where
  history : s'.history = s.history ++ events
  pending : ∀ item, item ∈ s'.pending ↔ item ∈ s.pending ∧ item.1 ∉ concluded.map Prod.fst
  distinct : (s'.pending.map Prod.fst).Nodup
  old : ∀ code ∉ concluded.map Prod.fst, s'.results code = s.results code
  new : ∀ item ∈ concluded, item ∈ s.pending ∧ s'.results item.1 = some (result item)
  completed : ∀ code, code ∈ s'.completed ↔ code ∈ s.completed ∨ code ∈ concluded.map Prod.fst
  started : ∀ position, .started position ∈ events → ∃ r, .finished position r ∈ events
  finished : ∀ position r, .finished position r ∈ events →
    ∃ item ∈ concluded, item.2.position = position ∧ result item = r
  skipped : ∀ position, .skipped position ∈ events →
    (∃ item ∈ concluded, item.2.position = position ∧ buildDependencyGraph plan item.1 ≠ ∅ ∧
      result item = skippedResult) ∧ ∀ r, .finished position r ∉ events
  refused : ∀ position, .refused position ∈ events →
    ∃ item ∈ pendingSteps plan, item.2.position = position ∧
      (buildDependencyGraph plan item.1 = ∅ ∨ .skipped position ∈ events)
  sources : ∀ item ∈ concluded,
    .finished item.2.position (result item) ∈ events ∨ .skipped item.2.position ∈ events
  timely : Timely plan s'.history

theorem Kept.add (h : Kept plan s) {s' : Run} {concluded : List (String × Entry)}
    {result : String × Entry → StepResult} {events : List Event}
    (hadded : Added plan s concluded result events s') : Kept plan s' := by
  have hmem : ∀ {event : Event}, event ∈ s'.history ↔ event ∈ s.history ∨ event ∈ events := by
    intro event
    rw [hadded.history, List.mem_append]
  have hplan : ∀ item ∈ concluded, item ∈ pendingSteps plan :=
    fun item hitem => h.subset item (hadded.new item hitem).1
  have hconcluded : ∀ item ∈ pendingSteps plan, item.1 ∈ concluded.map Prod.fst →
      item ∈ concluded := by
    intro item hitem hcode
    obtain ⟨other, hother, hsame⟩ := List.mem_map.mp hcode
    exact eq_of_code_eq (hplan other hother) hitem hsame ▸ hother
  have hkept : ∀ item ∈ pendingSteps plan, ∀ {r}, s.results item.1 = some r →
      s'.results item.1 = some r := by
    intro item hitem r hresult
    rw [hadded.old item.1 fun hcode => ?_, hresult]
    have hopen := (hadded.new item (hconcluded item hitem hcode)).1
    rw [(h.open_iff item hitem).mp hopen] at hresult
    cases hresult
  refine ⟨fun item hitem => h.subset item ((hadded.pending item).mp hitem).1, hadded.distinct,
    fun item hitem => ?_, fun code => ?_, fun position hstarted => ?_,
    fun position r hfinished => ?_, fun position hskipped => ?_, fun position hrefused => ?_,
    fun item hitem r hresult => ?_, hadded.timely⟩
  · rw [hadded.pending, h.open_iff item hitem]
    by_cases hcode : item.1 ∈ concluded.map Prod.fst
    · rw [(hadded.new item (hconcluded item hitem hcode)).2]
      exact iff_of_false (fun hboth => hboth.2 hcode) (Option.some_ne_none _)
    · rw [hadded.old item.1 hcode]
      exact and_iff_left hcode
  · rw [hadded.completed, h.completed_iff]
    by_cases hcode : code ∈ concluded.map Prod.fst
    · obtain ⟨item, hitem, rfl⟩ := List.mem_map.mp hcode
      rw [(hadded.new item hitem).2]
      exact iff_of_true (.inr hcode) (Option.some_ne_none _)
    · rw [hadded.old code hcode]
      exact or_iff_left hcode
  · rcases hmem.mp hstarted with hold | hnew
    · exact (h.started position hold).imp fun r hr => hmem.mpr (.inl hr)
    · exact (hadded.started position hnew).imp fun r hr => hmem.mpr (.inr hr)
  · rcases hmem.mp hfinished with hold | hnew
    · obtain ⟨item, hitem, hposition, hresult⟩ := h.finished position r hold
      exact ⟨item, hitem, hposition, hkept item hitem hresult⟩
    · obtain ⟨item, hitem, hposition, rfl⟩ := hadded.finished position r hnew
      exact ⟨item, hplan item hitem, hposition, (hadded.new item hitem).2⟩
  · rcases hmem.mp hskipped with hold | hnew
    · obtain ⟨⟨item, hitem, rfl, hgraph, hresult⟩, hunfinished⟩ := h.skipped position hold
      refine ⟨⟨item, hitem, rfl, hgraph, hkept item hitem hresult⟩, fun r hfinished => ?_⟩
      refine (hmem.mp hfinished).elim (hunfinished r) fun hnew => ?_
      obtain ⟨other, hother, hposition, -⟩ := hadded.finished _ r hnew
      have hsame := eq_of_position_eq (hplan other hother) hitem hposition
      have hopen := (hadded.new other hother).1
      rw [(h.open_iff item hitem).mp (hsame ▸ hopen)] at hresult
      cases hresult
    · obtain ⟨⟨item, hitem, rfl, hgraph, hresult⟩, hunfinished⟩ := hadded.skipped position hnew
      obtain ⟨hopen, hrecorded⟩ := hadded.new item hitem
      rw [hresult] at hrecorded
      refine ⟨⟨item, hplan item hitem, rfl, hgraph, hrecorded⟩, fun r hfinished => ?_⟩
      exact (hmem.mp hfinished).elim ((h.untouched hopen).2.1 r) (hunfinished r)
  · rcases hmem.mp hrefused with hold | hnew
    · obtain ⟨item, hitem, hposition, hwhy⟩ := h.refused position hold
      exact ⟨item, hitem, hposition, hwhy.imp id fun hskipped => hmem.mpr (.inl hskipped)⟩
    · obtain ⟨item, hitem, hposition, hwhy⟩ := hadded.refused position hnew
      exact ⟨item, hitem, hposition, hwhy.imp id fun hskipped => hmem.mpr (.inr hskipped)⟩
  · by_cases hcode : item.1 ∈ concluded.map Prod.fst
    · have hitem' := hconcluded item hitem hcode
      rw [(hadded.new item hitem').2] at hresult
      rw [← Option.some.inj hresult]
      exact (hadded.sources item hitem').imp (fun hr => hmem.mpr (.inr hr))
        fun hskipped => hmem.mpr (.inr hskipped)
    · rw [hadded.old item.1 hcode] at hresult
      exact (h.sources item hitem r hresult).imp (fun hr => hmem.mpr (.inl hr))
        fun hskipped => hmem.mpr (.inl hskipped)

theorem timely_append_of_unstarted {history events : List Event} (h : Timely plan history)
    (hevents : ∀ position, .started position ∉ events) : Timely plan (history ++ events) := by
  refine timely_append h fun before position after hsplit => ?_
  refine absurd ?_ (hevents position)
  rw [hsplit]
  exact List.mem_append_right before List.mem_cons_self

theorem Kept.refuse (h : Kept plan s) (hitem : item ∈ pendingSteps plan)
    (hroot : buildDependencyGraph plan item.1 = ∅) : Kept plan (refuse s item.2) := by
  have hadded : Added plan s [] (fun _ => skippedResult) [.refused item.2.position]
      (HandoffExecution.refuse s item.2) := ?_
  · exact h.add hadded
  refine ⟨rfl, fun _ => (and_iff_left List.not_mem_nil).symm, h.distinct, fun _ _ => rfl, nofun,
    fun _ => (or_iff_left List.not_mem_nil).symm, ?_, ?_, ?_, ?_, nofun, ?_⟩
  · intro position hmem
    cases List.mem_singleton.mp hmem
  · intro position r hmem
    cases List.mem_singleton.mp hmem
  · intro position hmem
    cases List.mem_singleton.mp hmem
  · intro position hmem
    cases List.mem_singleton.mp hmem
    exact ⟨item, hitem, rfl, .inl hroot⟩
  · refine timely_append_of_unstarted h.timely fun position hmem => ?_
    cases List.mem_singleton.mp hmem

theorem mem_filter_code {pending : List (String × Entry)} {code : String} {other : String × Entry} :
    other ∈ pending.filter (fun item => item.1 ≠ code) ↔ other ∈ pending ∧ other.1 ≠ code := by
  rw [List.mem_filter, decide_eq_true_iff]

theorem nodup_filter_code {pending : List (String × Entry)} (code : String)
    (h : (pending.map Prod.fst).Nodup) :
    ((pending.filter fun item => item.1 ≠ code).map Prod.fst).Nodup :=
  (List.filter_sublist.map Prod.fst).nodup h

theorem Kept.skip (h : Kept plan s) (hitem : item ∈ s.pending)
    (hgraph : buildDependencyGraph plan item.1 ≠ ∅) : Kept plan (skip s item.1 item.2) := by
  have hplan := h.subset item hitem
  have hadded : Added plan s [item] (fun _ => skippedResult)
      [.refused item.2.position, .skipped item.2.position]
      (HandoffExecution.skip s item.1 item.2) := ?_
  · exact h.add hadded
  refine ⟨rfl, fun other => ?_, nodup_filter_code item.1 h.distinct, fun code hcode => ?_,
    fun other hother => ?_, fun code => ?_, ?_, ?_, ?_, ?_, ?_, ?_⟩
  · rw [List.map_singleton, List.mem_singleton]
    exact mem_filter_code
  · rw [List.map_singleton, List.mem_singleton] at hcode
    exact Function.update_of_ne hcode ..
  · rw [List.mem_singleton.mp hother]
    exact ⟨hitem, Function.update_self ..⟩
  · rw [List.map_singleton, List.mem_singleton, or_comm]
    exact Finset.mem_insert
  · intro position hmem
    simp at hmem
  · intro position r hmem
    simp at hmem
  · intro position hmem
    obtain rfl : position = item.2.position := by simpa using hmem
    exact ⟨⟨item, List.mem_singleton_self item, rfl, hgraph, rfl⟩, by simp⟩
  · intro position hmem
    obtain rfl : position = item.2.position := by simpa using hmem
    exact ⟨item, hplan, rfl, .inr (by simp)⟩
  · intro other hother
    rw [List.mem_singleton.mp hother]
    exact .inr (by simp)
  · exact timely_append_of_unstarted h.timely (by simp)

theorem Kept.visit (env : Surroundings) (h : Kept plan s) (hitem : item ∈ s.pending) :
    Kept plan (visit env (buildDependencyGraph plan) s item) ∧
      ∀ other ∈ s.pending, other.1 ≠ item.1 →
        other ∈ (visit env (buildDependencyGraph plan) s item).pending := by
  rw [HandoffExecution.visit]
  split
  · exact ⟨h, fun other hother _ => hother⟩
  · split
    · rename_i hroot
      split
      · exact ⟨h, fun other hother _ => hother⟩
      · exact ⟨h.refuse (h.subset item hitem) hroot, fun other hother _ => hother⟩
    · rename_i hgraph
      split
      · split
        · exact ⟨h, fun other hother _ => hother⟩
        · exact ⟨h.skip hitem hgraph, fun other hother hne => mem_filter_code.mpr ⟨hother, hne⟩⟩
      · exact ⟨h, fun other hother _ => hother⟩

theorem Kept.visit_completed (env : Surroundings) (h : Kept plan s) (hitem : item ∈ s.pending) {code : String}
    (hcode : code ∈ s.completed) :
    code ∈ (HandoffExecution.visit env (buildDependencyGraph plan) s item).completed ∧
      (HandoffExecution.visit env (buildDependencyGraph plan) s item).results code =
        s.results code := by
  have hne : code ≠ item.1 := by
    rintro rfl
    exact (h.completed_iff item.1).mp hcode (h.untouched hitem).1
  rw [HandoffExecution.visit]
  split
  · exact ⟨hcode, rfl⟩
  · split
    · split
      · exact ⟨hcode, rfl⟩
      · exact ⟨hcode, rfl⟩
    · split
      · split
        · exact ⟨hcode, rfl⟩
        · exact ⟨Finset.mem_insert_of_mem hcode, Function.update_of_ne hne ..⟩
      · exact ⟨hcode, rfl⟩

theorem dependenciesMet_iff {graph : String → Finset String} {code : String} :
    dependenciesMet graph s code = true ↔
      ∀ dep ∈ graph code, dep ∈ s.completed ∧ isCompleted s.results dep = true :=
  decide_eq_true_iff

theorem returned_visit {graph : String → Finset String} :
    (visit env graph s item).returned = s.returned := by
  rw [visit]
  repeat' split
  all_goals rfl

theorem visit_of_ready {graph : String → Finset String} (h : isReady env graph s item = true) :
    visit env graph s item = s := by
  rw [isReady, Bool.and_eq_true, Bool.and_eq_true, decide_eq_true_iff] at h
  obtain ⟨⟨hopen, hmet⟩, hholds⟩ := h
  rw [visit, if_neg hopen, if_pos hmet, if_pos hholds, if_pos hholds, ite_self]

theorem finished_mem_visit {graph : String → Finset String} {position : ℕ} {r : StepResult} :
    .finished position r ∈ (visit env graph s item).history ↔
      .finished position r ∈ s.history := by
  rw [visit]
  repeat' split
  all_goals simp [refuse, skip]

structure Scanned (plan : List WorkflowStep) (items : List (String × Entry)) (s : Run)
    (ready : List (String × Entry)) (s' : Run) : Prop where
  kept : Kept plan s'
  sublist : ready.Sublist items
  open_ready : ∀ item ∈ ready, item ∈ s'.pending ∧
    dependenciesMet (buildDependencyGraph plan) s' item.1 = true
  rest : ∀ item ∈ s.pending, item.1 ∉ items.map Prod.fst → item ∈ s'.pending
  completed : ∀ code ∈ s.completed, code ∈ s'.completed ∧ s'.results code = s.results code
  finished : ∀ position r, .finished position r ∈ s'.history ↔ .finished position r ∈ s.history
  returned : s'.returned = s.returned

theorem scanned {items : List (String × Entry)} (h : Kept plan s)
    (hitems : ∀ item ∈ items, item ∈ s.pending) (hdistinct : (items.map Prod.fst).Nodup) :
    Scanned plan items s (getReadySteps env (buildDependencyGraph plan) items s).1
      (getReadySteps env (buildDependencyGraph plan) items s).2 := by
  induction items generalizing s with
  | nil =>
      exact ⟨h, List.Sublist.refl _, nofun, fun _ hitem _ => hitem, fun _ hcode => ⟨hcode, rfl⟩,
        fun _ _ => Iff.rfl, rfl⟩
  | cons item items ih =>
      have hitem := hitems item List.mem_cons_self
      obtain ⟨hne, hdistinct⟩ := List.nodup_cons.mp hdistinct
      have hapart : ∀ other ∈ items, other.1 ≠ item.1 :=
        fun other hother hsame => hne (hsame ▸ List.mem_map_of_mem hother)
      obtain ⟨hvisit, hpending⟩ := h.visit env hitem
      have hnext := ih hvisit (fun other hother =>
        hpending other (hitems other (List.mem_cons_of_mem item hother)) (hapart other hother))
        hdistinct
      have hcompleted : ∀ code ∈ s.completed,
          code ∈ (getReadySteps env (buildDependencyGraph plan) (item :: items) s).2.completed ∧
            (getReadySteps env (buildDependencyGraph plan) (item :: items) s).2.results code =
              s.results code := by
        intro code hcode
        obtain ⟨hvisited, hresults⟩ := h.visit_completed env hitem hcode
        obtain ⟨hscanned, hsame⟩ := hnext.completed code hvisited
        exact ⟨hscanned, hsame.trans hresults⟩
      have hrest : ∀ other ∈ s.pending, other.1 ∉ (item :: items).map Prod.fst → other ∈
          (getReadySteps env (buildDependencyGraph plan) (item :: items) s).2.pending := by
        intro other hother hcode
        rw [List.map_cons, List.mem_cons, not_or] at hcode
        exact hnext.rest other (hpending other hother hcode.1) hcode.2
      have hfinished := fun position r =>
        (hnext.finished position r).trans finished_mem_visit
      have hreturned := hnext.returned.trans returned_visit
      by_cases hready : isReady env (buildDependencyGraph plan) s item = true
      · have hfound : (getReadySteps env (buildDependencyGraph plan) (item :: items) s).1 = item ::
            (getReadySteps env (buildDependencyGraph plan) items
              (visit env (buildDependencyGraph plan) s item)).1 := if_pos hready
        rw [hfound]
        refine ⟨hnext.kept, hnext.sublist.cons_cons item, fun other hother => ?_, hrest, hcompleted,
          hfinished, hreturned⟩
        rcases List.mem_cons.mp hother with rfl | hother
        · have hvisit := visit_of_ready hready
          rw [isReady, Bool.and_eq_true, Bool.and_eq_true] at hready
          obtain ⟨⟨-, hmet⟩, -⟩ := hready
          refine ⟨hnext.rest other ?_ hne, dependenciesMet_iff.mpr fun dep hdep => ?_⟩
          · rw [hvisit]
            exact hitem
          · obtain ⟨hdone, hresult⟩ := dependenciesMet_iff.mp hmet dep hdep
            obtain ⟨hscanned, hsame⟩ := hcompleted dep hdone
            refine ⟨hscanned, ?_⟩
            rw [isCompleted, hsame]
            exact hresult
        · exact hnext.open_ready other hother
      · have hfound : (getReadySteps env (buildDependencyGraph plan) (item :: items) s).1 =
            (getReadySteps env (buildDependencyGraph plan) items
              (visit env (buildDependencyGraph plan) s item)).1 := if_neg hready
        rw [hfound]
        exact ⟨hnext.kept, hnext.sublist.cons item, hnext.open_ready, hrest, hcompleted, hfinished,
          hreturned⟩

section Waves

variable {ready : List (String × Entry)} {result : String × Entry → StepResult}

def isStarted : Event → Bool
  | .started _ => true
  | _ => false

theorem started_mem_wave {position : ℕ} :
    .started position ∈ env.interleave s (ready.map Prod.snd) ↔
      ∃ item ∈ ready, item.2.position = position := by
  rw [(env.interleave_perm s (ready.map Prod.snd)).mem_iff, List.mem_append, List.map_map,
    List.map_map]
  simp

theorem finished_mem_wave {position : ℕ} {r : StepResult} :
    .finished position r ∈ env.interleave s (ready.map Prod.snd) ↔
      ∃ item ∈ ready, item.2.position = position ∧ resultOf env s item = r := by
  rw [(env.interleave_perm s (ready.map Prod.snd)).mem_iff, List.mem_append, List.map_map,
    List.map_map]
  simp [resultOf]

theorem refused_not_mem_wave {position : ℕ} :
    .refused position ∉ env.interleave s (ready.map Prod.snd) ∧
      .skipped position ∉ env.interleave s (ready.map Prod.snd) := by
  rw [(env.interleave_perm s (ready.map Prod.snd)).mem_iff,
    (env.interleave_perm s (ready.map Prod.snd)).mem_iff]
  simp

theorem started_once_in_wave (hdistinct : (ready.map fun item => item.2.position).Nodup)
    {before after : List Event} {position : ℕ}
    (hsplit : env.interleave s (ready.map Prod.snd) = before ++ .started position :: after) :
    .started position ∉ before := by
  intro hbefore
  have hperm := (env.interleave_perm s (ready.map Prod.snd)).filter isStarted
  have hstarted : ((ready.map Prod.snd).map fun entry => Event.started entry.position).Nodup := by
    rw [List.map_map]
    have hmap := hdistinct.map (f := Event.started) fun _ _ h => Event.started.inj h
    rw [List.map_map] at hmap
    exact hmap
  have hfilter : ((ready.map Prod.snd).map (fun entry => Event.started entry.position) ++
      (ready.map Prod.snd).map fun entry => Event.finished entry.position
        (normalizeParallelStepResult (env.execute s entry))).filter isStarted =
      (ready.map Prod.snd).map fun entry => Event.started entry.position := by
    rw [List.filter_append, List.filter_eq_self.mpr, List.filter_eq_nil_iff.mpr, List.append_nil]
    · intro event hevent
      obtain ⟨entry, -, rfl⟩ := List.mem_map.mp hevent
      exact Bool.false_ne_true
    · intro event hevent
      obtain ⟨entry, -, rfl⟩ := List.mem_map.mp hevent
      rfl
  rw [hfilter, hsplit, List.filter_append] at hperm
  have hnodup := hperm.nodup_iff.mpr hstarted
  refine (List.nodup_append'.mp hnodup).2.2 (List.mem_filter.mpr ⟨hbefore, rfl⟩) ?_
  exact List.mem_filter.mpr ⟨List.mem_cons_self, rfl⟩

structure Recorded (result : String × Entry → StepResult) (items : List (String × Entry))
    (s s' : Run) : Prop where
  pending : ∀ item, item ∈ s'.pending ↔ item ∈ s.pending ∧ item.1 ∉ items.map Prod.fst
  distinct : (s.pending.map Prod.fst).Nodup → (s'.pending.map Prod.fst).Nodup
  old : ∀ code ∉ items.map Prod.fst, s'.results code = s.results code
  new : ∀ item ∈ items, s'.results item.1 = some (result item)
  completed : ∀ code, code ∈ s'.completed ↔ code ∈ s.completed ∨ code ∈ items.map Prod.fst
  history : s'.history = s.history
  returned : s'.returned = s.returned

theorem recorded_nil : Recorded result [] s s :=
  ⟨fun _ => (and_iff_left List.not_mem_nil).symm, id, fun _ _ => rfl, nofun,
    fun _ => (or_iff_left List.not_mem_nil).symm, rfl, rfl⟩

theorem Recorded.record {items : List (String × Entry)} {s' : Run}
    (h : Recorded result items s s') (hne : item.1 ∉ items.map Prod.fst) :
    Recorded result (items ++ [item]) s (record s' item.1 (result item)) := by
  have hcodes : (items ++ [item]).map Prod.fst = items.map Prod.fst ++ [item.1] := by
    rw [List.map_append, List.map_singleton]
  refine ⟨fun other => ?_, fun hdistinct => nodup_filter_code item.1 (h.distinct hdistinct),
    fun code hcode => ?_, fun other hother => ?_, fun code => ?_, h.history, h.returned⟩
  · rw [hcodes, List.mem_append, List.mem_singleton, not_or, ← and_assoc, ← h.pending]
    exact mem_filter_code
  · rw [hcodes, List.mem_append, List.mem_singleton, not_or] at hcode
    exact (Function.update_of_ne hcode.2 ..).trans (h.old code hcode.1)
  · rcases List.mem_append.mp hother with hold | hnew
    · have hapart : other.1 ≠ item.1 := fun hsame => hne (hsame ▸ List.mem_map_of_mem hold)
      exact (Function.update_of_ne hapart ..).trans (h.new other hold)
    · rw [List.mem_singleton.mp hnew]
      exact Function.update_self ..
  · rw [hcodes, List.mem_append, List.mem_singleton, ← or_assoc, ← h.completed, or_comm]
    exact Finset.mem_insert

theorem Recorded.apply {items : List (String × Entry)} {s' : Run} {r : StepResult}
    (h : Recorded result items s s') :
    Recorded result items s (applyStepResultToContext s' r) := by
  rw [applyStepResultToContext]
  split
  · exact ⟨h.pending, h.distinct, h.old, h.new, h.completed, h.history, h.returned⟩
  · exact h

def GoesOn (result : String × Entry → StepResult) (item : String × Entry) : Prop :=
  (result item).hasStatus "paused" = false ∧
    shouldStopWorkflowAfterError item.2.step (result item) = false

def settle (result : String × Entry → StepResult) (s : Run) (item : String × Entry) : Run :=
  applyStepResultToContext (record s item.1 (result item)) (result item)

theorem recorded_settle {items : List (String × Entry)}
    (hdistinct : (items.map Prod.fst).Nodup) :
    Recorded result items s (items.foldl (settle result) s) := by
  induction items using List.reverseRecOn with
  | nil => exact recorded_nil
  | append_singleton items item ih =>
      rw [List.map_append, List.map_singleton] at hdistinct
      obtain ⟨hitems, -, hdisjoint⟩ := List.nodup_append'.mp hdistinct
      rw [List.foldl_append]
      refine ((ih hitems).record fun hmem => ?_).apply
      exact hdisjoint hmem (List.mem_singleton_self item.1)

theorem processResults_append {before rest : List (String × Entry)}
    (hbefore : ∀ item ∈ before, GoesOn result item) :
    processResults result (before ++ rest) s =
      processResults result rest (before.foldl (settle result) s) := by
  induction before generalizing s with
  | nil => rfl
  | cons item before ih =>
      obtain ⟨hpause, hstop⟩ := hbefore item List.mem_cons_self
      rw [List.cons_append, processResults, if_neg (by rw [hpause]; exact Bool.false_ne_true)]
      exact (if_neg (by rw [hstop]; exact Bool.false_ne_true)).trans
        (ih fun other hother => hbefore other (List.mem_cons_of_mem item hother))

theorem processResults_of_goesOn (hready : ∀ item ∈ ready, GoesOn result item) :
    processResults result ready s = ready.foldl (settle result) s := by
  have happend : processResults result (ready ++ []) s =
      processResults result [] (ready.foldl (settle result) s) := processResults_append hready
  rw [List.append_nil] at happend
  exact happend

theorem timely_wave (h : Kept plan s) (hdistinct : (ready.map Prod.fst).Nodup)
    (hready : ∀ item ∈ ready, item ∈ s.pending ∧
      dependenciesMet (buildDependencyGraph plan) s item.1 = true) :
    Timely plan (executeWave env s ready).history := by
  have hpositions : (ready.map fun item => item.2.position).Nodup := by
    refine (List.Nodup.of_map Prod.fst hdistinct).map_on fun item hitem other hother hsame => ?_
    exact eq_of_position_eq (h.subset item (hready item hitem).1)
      (h.subset other (hready other hother).1) hsame
  refine timely_append h.timely fun before position after hsplit => ?_
  have hmem : Event.started position ∈ env.interleave s (ready.map Prod.snd) := by
    rw [hsplit]
    exact List.mem_append_right before List.mem_cons_self
  obtain ⟨item, hitem, rfl⟩ := started_mem_wave.mp hmem
  obtain ⟨hopen, hmet⟩ := hready item hitem
  have hplan := h.subset item hopen
  refine ⟨(h.untouched hopen).2.2.1, started_once_in_wave hpositions hsplit, ?_⟩
  intro step hstep dep hdep
  rw [(mem_entries.mp (mem_entries_of_pending hplan)).1] at hstep
  obtain rfl := Option.some.inj hstep
  obtain ⟨other, hother, rfl⟩ := exists_pending_of_dependency hdep
  rw [← buildDependencyGraph_eq hplan] at hdep
  obtain ⟨-, hcompleted⟩ := dependenciesMet_iff.mp hmet other.1 hdep
  obtain ⟨hposition, hcode⟩ := mem_entries.mp (mem_entries_of_pending hother)
  refine ⟨other, hposition, hcode.symm, ?_⟩
  rw [isCompleted] at hcompleted
  split at hcompleted
  · cases hcompleted
  · rename_i r hresult
    refine ⟨r, (h.sources other hother r hresult).resolve_right fun hskipped => ?_, hcompleted⟩
    obtain ⟨⟨same, hsame, hposition', -, hskip⟩, -⟩ := h.skipped _ hskipped
    rw [eq_of_position_eq hsame hother hposition', hresult] at hskip
    rw [Option.some.inj hskip] at hcompleted
    exact absurd hcompleted (by decide)

theorem added_wave (h : Kept plan s) (hdistinct : (ready.map Prod.fst).Nodup)
    (hready : ∀ item ∈ ready, item ∈ s.pending ∧
      dependenciesMet (buildDependencyGraph plan) s item.1 = true) {s' : Run}
    (hrecorded : Recorded (resultOf env s) ready (executeWave env s ready) s') :
    Added plan s ready (resultOf env s) (env.interleave s (ready.map Prod.snd)) s' where
  history := hrecorded.history
  pending := hrecorded.pending
  distinct := hrecorded.distinct h.distinct
  old := hrecorded.old
  new item hitem := ⟨(hready item hitem).1, hrecorded.new item hitem⟩
  completed := hrecorded.completed
  started position hstarted := by
    obtain ⟨item, hitem, hposition⟩ := started_mem_wave.mp hstarted
    exact ⟨_, finished_mem_wave.mpr ⟨item, hitem, hposition, rfl⟩⟩
  finished position r hfinished := finished_mem_wave.mp hfinished
  skipped position hskipped := absurd hskipped refused_not_mem_wave.2
  refused position hrefused := absurd hrefused refused_not_mem_wave.1
  sources item hitem := .inl (finished_mem_wave.mpr ⟨item, hitem, rfl, rfl⟩)
  timely := by
    rw [hrecorded.history]
    exact timely_wave h hdistinct hready

end Waves

end MindscapeLocalCore.Workflow.HandoffHistory
