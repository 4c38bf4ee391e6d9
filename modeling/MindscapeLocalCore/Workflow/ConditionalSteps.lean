import Mathlib.Data.Finset.Lattice.Basic
import Mathlib.Logic.Function.Iterate
import MindscapeLocalCore.Library.Dependencies
import MindscapeLocalCore.Workflow.PlaybookExecution

/-!
Playbooks with conditional steps run to completion exactly when no turn of the loop
skips every step that has become free.
-/

namespace MindscapeLocalCore.Workflow.ConditionalSteps

open PlaybookExecution StepHistory Library

variable {α : Type} (env : Surroundings α) (steps : List PlaybookStep)

/-- `depends_on` of the steps with this id. -/
def needs (x dep : String) : Prop := ∃ step ∈ steps, step.id = x ∧ dep ∈ step.dependsOn

/-- The dependencies name steps of the playbook and close no cycle. -/
def WellFormed : Prop :=
  (∀ x dep, needs steps x dep → dep ∈ steps.map PlaybookStep.id) ∧
    Dependencies.Acyclic (needs steps)

/-- The step was executed exactly once, when its dependencies were done, and its condition
held when it was found ready. -/
def Ran (history : List (Event α)) (step : PlaybookStep) : Prop :=
  ∃ before output after, history = before ++ .executed step.id output :: after ∧
    (∀ other ∈ before ++ after, ∀ output', other ≠ .executed step.id output') ∧
    .skipped step.id ∉ history ∧
    ∃ earlier later, before = earlier ++ .ready step.id :: later ∧
      Free (replay env earlier) step ∧
      holds env step (replay env earlier).completed (replay env earlier).outputs = true

/-- The step was skipped and never executed, as its condition did not hold when its
dependencies were done. -/
def Skipped (s : Progress α) (step : PlaybookStep) : Prop :=
  (∃ before after, s.history = before ++ .skipped step.id :: after ∧
    Free (replay env before) step ∧
    holds env step (replay env before).completed (replay env before).outputs = false) ∧
  (∀ output, .executed step.id output ∉ s.history) ∧
  s.outputs step.id = some env.skipOutput

/-- The execution returns, and every step was executed once or skipped. -/
def Completes (fuel : ℕ) : Prop :=
  ∃ s, loop env steps fuel initial = .completed s ∧
    ∀ step ∈ steps, Ran env s.history step ∨ Skipped env s step

def RunsToCompletion (fuel : ℕ) : Prop :=
  (WellFormed steps → Completes env steps fuel) ∧
    (¬ WellFormed steps → ∃ message s, loop env steps fuel initial = .raised message s)

/-- Read in their order, the free steps are not all skipped. -/
def Offers : List PlaybookStep → Progress α → Prop
  | [], _ => False
  | step :: rest, s =>
      if Free s step then
        holds env step s.completed s.outputs = true ∨ Offers rest (skip env s step)
      else Offers rest s

variable {env steps}

structure Scanned (env : Surroundings α) (steps rest : List PlaybookStep) (s : Progress α)
    (ready : List PlaybookStep) (s' : Progress α) : Prop where
  sound : Sound env steps s'
  sublist : ready.Sublist rest
  open_ready : ∀ step ∈ ready, step.id ∉ s'.completed ∧ .ready step.id ∈ s'.history
  ready_mem : ∀ x, .ready x ∈ s'.history → .ready x ∈ s.history ∨ x ∈ ready.map PlaybookStep.id
  grows : s.completed ⊆ s'.completed
  kept : ∀ event ∈ s.history, event ∈ s'.history
  known : ∀ x ∈ s'.completed, x ∈ s.completed ∨ x ∈ rest.map PlaybookStep.id

theorem getReadySteps_cons {rest : List PlaybookStep} {s : Progress α} {step : PlaybookStep} :
    getReadySteps env (step :: rest) s =
      if Free s step then
        if holds env step s.completed s.outputs then
          (step :: (getReadySteps env rest (markReady s step)).1,
            (getReadySteps env rest (markReady s step)).2)
        else getReadySteps env rest (skip env s step)
      else getReadySteps env rest s := by
  rw [getReadySteps]
  by_cases hopen : step.id ∈ s.completed
  · rw [if_pos hopen, if_neg fun h => h.1 hopen]
  · rw [if_neg hopen]
    by_cases hdeps : ∀ dep ∈ step.dependsOn, dep ∈ s.completed
    · rw [if_pos hdeps, if_pos (show Free s step from ⟨hopen, hdeps⟩)]
    · rw [if_neg hdeps, if_neg fun h => hdeps h.2]

theorem Scanned.cons_closed {rest : List PlaybookStep} {s s' : Progress α}
    {ready : List PlaybookStep} {step : PlaybookStep}
    (h : Scanned env steps rest s ready s') : Scanned env steps (step :: rest) s ready s' where
  sound := h.sound
  sublist := h.sublist.cons step
  open_ready := h.open_ready
  ready_mem := h.ready_mem
  grows := h.grows
  kept := h.kept
  known x hx := (h.known x hx).imp id fun hmem => List.mem_cons_of_mem step.id hmem

theorem Scanned.cons_ready {rest : List PlaybookStep} {s s' : Progress α}
    {ready : List PlaybookStep} {step : PlaybookStep}
    (h : Scanned env steps rest (markReady s step) ready s') (hopen : step.id ∉ s.completed)
    (hne : step.id ∉ rest.map PlaybookStep.id) :
    Scanned env steps (step :: rest) s (step :: ready) s' where
  sound := h.sound
  sublist := h.sublist.cons_cons step
  open_ready other hother := by
    rcases List.mem_cons.mp hother with rfl | hother
    · refine ⟨fun hcompleted => (h.known other.id hcompleted).elim hopen hne, ?_⟩
      exact h.kept _ (List.mem_append_right s.history (List.mem_singleton.mpr rfl))
    · exact h.open_ready other hother
  ready_mem x hx := by
    rcases h.ready_mem x hx with hmarked | hmem
    · rcases List.mem_append.mp hmarked with hold | hnew
      · exact .inl hold
      · rw [Event.ready.inj (List.mem_singleton.mp hnew)]
        exact .inr List.mem_cons_self
    · exact .inr (List.mem_cons_of_mem step.id hmem)
  grows := h.grows
  kept event hevent := h.kept event (List.mem_append_left _ hevent)
  known x hx := (h.known x hx).imp id fun hmem => List.mem_cons_of_mem step.id hmem

theorem Scanned.cons_skipped {rest : List PlaybookStep} {s s' : Progress α}
    {ready : List PlaybookStep} {step : PlaybookStep}
    (h : Scanned env steps rest (skip env s step) ready s') :
    Scanned env steps (step :: rest) s ready s' where
  sound := h.sound
  sublist := h.sublist.cons step
  open_ready := h.open_ready
  ready_mem x hx := by
    refine (h.ready_mem x hx).imp (fun hmarked => ?_) id
    rcases List.mem_append.mp hmarked with hold | hnew
    · exact hold
    · cases List.mem_singleton.mp hnew
  grows := (Finset.subset_insert step.id s.completed).trans h.grows
  kept event hevent := h.kept event (List.mem_append_left _ hevent)
  known x hx := by
    rcases h.known x hx with hcompleted | hmem
    · rcases Finset.mem_insert.mp hcompleted with rfl | hcompleted
      · exact .inr List.mem_cons_self
      · exact .inl hcompleted
    · exact .inr (List.mem_cons_of_mem step.id hmem)

theorem scanned {rest : List PlaybookStep} {s : Progress α} (h : Sound env steps s)
    (hsteps : ∀ step ∈ rest, step ∈ steps) (hdistinct : (rest.map PlaybookStep.id).Nodup)
    (hfresh : ∀ step ∈ rest, .ready step.id ∈ s.history → step.id ∈ s.completed) :
    Scanned env steps rest s (getReadySteps env rest s).1 (getReadySteps env rest s).2 := by
  induction rest generalizing s with
  | nil =>
      exact ⟨h, List.Sublist.refl _, nofun, fun _ => .inl, Finset.Subset.refl _, fun _ => id,
        fun _ => .inl⟩
  | cons step rest ih =>
      have hstep : step ∈ steps := hsteps step List.mem_cons_self
      have hrest : ∀ other ∈ rest, other ∈ steps :=
        fun other hother => hsteps other (List.mem_cons_of_mem step hother)
      obtain ⟨hne, hdistinct⟩ := List.nodup_cons.mp hdistinct
      have hfresh' : ∀ other ∈ rest, .ready other.id ∈ s.history → other.id ∈ s.completed :=
        fun other hother => hfresh other (List.mem_cons_of_mem step hother)
      rw [getReadySteps_cons]
      by_cases hfree : Free s step
      · have hunmarked : .ready step.id ∉ s.history :=
          fun hmarked => hfree.1 (hfresh step List.mem_cons_self hmarked)
        rw [if_pos hfree]
        by_cases hholds : holds env step s.completed s.outputs = true
        · rw [if_pos hholds]
          have hsound : Sound env steps (markReady s step) :=
            h.apply (.ready step.id) ⟨step, hstep, rfl, hfree, hunmarked, hholds⟩
          refine (ih hsound hrest hdistinct fun other hother hmarked => ?_).cons_ready hfree.1 hne
          rcases List.mem_append.mp hmarked with hold | hnew
          · exact hfresh' other hother hold
          · have heq : other.id = step.id := Event.ready.inj (List.mem_singleton.mp hnew)
            exact absurd (heq ▸ List.mem_map_of_mem hother) hne
        · rw [if_neg hholds]
          have hsound : Sound env steps (skip env s step) :=
            h.apply (.skipped step.id)
              ⟨step, hstep, rfl, hfree, hunmarked, eq_false_of_ne_true hholds⟩
          refine (ih hsound hrest hdistinct fun other hother hmarked => ?_).cons_skipped
          rcases List.mem_append.mp hmarked with hold | hnew
          · exact Finset.mem_insert_of_mem (hfresh' other hother hold)
          · cases List.mem_singleton.mp hnew
      · rw [if_neg hfree]
        exact (ih h hrest hdistinct hfresh').cons_closed

theorem getReadySteps_eq_nil_iff {rest : List PlaybookStep} {s : Progress α} :
    (getReadySteps env rest s).1 = [] ↔ ¬ Offers env rest s := by
  induction rest generalizing s with
  | nil => exact iff_of_true rfl id
  | cons step rest ih =>
      rw [getReadySteps_cons, Offers]
      by_cases hfree : Free s step
      · rw [if_pos hfree, if_pos hfree]
        by_cases hholds : holds env step s.completed s.outputs = true
        · rw [if_pos hholds]
          exact iff_of_false (List.cons_ne_nil _ _) (not_not.mpr (.inl hholds))
        · rw [if_neg hholds, ih, or_iff_right hholds]
      · rw [if_neg hfree, if_neg hfree, ih]

structure Resting (env : Surroundings α) (steps : List PlaybookStep) (s : Progress α) :
    Prop where
  sound : Sound env steps s
  settled : ∀ x, .ready x ∈ s.history → x ∈ s.completed
  known : ∀ x ∈ s.completed, x ∈ steps.map PlaybookStep.id

theorem resting_initial : Resting env steps (initial : Progress α) :=
  ⟨sound_initial, nofun, fun x hx => absurd hx (Finset.notMem_empty x)⟩

theorem Resting.completed_subset {s : Progress α} (h : Resting env steps s) :
    s.completed ⊆ (steps.map PlaybookStep.id).toFinset :=
  fun x hx => List.mem_toFinset.mpr (h.known x hx)

section Turns

variable (hgates : ∀ step ∈ steps, step.gateRequired = false)
  (hexecutes : ∀ s, ∀ step ∈ steps, ∃ output, env.executeStep s step = .ok output)

include hgates hexecutes

theorem runStep_eq {s : Progress α} {step : PlaybookStep} (hstep : step ∈ steps) :
    ∃ output, runStep env s step = .next (apply env s (.executed step.id output)) := by
  obtain ⟨output, houtput⟩ := hexecutes s step hstep
  refine ⟨output, ?_⟩
  rw [runStep, houtput, hgates step hstep]
  rfl

theorem runSteps_eq {ready : List PlaybookStep} {s : Progress α} (h : Sound env steps s)
    (hsteps : ∀ step ∈ ready, step ∈ steps) (hdistinct : (ready.map PlaybookStep.id).Nodup)
    (hopen : ∀ step ∈ ready, step.id ∉ s.completed ∧ .ready step.id ∈ s.history) :
    ∃ s', runSteps env ready s = .next s' ∧ Sound env steps s' ∧
      (∀ x, x ∈ s'.completed ↔ x ∈ s.completed ∨ x ∈ ready.map PlaybookStep.id) ∧
      ∀ x, .ready x ∈ s'.history → .ready x ∈ s.history := by
  induction ready generalizing s with
  | nil => exact ⟨s, rfl, h, fun x => (or_iff_left List.not_mem_nil).symm, fun _ => id⟩
  | cons step ready ih =>
      obtain ⟨output, hrun⟩ := runStep_eq hgates hexecutes (s := s) (hsteps step List.mem_cons_self)
      obtain ⟨hne, hdistinct⟩ := List.nodup_cons.mp hdistinct
      have hnext : Sound env steps (apply env s (.executed step.id output)) :=
        h.apply _ (hopen step List.mem_cons_self)
      obtain ⟨s', hruns, hsound, hcompleted, hready⟩ := ih hnext
        (fun other hother => hsteps other (List.mem_cons_of_mem step hother)) hdistinct
        fun other hother => by
          obtain ⟨hother_open, hmarked⟩ := hopen other (List.mem_cons_of_mem step hother)
          refine ⟨fun hmem => ?_, List.mem_append_left _ hmarked⟩
          rcases Finset.mem_insert.mp hmem with heq | hmem
          · exact hne (heq ▸ List.mem_map_of_mem hother)
          · exact hother_open hmem
      refine ⟨s', ?_, hsound, fun x => ?_, fun x hx => ?_⟩
      · rw [runSteps, hrun]
        exact hruns
      · rw [hcompleted, List.map_cons, List.mem_cons]
        show x ∈ insert step.id s.completed ∨ _ ↔ _
        rw [Finset.mem_insert]
        tauto
      · rcases List.mem_append.mp (hready x hx) with hold | hnew
        · exact hold
        · cases List.mem_singleton.mp hnew

variable (hdistinct : (steps.map PlaybookStep.id).Nodup)

include hdistinct

theorem turn_spec {s : Progress α} (h : Resting env steps s) :
    runSteps env (getReadySteps env steps s).1 (getReadySteps env steps s).2 =
        .next (turn env steps s) ∧
      Resting env steps (turn env steps s) ∧
      s.completed ⊆ (turn env steps s).completed ∧
      (Offers env steps s → s.completed.card < (turn env steps s).completed.card) := by
  have hscan := scanned h.sound (fun _ => id) hdistinct fun step _ => h.settled step.id
  obtain ⟨s', hruns, hsound, hcompleted, hready⟩ :=
    runSteps_eq hgates hexecutes hscan.sound (fun step hstep => hscan.sublist.subset hstep)
      ((hscan.sublist.map PlaybookStep.id).nodup hdistinct) hscan.open_ready
  have hturn : turn env steps s = s' := by
    rw [turn, hruns]
    rfl
  rw [hturn]
  have hgrows : s.completed ⊆ s'.completed :=
    fun x hx => (hcompleted x).mpr (.inl (hscan.grows hx))
  refine ⟨hruns, ⟨hsound, fun x hx => ?_, fun x hx => ?_⟩, hgrows, fun hoffers => ?_⟩
  · rw [hcompleted]
    rcases hscan.ready_mem x (hready x hx) with hold | hnew
    · exact .inl (hscan.grows (h.settled x hold))
    · exact .inr hnew
  · rcases (hcompleted x).mp hx with hmem | hmem
    · exact (hscan.known x hmem).elim (h.known x) id
    · exact (hscan.sublist.map PlaybookStep.id).subset hmem
  · have hne : (getReadySteps env steps s).1 ≠ [] :=
      fun hnil => getReadySteps_eq_nil_iff.mp hnil hoffers
    obtain ⟨step, hstep⟩ := List.exists_mem_of_ne_nil _ hne
    refine Finset.card_lt_card ((Finset.ssubset_iff_of_subset hgrows).mpr ⟨step.id, ?_, ?_⟩)
    · exact (hcompleted step.id).mpr (.inr (List.mem_map_of_mem hstep))
    · exact fun hmem => (hscan.open_ready step hstep).1 (hscan.grows hmem)

theorem iterate_turn_spec {s : Progress α} (h : Resting env steps s) (n : ℕ) :
    Resting env steps ((turn env steps)^[n] s) ∧
      s.completed ⊆ ((turn env steps)^[n] s).completed := by
  induction n with
  | zero => exact ⟨h, Finset.Subset.refl _⟩
  | succ n ih =>
      rw [Function.iterate_succ_apply']
      obtain ⟨-, hresting, hgrows, -⟩ := turn_spec hgates hexecutes hdistinct ih.1
      exact ⟨hresting, ih.2.trans hgrows⟩

theorem loop_spec (fuel : ℕ) {s : Progress α} (h : Resting env steps s)
    (hfuel : steps.length ≤ fuel + s.completed.card) :
    (∃ s', loop env steps fuel s = .completed s' ∧ Resting env steps s' ∧
        steps.length ≤ s'.completed.card ∧
        ∀ n, ((turn env steps)^[n] s).completed.card < steps.length →
          Offers env steps ((turn env steps)^[n] s)) ∨
      (∃ message s', loop env steps fuel s = .raised message s' ∧
        ∃ n, ((turn env steps)^[n] s).completed.card < steps.length ∧
          ¬ Offers env steps ((turn env steps)^[n] s)) := by
  induction fuel generalizing s with
  | zero =>
      have hdone : ¬ s.completed.card < steps.length := by omega
      refine .inl ⟨s, by rw [loop, if_neg hdone], h, not_lt.mp hdone, fun n hn => ?_⟩
      have hgrows := (iterate_turn_spec hgates hexecutes hdistinct h n).2
      exact absurd ((Finset.card_le_card hgrows).trans_lt hn) hdone
  | succ fuel ih =>
      by_cases hdone : s.completed.card < steps.length
      · obtain ⟨hruns, hresting, -, hcard⟩ := turn_spec hgates hexecutes hdistinct h
        by_cases hoffers : Offers env steps s
        · have hfound : (getReadySteps env steps s).1 ≠ [] :=
            fun hnil => getReadySteps_eq_nil_iff.mp hnil hoffers
          have hloop : loop env steps (fuel + 1) s = loop env steps fuel (turn env steps s) := by
            rw [loop, if_pos hdone]
            simp only [if_neg hfound, hruns]
          have hless := hcard hoffers
          rw [hloop]
          rcases ih hresting (by omega) with
            ⟨s', hend, hrest, hall, hturns⟩ | ⟨message, s', hend, n, hn⟩
          · refine .inl ⟨s', hend, hrest, hall, fun n hn => ?_⟩
            cases n with
            | zero => exact hoffers
            | succ n => exact hturns n hn
          · exact .inr ⟨message, s', hend, n + 1, hn⟩
        · have hraised : loop env steps (fuel + 1) s =
              .raised "Circular dependency or missing dependencies detected"
                (getReadySteps env steps s).2 := by
            rw [loop, if_pos hdone]
            exact if_pos (getReadySteps_eq_nil_iff.mpr hoffers)
          exact .inr ⟨_, _, hraised, 0, hdone, hoffers⟩
      · refine .inl ⟨s, by rw [loop, if_neg hdone], h, not_lt.mp hdone, fun n hn => ?_⟩
        have hgrows := (iterate_turn_spec hgates hexecutes hdistinct h n).2
        exact absurd ((Finset.card_le_card hgrows).trans_lt hn) hdone

end Turns

section History

variable {s : Progress α} {before after : List (Event α)} {step : PlaybookStep}

theorem eq_of_id_eq (hdistinct : (steps.map PlaybookStep.id).Nodup) {other : PlaybookStep}
    (hother : other ∈ steps) (hstep : step ∈ steps) (hid : other.id = step.id) : other = step :=
  List.inj_on_of_nodup_map hdistinct hother hstep hid

theorem found_ready (hdistinct : (steps.map PlaybookStep.id).Nodup) (h : Sound env steps s)
    (hstep : step ∈ steps) {output : α}
    (hsplit : s.history = before ++ .executed step.id output :: after) :
    ∃ earlier later, before = earlier ++ .ready step.id :: later ∧
      Free (replay env earlier) step ∧
      holds env step (replay env earlier).completed (replay env earlier).outputs = true := by
  obtain ⟨-, hmarked⟩ := h.fits hsplit
  rw [history_replay] at hmarked
  obtain ⟨earlier, later, rfl⟩ := List.append_of_mem hmarked
  rw [List.append_assoc, List.cons_append] at hsplit
  obtain ⟨other, hother, hid, hfree, -, hholds⟩ := h.fits hsplit
  obtain rfl := eq_of_id_eq hdistinct hother hstep hid
  exact ⟨earlier, later, rfl, hfree, hholds⟩

theorem dependencies_completed (hdistinct : (steps.map PlaybookStep.id).Nodup)
    (h : Sound env steps s) (hstep : step ∈ steps) {event : Event α} {output : α}
    (hsplit : s.history = before ++ event :: after)
    (hevent : outcome env event = some (step.id, output)) :
    ∀ dep ∈ step.dependsOn, dep ∈ (replay env before).completed := by
  intro dep hdep
  cases event with
  | ready => cases hevent
  | executed x output' =>
      obtain ⟨rfl, rfl⟩ : x = step.id ∧ output' = output := by
        simpa [outcome] using hevent
      obtain ⟨earlier, later, rfl, hfree, -⟩ := found_ready hdistinct h hstep hsplit
      have hbefore := h.before hsplit
      obtain ⟨done, hdone, concluded⟩ :=
        ((hbefore.before (history_replay _)).mem_completed).mp (hfree.2 dep hdep)
      rw [history_replay] at hdone
      rw [hbefore.mem_completed, history_replay]
      exact ⟨done, List.mem_append_left _ hdone, concluded⟩
  | skipped x =>
      obtain ⟨rfl, rfl⟩ : x = step.id ∧ env.skipOutput = output := by
        simpa [outcome] using hevent
      obtain ⟨other, hother, hid, hfree, -⟩ := h.fits hsplit
      obtain rfl := eq_of_id_eq hdistinct hother hstep hid
      exact hfree.2 dep hdep

theorem not_completed_of_trapped (hdistinct : (steps.map PlaybookStep.id).Nodup)
    (h : Sound env steps s) {c : Set String}
    (htrapped : Dependencies.Trapped (needs steps) c) {x : String} (hx : x ∈ c) :
    x ∉ s.completed := by
  have horder : ∀ x before event after, s.history = before ++ event :: after →
      (∃ output, outcome env event = some (x, output)) → ∀ dep, needs steps x dep →
      ∃ earlier ∈ before, ∃ output, outcome env earlier = some (dep, output) := by
    rintro x before event after hsplit ⟨output, hevent⟩ dep ⟨step, hstep, rfl, hdep⟩
    have hdone := dependencies_completed hdistinct h hstep hsplit hevent dep hdep
    rw [(h.before hsplit).mem_completed, history_replay] at hdone
    exact hdone
  intro hcompleted
  obtain ⟨event, hmem, hevent⟩ := h.mem_completed.mp hcompleted
  exact Dependencies.not_marked_of_trapped horder htrapped hx event hmem hevent

theorem ran_or_skipped (hdistinct : (steps.map PlaybookStep.id).Nodup) (h : Sound env steps s)
    (hstep : step ∈ steps) (hcompleted : step.id ∈ s.completed) :
    Ran env s.history step ∨ Skipped env s step := by
  obtain ⟨event, hmem, output, hevent⟩ := h.mem_completed.mp hcompleted
  obtain ⟨before, after, hsplit⟩ := List.append_of_mem hmem
  have hother : ∀ other ∈ before ++ after, ∀ output',
      outcome env other ≠ some (step.id, output') :=
    fun other hother output' => h.concluded_once hsplit hevent hother
  cases event with
  | ready => cases hevent
  | executed x output' =>
      obtain ⟨rfl, rfl⟩ : x = step.id ∧ output' = output := by
        simpa [outcome] using hevent
      refine .inl ⟨before, output', after, hsplit, ?_, fun hskipped => ?_,
        found_ready hdistinct h hstep hsplit⟩
      · rintro other hmem output rfl
        exact hother _ hmem output rfl
      · rw [hsplit] at hskipped
        have hrest : .skipped step.id ∈ before ++ after := by simpa using hskipped
        exact hother _ hrest env.skipOutput rfl
  | skipped x =>
      obtain ⟨rfl, rfl⟩ : x = step.id ∧ env.skipOutput = output := by
        simpa [outcome] using hevent
      obtain ⟨found, hfound, hid, hfree, -, hholds⟩ := h.fits hsplit
      obtain rfl := eq_of_id_eq hdistinct hfound hstep hid
      refine .inr ⟨⟨before, after, hsplit, hfree, hholds⟩, fun output hexecuted => ?_,
        h.outputs_eq hmem hevent⟩
      rw [hsplit] at hexecuted
      have hrest : .executed found.id output ∈ before ++ after := by simpa using hexecuted
      exact hother _ hrest output rfl

end History

theorem wellFormed_of_completed {s : Progress α} (hdistinct : (steps.map PlaybookStep.id).Nodup)
    (h : Resting env steps s) (hcard : steps.length ≤ s.completed.card) :
    WellFormed steps ∧ ∀ step ∈ steps, step.id ∈ s.completed := by
  have hids : (steps.map PlaybookStep.id).toFinset.card = steps.length := by
    rw [List.toFinset_card_of_nodup hdistinct, List.length_map]
  have hall : s.completed = (steps.map PlaybookStep.id).toFinset :=
    Finset.eq_of_subset_of_card_le h.completed_subset (hids.trans_le hcard)
  have hcompleted : ∀ step ∈ steps, step.id ∈ s.completed := by
    intro step hstep
    rw [hall]
    exact List.mem_toFinset.mpr (List.mem_map_of_mem hstep)
  refine ⟨⟨?_, fun x hcycle => ?_⟩, hcompleted⟩
  · rintro x dep ⟨step, hstep, rfl, hdep⟩
    obtain ⟨event, hmem, output, hevent⟩ := h.sound.mem_completed.mp (hcompleted step hstep)
    obtain ⟨before, after, hsplit⟩ := List.append_of_mem hmem
    have hdone := dependencies_completed hdistinct h.sound hstep hsplit hevent dep hdep
    rw [(h.sound.before hsplit).mem_completed, history_replay] at hdone
    obtain ⟨earlier, hearlier, hconcluded⟩ := hdone
    refine h.known dep (h.sound.mem_completed.mpr ⟨earlier, ?_, hconcluded⟩)
    rw [hsplit]
    exact List.mem_append_left _ hearlier
  · obtain ⟨y, ⟨step, hstep, rfl, -⟩, -⟩ := Relation.TransGen.head'_iff.mp hcycle
    exact not_completed_of_trapped hdistinct h.sound Dependencies.trapped_cycles hcycle
      (hcompleted step hstep)

/-- A playbook whose steps neither fail nor wait for a gate runs to completion exactly when,
at each turn of the loop, the steps that have become free are not all skipped. -/
theorem runs_to_completion_iff (hdistinct : (steps.map PlaybookStep.id).Nodup)
    (hgates : ∀ step ∈ steps, step.gateRequired = false)
    (hexecutes : ∀ s, ∀ step ∈ steps, ∃ output, env.executeStep s step = .ok output)
    {fuel : ℕ} (hfuel : steps.length ≤ fuel) :
    RunsToCompletion env steps fuel ↔
      (WellFormed steps → ∀ n, ((turn env steps)^[n] initial).completed.card < steps.length →
        Offers env steps ((turn env steps)^[n] initial)) := by
  have hloop := loop_spec hgates hexecutes hdistinct fuel resting_initial
    (hfuel.trans (Nat.le_add_right fuel _))
  constructor
  · intro hruns hformed
    obtain ⟨s, hend, -⟩ := hruns.1 hformed
    rcases hloop with ⟨-, -, -, -, hturns⟩ | ⟨message, s', hraised, -⟩
    · exact hturns
    · rw [hend] at hraised
      cases hraised
  · intro hturns
    rcases hloop with ⟨s, hend, hrest, hall, -⟩ | ⟨message, s, hraised, n, hopen, hstuck⟩
    · obtain ⟨hformed, hcompleted⟩ := wellFormed_of_completed hdistinct hrest hall
      refine ⟨fun _ => ⟨s, hend, fun step hstep => ?_⟩, fun hnot => absurd hformed hnot⟩
      exact ran_or_skipped hdistinct hrest.sound hstep (hcompleted step hstep)
    · exact ⟨fun hformed => absurd (hturns hformed n hopen) hstuck,
        fun _ => ⟨message, s, hraised⟩⟩

def draft : PlaybookStep :=
  { id := "draft", dependsOn := [], condition := none, gateRequired := false }

def notify : PlaybookStep :=
  { id := "notify", dependsOn := [], condition := some "{{input.notify}}", gateRequired := false }

def unconditioned : Surroundings String :=
  { evaluateCondition := fun _ _ _ => false
    executeStep := fun _ step => .ok step.id
    gateAction := fun _ => none
    skipOutput := "skipped" }

theorem runs_to_completion_beside_skip : RunsToCompletion unconditioned [draft, notify] 2 := by
  refine (runs_to_completion_iff (by decide) (by decide) (fun _ step _ => ⟨step.id, rfl⟩)
    le_rfl).mpr fun _ n hopen => ?_
  cases n with
  | zero => exact Or.inl rfl
  | succ n =>
      have hsettled : turn unconditioned [draft, notify]
          (turn unconditioned [draft, notify] initial) =
            turn unconditioned [draft, notify] initial := rfl
      rw [Function.iterate_succ_apply, Function.iterate_fixed hsettled] at hopen
      exact absurd hopen (by decide)

/-- A playbook whose only step is skipped is taken for a circular one. -/
theorem skipped_only_step_raises : WellFormed [notify] ∧
    (∃ s, loop unconditioned [notify] 1 initial =
      .raised "Circular dependency or missing dependencies detected" s) ∧
    ¬ RunsToCompletion unconditioned [notify] 1 := by
  have hformed : WellFormed [notify] := by
    refine ⟨?_, Dependencies.acyclic_of_rank (fun _ => 0) ?_⟩
    all_goals
      rintro x dep ⟨step, hstep, -, hdep⟩
      rw [List.mem_singleton.mp hstep] at hdep
      cases hdep
  have hraised : loop unconditioned [notify] 1 initial =
      .raised "Circular dependency or missing dependencies detected"
        (skip unconditioned initial notify) := rfl
  refine ⟨hformed, ⟨_, hraised⟩, fun hruns => ?_⟩
  obtain ⟨s, hend, -⟩ := hruns.1 hformed
  rw [hraised] at hend
  cases hend

end MindscapeLocalCore.Workflow.ConditionalSteps
