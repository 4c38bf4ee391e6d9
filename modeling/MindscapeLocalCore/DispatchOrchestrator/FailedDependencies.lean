import MindscapeLocalCore.DispatchOrchestrator.History

/-!
What a failed phase does to the phases that depend on it. The dependents of a dispatched
phase are checked for failed dependencies; those of a skipped phase are not.
-/

namespace MindscapeLocalCore.DispatchOrchestrator.FailedDependencies

open Library Library.Dependencies Execution Accounts Registration History

variable {s s' : Run} {todo queue rest : List String} {late : String → List String}
variable {d x y : String} {skipPolicy : String}
variable {outcome : String → Dispatched} {phases : List PhaseIR} {phase : PhaseIR}

/-- `d` is an in-graph dependency of `x`. -/
def Needs (phases : List PhaseIR) (x d : String) : Prop :=
  ∃ phase ∈ phases, phase.id = x ∧ d ∈ phase.dependencies ∧ d ∈ phases.map PhaseIR.id

/-- At the end of a walk: a phase whose strategy is not `retry` and that depends on a
phase which did not complete is skipped with one attempt that says so, and a phase all of
whose dependencies completed is dispatched once, after they have finished. -/
structure StopsDependents (phases : List PhaseIR) (s : Run) : Prop where
  skipped : ∀ phase ∈ phases, phase.rollbackStrategy ≠ some "retry" →
    (∃ d, Needs phases phase.id d ∧ s.phaseStatus d ≠ .completed) →
      s.phaseStatus phase.id = .skipped ∧ attemptsOf s phase.id = [upstreamAttempt phase.id] ∧
        .dispatched phase.id ∉ s.history
  dispatched : ∀ phase ∈ phases,
    (∀ d, Needs phases phase.id d → s.phaseStatus d = .completed) →
      ∃ before rest, s.history = before ++ .dispatched phase.id :: rest ∧
        .dispatched phase.id ∉ before ∧ .dispatched phase.id ∉ rest ∧
        ∀ d, Needs phases phase.id d → .finished d .completed ∈ before

section Conditions

variable (skipPolicy : String) (outcome : String → Dispatched)

/-- A phase that is about to be skipped is the only one that a dependent still waits
for just if the strategy of the dependent is `retry`. -/
def SkipsAlone (s : Run) (x : String) : Prop :=
  s.inDegree x = 1 → shouldSkip skipPolicy s x = true →
    ∀ phase ∈ s.phases, phase.id ∈ s.dependents x →
      s.inDegree phase.id = (s.dependents x).count phase.id →
        phase.rollbackStrategy = some "retry"

def SettlesAlone (s : Run) (pid : String) : Prop :=
  Trace.Along (releaseDependent skipPolicy) (SkipsAlone skipPolicy)
    (recordResult s pid (outcome pid).result) (s.dependents pid)

def WaveAlone (s : Run) : Prop :=
  Trace.Along (settle skipPolicy outcome) (SettlesAlone skipPolicy outcome)
    (launch outcome s) s.ready

end Conditions

theorem strategy_eq_retry : phase.strategy = "retry" ↔ phase.rollbackStrategy = some "retry" := by
  rw [PhaseIR.strategy]
  cases phase.rollbackStrategy with
  | none => exact iff_of_false (by decide) nofun
  | some text =>
      simp only [Option.some.injEq]
      split
      · rename_i hempty
        rw [hempty]
        exact iff_of_false (by decide) (by decide)
      · rfl

/-- A phase that is queued or was dispatched has completed dependencies only, unless its
strategy is `retry`. -/
def Honest (s : Run) (queue : List String) : Prop :=
  ∀ phase ∈ s.phases, phase.rollbackStrategy ≠ some "retry" →
    (phase.id ∈ queue ∨ .dispatched phase.id ∈ s.history) →
      ∀ d, phase.id ∈ s.dependents d → d ∈ s.completedPhases

/-! ### The dependents of a skipped phase -/

theorem mem_nextReady_releaseSubs (subs : List String) :
    ∀ {s : Run}, (∀ y ∈ subs, (subs.count y : ℤ) ≤ s.inDegree y) →
      (y ∈ (subs.foldl releaseSub s).nextReady ↔
        y ∈ s.nextReady ∨ (y ∈ subs ∧ s.inDegree y = subs.count y)) := by
  induction subs with
  | nil => simp
  | cons sub subs ih =>
      intro s hle
      have hdegree : (releaseSub s sub).inDegree = (decrement s sub).inDegree := by
        rw [releaseSub]
        split
        · rfl
        · rfl
      have hle' : ∀ y ∈ subs, (subs.count y : ℤ) ≤ (releaseSub s sub).inDegree y := by
        intro y hy
        have hy' := hle y (List.mem_cons_of_mem sub hy)
        rw [List.count_cons] at hy'
        rw [hdegree]
        by_cases hne : y = sub
        · subst hne
          rw [beq_self_eq_true, if_pos rfl] at hy'
          rw [inDegree_decrement_self]
          omega
        · rw [inDegree_decrement_of_ne hne]
          split at hy' <;> omega
      rw [List.foldl_cons, ih hle', hdegree]
      have hnext : y ∈ (releaseSub s sub).nextReady ↔
          y ∈ s.nextReady ∨ (y = sub ∧ s.inDegree sub = 1) := by
        rw [releaseSub, inDegree_decrement_self]
        split
        · rw [pushReady, List.mem_append, List.mem_singleton]
          exact or_congr Iff.rfl (and_iff_left (by omega)).symm
        · exact (or_iff_left fun h => absurd h.2 (by omega)).symm
      rw [hnext]
      by_cases hne : y = sub
      · subst hne
        have hself := hle y List.mem_cons_self
        rw [List.count_cons_self] at hself
        rw [inDegree_decrement_self, List.count_cons_self]
        by_cases hmem : y ∈ subs
        · have hpos := List.count_pos_iff.mpr hmem
          simp only [true_and, List.mem_cons_self, hmem]
          push_cast at hself ⊢
          constructor
          · rintro ((h | h) | h)
            · exact .inl h
            · omega
            · exact .inr (by omega)
          · rintro (h | h)
            · exact .inl (.inl h)
            · exact .inr (by omega)
        · simp only [true_and, List.mem_cons_self, hmem, false_and, or_false,
            List.count_eq_zero.mpr hmem]
          push_cast
          exact Iff.rfl
      · rw [inDegree_decrement_of_ne hne, List.count_cons_of_ne (Ne.symm hne), List.mem_cons]
        simp only [hne, false_and, or_false, false_or]

theorem mem_nextReady_skip (h : Releasing s d (x :: rest) todo late) (hone : s.inDegree x = 1) :
    y ∈ ((s.dependents x).foldl releaseSub (skipUpstream (decrement s x) x)).nextReady ↔
      y ∈ s.nextReady ∨ (y ∈ s.dependents x ∧ s.inDegree y = (s.dependents x).count y) := by
  have hself : x ∉ s.dependents x := fun hedge =>
    h.waiting.2.2.2 (h.finished_of_edge hone hedge)
  have hdegree : ∀ y ∈ s.dependents x, (decrement s x).inDegree y = s.inDegree y := by
    intro y hy
    exact inDegree_decrement_of_ne fun heq => hself (heq ▸ hy)
  have hle : ∀ y ∈ s.dependents x, ((s.dependents x).count y : ℤ) ≤
      (skipUpstream (decrement s x) x).inDegree y := by
    intro y hy
    have hleft : left s (Function.update late d (x :: rest)) x = s.dependents x :=
      if_neg h.waiting.2.2.2
    have hcount : (left s (Function.update late d (x :: rest)) x).count y ≤
        incoming s.ids (left s (Function.update late d (x :: rest))) y :=
      count_le_incoming h.waiting.1 y
    rw [hleft] at hcount
    show ((s.dependents x).count y : ℤ) ≤ (decrement s x).inDegree y
    rw [hdegree y hy, h.counted.degree y (h.counted.edge x y hy).2]
    exact_mod_cast hcount
  rw [mem_nextReady_releaseSubs _ hle]
  refine or_congr Iff.rfl (and_congr_right fun hy => ?_)
  show (decrement s x).inDegree y = _ ↔ _
  rw [hdegree y hy]

/-- Every edge of the graph is a dependency of a phase. -/
def Edges (s : Run) : Prop :=
  ∀ phase ∈ s.phases, ∀ d, phase.id ∈ s.dependents d → d ∈ phase.dependencies

theorem honest_of_subset {queue' : List String} (h : Honest s' queue')
    (hphases : s'.phases = s.phases) (hdependents : s'.dependents = s.dependents)
    (hcompleted : s'.completedPhases = s.completedPhases) (hqueue : queue ⊆ queue')
    (hhistory : s.history ⊆ s'.history) : Honest s queue := by
  intro phase hphase hstrategy hmem e he
  rw [← hcompleted]
  refine h phase (hphases ▸ hphase) hstrategy (hmem.imp (fun h => hqueue h) fun h => hhistory h)
    e ?_
  rwa [hdependents]

theorem honest_release (hpolicy : skipPolicy ≠ "continue_on_dep_failure") (hedges : Edges s)
    (h : Releasing s d (x :: rest) todo late) :
    Honest (releaseDependent skipPolicy s x) (releaseDependent skipPolicy s x).nextReady ↔
      Honest s s.nextReady ∧ SkipsAlone skipPolicy s x := by
  rcases releaseDependent_cases skipPolicy s x with
    ⟨hone, hrelease⟩ | ⟨hone, hskip, hrelease⟩ | ⟨hone, hskip, hrelease⟩
  · rw [hrelease]
    exact (and_iff_left fun hone' => absurd hone' hone).symm
  · have halone : SkipsAlone skipPolicy s x := by
      intro _ hskip'
      rw [hskip] at hskip'
      exact absurd hskip' Bool.false_ne_true
    rw [hrelease, and_iff_left halone]
    constructor
    · exact fun hh => honest_of_subset hh rfl rfl rfl (List.subset_append_left _ _)
        (List.Subset.refl _)
    · intro hh phase hphase hstrategy hmem e he
      rcases hmem with hmem | hmem
      · rcases List.mem_append.mp hmem with hmem | hmem
        · exact hh phase hphase hstrategy (.inl hmem) e he
        · -- nothing that the phase depends on has failed, as it is not skipped
          have hid : phase.id = x := List.mem_singleton.mp hmem
          have hmap := phaseMap_of_mem h.counted.distinct hphase
          have hno := mt (shouldSkip_iff hpolicy hmap).mpr
            (by rw [hid, hskip]; exact Bool.false_ne_true)
          have hfinished : e ∈ s.finished := by
            refine h.finished_of_edge hone ?_
            rw [← hid]
            exact he
          obtain ⟨status, hstatus⟩ := mem_finished.mp hfinished
          have hgood : ¬ Unsuccessful status := by
            intro hbad
            refine hno ⟨mt strategy_eq_retry.mp hstrategy, e, hedges phase hphase e he,
              (h.counted.edge e phase.id he).1, ?_⟩
            rwa [h.recorded.status status e hstatus]
          cases status with
          | completed => exact hstatus
          | failed => exact absurd (.inl rfl) hgood
          | skipped => exact absurd (.inr rfl) hgood
          | pending => exact absurd hstatus (Finset.notMem_empty e)
          | running => exact absurd hstatus (Finset.notMem_empty e)
      · exact hh phase hphase hstrategy (.inr hmem) e he
  · have hbooks := sameBooks_releaseSubs (s.dependents x) (skipUpstream (decrement s x) x)
    have hnext : ∀ {y}, y ∈ ((s.dependents x).foldl releaseSub
        (skipUpstream (decrement s x) x)).nextReady ↔
        y ∈ s.nextReady ∨ (y ∈ s.dependents x ∧ s.inDegree y = (s.dependents x).count y) :=
      mem_nextReady_skip h hone
    rw [hrelease]
    have hphases := hbooks.phases
    have hdependents := hbooks.dependents
    have hcompleted := hbooks.completed
    have hhistory : ∀ {y}, .dispatched y ∈ ((s.dependents x).foldl releaseSub
        (skipUpstream (decrement s x) x)).history ↔ .dispatched y ∈ s.history := by
      intro y
      rw [hbooks.history]
      show _ ∈ s.history ++ [.finished x .skipped] ↔ _
      rw [List.mem_append, List.mem_singleton]
      exact or_iff_left nofun
    constructor
    · intro hh
      refine ⟨?_, fun _ _ phase hphase hmem hcount => ?_⟩
      · intro phase hphase hstrategy hmem e he
        have hcompleted' := hh phase (hphases ▸ hphase) hstrategy
          (hmem.imp (fun hmem => hnext.mpr (.inl hmem)) hhistory.mpr) e (by rwa [hdependents])
        rwa [hcompleted] at hcompleted'
      · by_contra hstrategy
        have hx := hh phase (hphases ▸ hphase) hstrategy
          (.inl (hnext.mpr (.inr ⟨hmem, hcount⟩))) x (by rwa [hdependents])
        rw [hcompleted] at hx
        exact h.waiting.2.2.2 (mem_finished.mpr ⟨.completed, hx⟩)
    · rintro ⟨hh, halone⟩ phase hphase hstrategy hmem e he
      rw [hphases] at hphase
      rw [hdependents] at he
      rw [hcompleted]
      rcases hmem with hmem | hmem
      · rcases hnext.mp hmem with hmem | ⟨hmem, hcount⟩
        · exact hh phase hphase hstrategy (.inl hmem) e he
        · exact absurd (halone hone hskip phase hphase hmem hcount) hstrategy
      · exact hh phase hphase hstrategy (.inr (hhistory.mp hmem)) e he

/-! ### A wave -/

theorem finished_of_honest_edge (hcounted : Counted s (todo ++ queue) late)
    (hrecorded : Recorded s todo) (hx : x ∈ queue ∨ .dispatched x ∈ s.history)
    (hedge : x ∈ s.dependents d) : d ∈ s.finished := by
  rcases hx with hx | hx
  · exact hcounted.finished_of_edge (.inl (List.mem_append_right _ hx)) hedge
  · by_cases hfinished : x ∈ s.finished
    · exact hcounted.finished_of_edge (.inr hfinished) hedge
    · by_cases htodo : x ∈ todo
      · exact hcounted.finished_of_edge (.inl (List.mem_append_left _ htodo)) hedge
      · exact absurd hx (hrecorded.unlaunched x hfinished htodo).1

theorem honest_record (h : Settling s (x :: todo) late) (result : DispatchResult) :
    Honest (recordResult s x result) (recordResult s x result).nextReady ↔
      Honest s s.nextReady := by
  obtain ⟨hphases, hdependents, -, hnext, -⟩ := phases_recordResult (s := s) (x := x) result
  obtain ⟨status, hfinish, -⟩ := finish_recordResult (s := s) (x := x) result
  have hunfinished := (h.counted.listed x List.mem_cons_self).2
  have hdispatched : ∀ {y}, .dispatched y ∈ (recordResult s x result).history ↔
      .dispatched y ∈ s.history := by
    intro y
    rw [hfinish.history, List.mem_append, List.mem_singleton]
    exact or_iff_left nofun
  constructor
  · intro hh phase hphase hstrategy hmem e he
    have hcompleted := hh phase (hphases ▸ hphase) hstrategy
      (hmem.imp (fun hmem => hnext ▸ hmem) hdispatched.mpr) e (hdependents ▸ he)
    have hmember : e ∈ members (recordResult s x result) .completed := hcompleted
    rcases hfinish.mem_members.mp hmember with hold | ⟨rfl, -⟩
    · exact hold
    · exact absurd (finished_of_honest_edge h.counted h.recorded hmem he) hunfinished
  · intro hh phase hphase hstrategy hmem e he
    rw [hphases] at hphase
    rw [hdependents] at he
    rw [hnext] at hmem
    have hcompleted := hh phase hphase hstrategy (hmem.imp id hdispatched.mp) e he
    have hmember : e ∈ members (recordResult s x result) .completed :=
      hfinish.mem_members.mpr (.inl hcompleted)
    exact hmember

theorem edges_of_graph (h : Edges s) (hgraph : SameGraph s s') : Edges s' := by
  rw [Edges, hgraph.phases, hgraph.dependents]
  exact h

theorem honest_settle (hpolicy : skipPolicy ≠ "continue_on_dep_failure") (hedges : Edges s)
    (h : Settling s (x :: todo) late) :
    Honest (settle skipPolicy outcome s x) (settle skipPolicy outcome s x).nextReady ↔
      Honest s s.nextReady ∧ SettlesAlone skipPolicy outcome s x := by
  have hreleasing := h.record (outcome x).result
  have hedges' := edges_of_graph hedges (sameGraph_recordResult (x := x) (outcome x).result)
  refine (Trace.holds_iff_along (fun s => Honest s s.nextReady)
    (fun s released => Releasing s x released todo late ∧ Edges s)
    (fun s y rest h => ⟨h.1.next, edges_of_graph h.2 sameGraph_releaseDependent⟩)
    (fun s y rest h => honest_release hpolicy h.2 h.1) ⟨hreleasing, hedges'⟩).trans ?_
  exact and_congr_left' (honest_record h (outcome x).result)

theorem history_dispatches (pids : List String) (s : Run) :
    (pids.foldl (dispatch outcome) s).history = s.history ++ pids.map Event.dispatched := by
  induction pids generalizing s with
  | nil => exact (List.append_nil _).symm
  | cons pid pids ih =>
      rw [List.foldl_cons, ih, dispatch, List.append_assoc]
      rfl

theorem honest_launch :
    Honest (launch outcome s) (launch outcome s).nextReady ↔ Honest s s.ready := by
  have hlaunch := launched_launch outcome s
  have hhistory : ∀ {y}, .dispatched y ∈ (launch outcome s).history ↔
      .dispatched y ∈ s.history ∨ y ∈ s.ready := by
    intro y
    rw [launch, history_dispatches, List.mem_append, List.mem_map]
    simp only [Event.dispatched.injEq, exists_eq_right]
  rw [Honest, Honest, hlaunch.phases, hlaunch.dependents, hlaunch.completed, hlaunch.nextReady]
  refine forall₂_congr fun phase _ => forall_congr' fun _ => ?_
  rw [hhistory, or_iff_right List.not_mem_nil, or_comm]

theorem honest_wave (hpolicy : skipPolicy ≠ "continue_on_dep_failure") (hedges : Edges s)
    (h : Resting s late) :
    Honest (wave skipPolicy outcome s) (wave skipPolicy outcome s).ready ↔
      Honest s s.ready ∧ WaveAlone skipPolicy outcome s := by
  have hedges' : Edges (launch outcome s) := by
    rw [Edges, (launched_launch outcome s).phases, (launched_launch outcome s).dependents]
    exact hedges
  have hlaunch : Settling (launch outcome s) s.ready late := h.launch
  refine (Trace.holds_iff_along (fun s => Honest s s.nextReady)
    (fun s pids => Settling s pids late ∧ Edges s)
    (fun s y rest h => ⟨h.1.next, edges_of_graph h.2 sameGraph_settle⟩)
    (fun s y rest h => honest_settle hpolicy h.2 h.1)
    ⟨hlaunch, hedges'⟩).trans ?_
  exact and_congr_left' honest_launch

/-! ### A walk without supervisor -/

section Walk

variable {outcomes : ℕ → String → Dispatched}

/-- Surroundings in which the supervisor injects nothing. -/
def unsupervised (outcomes : ℕ → String → Dispatched) : Surroundings :=
  { outcome := outcomes
    injected := fun _ => [] }

def TurnAlone (skipPolicy : String) (outcomes : ℕ → String → Dispatched) (s : Run) (k : ℕ) :
    Prop :=
  WaveAlone skipPolicy (outcomes k) s

theorem turn_of_ready {k : ℕ} (h : s.ready ≠ []) :
    turn skipPolicy (unsupervised outcomes) s k = wave skipPolicy (outcomes k) s := by
  rw [turn, if_neg h, supervise]
  exact ite_self _

theorem turn_of_idle {env : Surroundings} {k : ℕ} (h : s.ready = []) :
    turn skipPolicy env s k = s := if_pos h

theorem after_succ {env : Surroundings} {n : ℕ} :
    after skipPolicy env phases (n + 1) =
      turn skipPolicy env (after skipPolicy env phases n) n := by
  rw [after, List.range_succ, Trace.stateAfter_append_singleton, after]

/-- The state between two waves of a walk over `phases`. -/
structure Walking (phases : List PhaseIR) (s : Run) : Prop where
  resting : Resting s (fun _ => [])
  listed : s.phases = phases
  edge : ∀ d x, x ∈ s.dependents d ↔ Needs phases x d

theorem walking_start (hdistinct : (phases.map PhaseIR.id).Nodup) :
    Walking phases (start phases) where
  resting := resting_start hdistinct
  listed := phases_start hdistinct
  edge := fun _ _ => mem_dependents_start hdistinct

theorem Walking.turn (h : Walking phases s) (k : ℕ) :
    Walking phases (turn skipPolicy (unsupervised outcomes) s k) := by
  by_cases hready : s.ready = []
  · rwa [turn_of_idle hready]
  · have hgraph : SameGraph s (wave skipPolicy (outcomes k) s) := sameGraph_wave
    rw [turn_of_ready hready]
    refine ⟨h.resting.wave, hgraph.phases.trans h.listed, fun d x => ?_⟩
    rw [hgraph.dependents]
    exact h.edge d x

theorem Walking.edges (h : Walking phases s) : Edges s := by
  intro phase hphase d hd
  obtain ⟨q, hq, hid, hdep, -⟩ := (h.edge d phase.id).mp hd
  rw [h.listed] at hphase
  have hdistinct := h.resting.counted.distinct
  rw [h.listed] at hdistinct
  rwa [List.inj_on_of_nodup_map hdistinct hq hphase hid] at hdep

theorem walking_after (hdistinct : (phases.map PhaseIR.id).Nodup) (n : ℕ) :
    Walking phases (after skipPolicy (unsupervised outcomes) phases n) := by
  induction n with
  | zero => exact walking_start hdistinct
  | succ n ih =>
      rw [after_succ]
      exact ih.turn n

theorem idle_or_progress (hdistinct : (phases.map PhaseIR.id).Nodup) (n : ℕ) :
    (after skipPolicy (unsupervised outcomes) phases n).ready = [] ∨
      n ≤ (after skipPolicy (unsupervised outcomes) phases n).finished.card := by
  induction n with
  | zero => exact .inr (Nat.zero_le _)
  | succ n ih =>
      have hwalking : Walking phases (after skipPolicy (unsupervised outcomes) phases n) :=
        walking_after hdistinct n
      rw [after_succ]
      generalize after skipPolicy (unsupervised outcomes) phases n = s at ih hwalking
      by_cases hready : s.ready = []
      · left
        rwa [turn_of_idle hready]
      · right
        obtain ⟨x, hx⟩ := List.exists_mem_of_ne_nil s.ready hready
        have hx' := (hwalking.resting.counted.listed x hx).2
        rw [turn_of_ready hready]
        have hsub : insert x s.finished ⊆ (wave skipPolicy (outcomes n) s).finished := by
          refine Finset.insert_subset (finished_wave hx) ?_
          exact sameGraph_wave.finished
        have hcard := Finset.card_le_card hsub
        rw [Finset.card_insert_of_notMem hx'] at hcard
        have := ih.resolve_left hready
        omega

theorem returns_unsupervised (hdistinct : (phases.map PhaseIR.id).Nodup) :
    Returns skipPolicy (unsupervised outcomes) phases phases.length := by
  have hwalking : Walking phases (after skipPolicy (unsupervised outcomes) phases phases.length) :=
    walking_after hdistinct phases.length
  have hprogress : (after skipPolicy (unsupervised outcomes) phases phases.length).ready = [] ∨
      phases.length ≤
        (after skipPolicy (unsupervised outcomes) phases phases.length).finished.card :=
    idle_or_progress hdistinct phases.length
  rw [Returns]
  generalize after skipPolicy (unsupervised outcomes) phases phases.length = s
    at hwalking hprogress ⊢
  rcases hprogress with hidle | hcard
  · exact hidle
  · by_contra hready
    obtain ⟨x, hx⟩ := List.exists_mem_of_ne_nil s.ready hready
    have hlisted := hwalking.resting.counted.listed x hx
    have hsub : insert x s.finished ⊆ s.ids :=
      Finset.insert_subset hlisted.1 hwalking.resting.counted.finished
    have hle := Finset.card_le_card hsub
    have hids : s.ids.card ≤ phases.length := by
      rw [Run.ids, hwalking.listed]
      exact (List.toFinset_card_le _).trans (List.length_map _).le
    rw [Finset.card_insert_of_notMem hlisted.2] at hle
    omega

theorem honest_start (hdistinct : (phases.map PhaseIR.id).Nodup) :
    Honest (start phases) (start phases).ready := by
  intro phase _ _ hmem d hd
  have h := resting_start hdistinct
  have hcounted : Counted (start phases) ([] ++ (start phases).ready) (fun _ => []) := h.counted
  have hfinished := finished_of_honest_edge hcounted h.recorded hmem hd
  rw [finished_start hdistinct] at hfinished
  exact absurd hfinished (Finset.notMem_empty d)

theorem honest_turn (hpolicy : skipPolicy ≠ "continue_on_dep_failure")
    (h : Walking phases s) (k : ℕ) :
    Honest (turn skipPolicy (unsupervised outcomes) s k)
        (turn skipPolicy (unsupervised outcomes) s k).ready ↔
      Honest s s.ready ∧ TurnAlone skipPolicy outcomes s k := by
  by_cases hready : s.ready = []
  · have halone : TurnAlone skipPolicy outcomes s k := by
      rw [TurnAlone, WaveAlone, hready]
      trivial
    rw [turn_of_idle hready, and_iff_left halone]
  · rw [turn_of_ready hready]
    exact honest_wave hpolicy h.edges h.resting

theorem stopsDependents_iff (h : Walking phases s) (hidle : s.ready = [])
    (hacyclic : Acyclic (Needs phases)) : StopsDependents phases s ↔ Honest s s.ready := by
  have hfinished : ∀ x ∈ s.ids, x ∈ s.finished :=
    all_finished h.resting hidle (hacyclic.mono fun x d => (h.edge d x).mp)
  have hcompleted : ∀ {d}, d ∈ s.ids → (s.phaseStatus d = .completed ↔ d ∈ s.completedPhases) := by
    intro d hd
    obtain ⟨status, hstatus⟩ := mem_finished.mp (hfinished d hd)
    constructor
    · intro hs
      rw [h.resting.recorded.status status d hstatus] at hs
      rwa [hs] at hstatus
    · exact h.resting.recorded.status .completed d
  have hid : ∀ {phase}, phase ∈ phases → phase.id ∈ s.ids :=
    fun hphase => mem_ids.mpr ⟨_, h.listed.symm ▸ hphase, rfl⟩
  constructor
  · intro hstops phase hphase hstrategy hmem d hd
    rw [h.listed] at hphase
    rw [hidle, or_iff_right List.not_mem_nil] at hmem
    have hneeds := (h.edge d phase.id).mp hd
    have hdid := (h.resting.counted.edge d phase.id hd).1
    by_contra hopen
    have hskipped := hstops.skipped phase hphase hstrategy
      ⟨d, hneeds, fun hs => hopen ((hcompleted hdid).mp hs)⟩
    exact hskipped.2.2 hmem
  · intro hhonest
    refine ⟨fun phase hphase hstrategy hfailed => ?_, fun phase hphase hall => ?_⟩
    · obtain ⟨d, hneeds, hstatus⟩ := hfailed
      have hd := (h.edge d phase.id).mpr hneeds
      have hdid := (h.resting.counted.edge d phase.id hd).1
      rcases h.resting.recorded.ended phase.id (hfinished _ (hid hphase)) with hdisp | hskipped
      · have hmem := hhonest phase (h.listed.symm ▸ hphase) hstrategy (.inr hdisp) d hd
        exact absurd ((hcompleted hdid).mpr hmem) hstatus
      · exact ⟨h.resting.recorded.status .skipped phase.id hskipped.skipped,
          hskipped.attempts, hskipped.undispatched⟩
    · rcases h.resting.recorded.ended phase.id (hfinished _ (hid hphase)) with hdisp | hskipped
      · obtain ⟨before, rest, hsplit⟩ := List.append_of_mem hdisp
        have honce := h.resting.recorded.once phase.id
        rw [hsplit, List.count_append, List.count_cons_self] at honce
        refine ⟨before, rest, hsplit, List.count_eq_zero.mp (by omega),
          List.count_eq_zero.mp (by omega), fun d hneeds => ?_⟩
        have hd := (h.edge d phase.id).mpr hneeds
        obtain ⟨status, hstatus⟩ :=
          h.resting.recorded.ordered before rest phase.id d hsplit hd
        have hevent : .finished d status ∈ s.history := by
          rw [hsplit]
          exact List.mem_append_left _ hstatus
        have hs := h.resting.recorded.status status d (h.resting.recorded.event status d hevent)
        rw [hall d hneeds] at hs
        rwa [← hs] at hstatus
      · obtain ⟨q, hq, hqid, -, dep, hdep, hdepid, hblamed⟩ := hskipped.blamed
        rw [h.listed] at hq
        have hmem : dep ∈ phases.map PhaseIR.id := by
          rw [Run.ids, h.listed, List.mem_toFinset] at hdepid
          exact hdepid
        have hneeds : Needs phases phase.id dep := ⟨q, hq, hqid, hdep, hmem⟩
        rcases hblamed with ⟨status, hbad, hstatus⟩ | ⟨hnone, -⟩
        · have hs := h.resting.recorded.status status dep hstatus
          rw [hall dep hneeds] at hs
          subst hs
          exact absurd hbad (by rintro (h | h) <;> cases h)
        · exact absurd ((h.edge dep phase.id).mpr hneeds) hnone

/-- A walk stops the dependents of failed phases exactly when no phase that is skipped
for its dependencies is the last one that another phase waits for, phases with the
strategy `retry` excepted. -/
theorem failed_dependencies_stop_dependents (hdistinct : (phases.map PhaseIR.id).Nodup)
    (hacyclic : Acyclic (Needs phases)) (hpolicy : skipPolicy ≠ "continue_on_dep_failure") :
    Returns skipPolicy (unsupervised outcomes) phases phases.length ∧
      (StopsDependents phases (after skipPolicy (unsupervised outcomes) phases phases.length) ↔
        Trace.Along (turn skipPolicy (unsupervised outcomes)) (TurnAlone skipPolicy outcomes)
          (start phases) (List.range phases.length)) := by
  have hreturns : Returns skipPolicy (unsupervised outcomes) phases phases.length :=
    returns_unsupervised hdistinct
  refine ⟨hreturns, (stopsDependents_iff (walking_after hdistinct _) hreturns hacyclic).trans ?_⟩
  refine (Trace.holds_iff_along (fun s => Honest s s.ready) (fun s _ => Walking phases s)
    (fun s k _ h => h.turn k)
    (fun s k _ h => honest_turn hpolicy h k) (walking_start hdistinct)).trans ?_
  exact and_iff_right (honest_start hdistinct)

end Walk

/-! ### Three phases in a row -/

def pendingPhase (id : String) (dependsOn : List String) : PhaseIR :=
  { id := id
    status := .pending
    dependsOn := some dependsOn
    rollbackStrategy := none }

/-- The outcome of a dispatch that ends with `status`. -/
def ended (status : String) : Dispatched :=
  { result := .returned status
    attemptStatus := .dispatched
    attemptError := none }

def chain : List PhaseIR :=
  [pendingPhase "a" [], pendingPhase "b" ["a"], pendingPhase "c" ["b"]]

def chainRank (id : String) : ℕ :=
  if id = "a" then 0 else if id = "b" then 1 else 2

def firstFails (_ : ℕ) (pid : String) : Dispatched :=
  if pid = "a" then ended "failed" else ended "completed"

theorem acyclic_chain : Acyclic (Needs chain) := by
  refine acyclic_of_rank chainRank fun x d h => ?_
  obtain ⟨phase, hphase, rfl, hdep, -⟩ := h
  simp only [chain, List.mem_cons, List.not_mem_nil, or_false] at hphase
  rcases hphase with rfl | rfl | rfl
  · exact absurd hdep List.not_mem_nil
  · rw [List.mem_singleton.mp hdep]
    decide
  · rw [List.mem_singleton.mp hdep]
    decide

theorem failed_dependencies_stop_dependents_chain :
    Returns "skip_on_dep_failure" (unsupervised firstFails) chain 3 ∧
      (StopsDependents chain (after "skip_on_dep_failure" (unsupervised firstFails) chain 3) ↔
        Trace.Along (turn "skip_on_dep_failure" (unsupervised firstFails))
          (TurnAlone "skip_on_dep_failure" firstFails) (start chain) (List.range 3)) :=
  failed_dependencies_stop_dependents (by decide) acyclic_chain (by decide)

/-- The second phase is skipped for the first, and the third is dispatched for it. -/
theorem skipped_phase_dispatches_dependent :
    (chain.map PhaseIR.id).Nodup ∧ Acyclic (Needs chain) ∧
      Returns "skip_on_dep_failure" (unsupervised firstFails) chain 3 ∧
      ¬ StopsDependents chain
        (after "skip_on_dep_failure" (unsupervised firstFails) chain 3) := by
  refine ⟨by decide, acyclic_chain, by decide, fun hstops => ?_⟩
  have hneeds : Needs chain "c" "b" :=
    ⟨pendingPhase "c" ["b"], by decide, rfl, by decide, by decide⟩
  have hskipped := hstops.skipped (pendingPhase "c" ["b"]) (by decide) nofun
    ⟨"b", hneeds, by decide⟩
  exact hskipped.2.2 (by decide)

end MindscapeLocalCore.DispatchOrchestrator.FailedDependencies
