import MindscapeLocalCore.DispatchOrchestrator.FailedDependencies

/-!
The summary of a walk and the phases that it counts. A phase that is never released is
in none of the three sets.
-/

namespace MindscapeLocalCore.DispatchOrchestrator.PhaseCounts

open Library Library.Dependencies Execution Accounts Registration History
open FailedDependencies

variable {s s' : Run} {late : String → List String} {d x : String} {skipPolicy : String}
variable {outcome : String → Dispatched} {env : Surroundings} {phases : List PhaseIR}
variable {phase : PhaseIR} {summary : Summary} {n : ℕ}

def InOneSet (s : Run) (x : String) : Prop :=
  (x ∈ s.completedPhases ∧ x ∉ s.failedPhases ∧ x ∉ s.skippedPhases) ∨
    (x ∉ s.completedPhases ∧ x ∈ s.failedPhases ∧ x ∉ s.skippedPhases) ∨
    (x ∉ s.completedPhases ∧ x ∉ s.failedPhases ∧ x ∈ s.skippedPhases)

/-- The summary of the final state `s` accounts for every phase. -/
structure AccountsForPhases (phases : List PhaseIR) (s : Run) (summary : Summary) : Prop where
  one_set : ∀ phase ∈ s.phases, InOneSet s phase.id
  total : summary.succeeded + summary.failed + summary.skipped = summary.total
  ok : summary.status = "ok" ↔ ∀ phase ∈ s.phases, phase.id ∈ s.completedPhases
  once : ∀ phase ∈ s.phases, s.history.count (.dispatched phase.id) ≤ 1
  injected : ∀ phase ∈ s.phases, phase ∉ phases →
    (∀ d ∈ phase.dependencies, d ∈ s.ids → d ∈ s.completedPhases) →
      .dispatched phase.id ∈ s.history

def InjectedAhead (s : Run) (phase : PhaseIR) : Prop :=
  phase.id ∉ s.ids → ∀ d ∈ phase.dependencies, d ≠ phase.id ∧ d ∉ s.finished

def InjectsAhead (skipPolicy : String) (env : Surroundings) (s : Run) (k : ℕ) : Prop :=
  s.ready ≠ [] → (wave skipPolicy (env.outcome k) s).ready ≠ [] →
    Trace.Along addPhase InjectedAhead (wave skipPolicy (env.outcome k) s) (env.injected k)

/-! ### What a turn keeps -/

theorem recorded_of_added {todo : List String} (h : Recorded s todo)
    (hcounted : Linked s late) (hids : ∀ x ∈ todo, x ∈ s.ids)
    (hnew : phase.id ∉ s.ids) (hadded : Added phase s s') : Recorded s' todo := by
  have hmembers : members s' = members s := by
    funext status
    cases status with
    | completed => exact hadded.completed
    | failed => exact hadded.failed
    | skipped => exact hadded.skipped
    | pending => rfl
    | running => rfl
  have hattempts : attemptsOf s' = attemptsOf s := by
    funext x
    rw [attemptsOf, hadded.attempts, attemptsOf]
  have hfinished := hadded.finished
  have hunfinished : phase.id ∉ s.finished := fun hx => hnew (hcounted.finished _ hx)
  have hphases : s.phases ⊆ s'.phases := by
    rw [hadded.phases]
    exact List.subset_append_left _ _
  have hedge : ∀ {x d}, x ∈ s.ids → x ∈ s'.dependents d → x ∈ s.dependents d := by
    intro x d hx he
    rcases (hadded.dependents d x).mp he with he | ⟨rfl, -, -⟩
    · exact he
    · exact absurd hx hnew
  have hknown : ∀ {x}, .dispatched x ∈ s.history → x ∈ s.ids := by
    intro x hx
    by_contra hid
    have hnot : x ∉ s.finished := fun hf => hid (hcounted.finished x hf)
    exact (h.unlaunched x hnot fun ht => hid (hids x ht)).1 hx
  refine ⟨?_, ?_, ?_, ?_, ?_, ?_, ?_, ?_, ?_, ?_⟩
  · intro status x hx
    rw [hmembers] at hx
    have hne : x ≠ phase.id := by
      rintro rfl
      exact hunfinished (mem_finished.mpr ⟨status, hx⟩)
    rw [hadded.phaseStatus, Function.update_of_ne hne]
    exact h.status status x hx
  · intro q hq hqf
    rw [hfinished] at hqf
    rw [hadded.phases, List.mem_append, List.mem_singleton] at hq
    rw [hadded.phaseStatus]
    rcases hq with hq | rfl
    · have hne : q.id ≠ phase.id := fun heq => hnew (heq ▸ mem_ids.mpr ⟨q, hq, rfl⟩)
      rw [Function.update_of_ne hne]
      exact h.preset q hq hqf
    · exact Function.update_self ..
  · rw [hadded.history, hmembers]; exact h.event
  · rw [hadded.history, hmembers]; exact h.logged
  · rw [hadded.history]; exact h.launched
  · rw [hadded.history]; exact h.once
  · rw [hfinished, hadded.history, hattempts]; exact h.unlaunched
  · intro x hx
    rw [hfinished] at hx
    refine (h.ended x hx).imp (fun hd => by rwa [hadded.history]) fun hu => ?_
    refine hu.mono (fun status => by rw [hmembers]) hphases ?_ (by rw [hattempts])
      fun e he => hedge (hcounted.finished x hx) he
    rw [hadded.history]
    exact hu.undispatched
  · intro before rest x e hsplit he
    rw [hadded.history] at hsplit
    have hx : .dispatched x ∈ s.history := by
      rw [hsplit]
      exact List.mem_append_right _ List.mem_cons_self
    exact h.ordered before rest x e hsplit (hedge (hknown hx) he)
  · intro before rest status x e hsplit he
    rw [hadded.history] at hsplit
    have hx : .finished x status ∈ s.history := by
      rw [hsplit]
      exact List.mem_append_right _ List.mem_cons_self
    have hid := hcounted.finished x (mem_finished.mpr ⟨status, h.event status x hx⟩)
    exact h.finished_ordered before rest status x e hsplit (hedge hid he)

theorem resting_addPhase (h : Resting s late) (phase : PhaseIR) :
    ∃ late', Resting (addPhase s phase) late' ∧
      ∀ e y, y ∈ late' e ↔ y ∈ late e ∨
        (phase.id ∉ s.ids ∧ y = phase.id ∧ e ∈ phase.dependencies ∧ e ∈ s.finished) := by
  obtain ⟨late', hcounted, hlate⟩ := counted_addPhase h.counted phase
  refine ⟨late', ⟨hcounted, ?_⟩, hlate⟩
  rcases addPhase_cases s phase with ⟨-, hsame⟩ | ⟨hnew, hadded⟩
  · rw [hsame]
    exact h.recorded
  · exact recorded_of_added h.recorded h.counted.toLinked nofun hnew hadded

theorem late_eq_nil (h : Linked s late) (hnone : Linked s (fun _ => [])) :
    late = fun _ => [] := by
  funext d
  by_contra hlate
  obtain ⟨x, hx⟩ := List.exists_mem_of_ne_nil (late d) hlate
  have hd : d ∈ s.finished := by
    by_contra hd
    exact hlate (h.unfinished_late d hd)
  have hid := (h.edge d x (h.late_edge d x hx)).2
  have hsame : incoming s.ids (left s late) x = incoming s.ids (left s fun _ => []) x := by
    have hdegree := (h.degree x hid).symm.trans (hnone.degree x hid)
    exact_mod_cast hdegree
  refine absurd hsame (Nat.ne_of_gt (Finset.sum_lt_sum (fun e _ => ?_) ⟨d, h.finished d hd, ?_⟩))
  · by_cases he : e ∈ s.finished
    · rw [left, if_pos he]
      exact Nat.zero_le _
    · rw [left, left, if_neg he, if_neg he]
  · rw [left, if_pos hd, left, if_pos hd]
    exact List.count_pos_iff.mpr hx

structure Clean (s : Run) : Prop where
  resting : Resting s (fun _ => [])
  acyclic : Acyclic fun x d => x ∈ s.dependents d

theorem clean_wave (h : Resting s late) : Clean (wave skipPolicy outcome s) ↔ Clean s := by
  have hwave : Resting (wave skipPolicy outcome s) late := h.wave
  have hgraph : SameGraph s (wave skipPolicy outcome s) := sameGraph_wave
  constructor
  · rintro ⟨hresting, hacyclic⟩
    rw [hgraph.dependents] at hacyclic
    have hlate := late_eq_nil hwave.counted.toLinked hresting.counted.toLinked
    exact ⟨hlate ▸ h, hacyclic⟩
  · rintro ⟨hresting, hacyclic⟩
    refine ⟨hresting.wave, ?_⟩
    rwa [hgraph.dependents]

theorem clean_addPhase (h : Resting s late) (phase : PhaseIR) :
    Clean (addPhase s phase) ↔ Clean s ∧ InjectedAhead s phase := by
  obtain ⟨late', hadd, hlate⟩ := resting_addPhase h phase
  rcases addPhase_cases s phase with ⟨hid, hsame⟩ | ⟨hnew, hadded⟩
  · rw [hsame]
    exact (and_iff_left fun hnew => absurd hid hnew).symm
  · constructor
    · rintro ⟨hresting, hacyclic⟩
      have hnil := late_eq_nil hadd.counted.toLinked hresting.counted.toLinked
      have hold : late = fun _ => [] := by
        funext e
        refine List.eq_nil_iff_forall_not_mem.mpr fun y hy => ?_
        have hy' := (hlate e y).mpr (.inl hy)
        rw [hnil] at hy'
        exact List.not_mem_nil hy'
      refine ⟨⟨hold ▸ h, hacyclic.mono fun a b hab => (hadded.dependents b a).mpr (.inl hab)⟩,
        fun _ e he => ⟨?_, fun hf => ?_⟩⟩
      · rintro rfl
        exact hacyclic.irrefl phase.id ((hadded.dependents phase.id phase.id).mpr
          (.inr ⟨rfl, he, .inl rfl⟩))
      · have hy := (hlate e phase.id).mpr (.inr ⟨hnew, rfl, he, hf⟩)
        rw [hnil] at hy
        exact List.not_mem_nil hy
    · rintro ⟨⟨hresting, hacyclic⟩, hahead⟩
      have hold := late_eq_nil h.counted.toLinked hresting.counted.toLinked
      subst hold
      have hnil : late' = fun _ => [] := by
        funext e
        refine List.eq_nil_iff_forall_not_mem.mpr fun y hy => ?_
        rcases (hlate e y).mp hy with hy | ⟨-, -, he, hf⟩
        · exact List.not_mem_nil hy
        · exact (hahead hnew e he).2 hf
      refine ⟨hnil ▸ hadd, hacyclic.insert (x := phase.id) (fun a b hab => ?_) fun a ha => ?_⟩
      · exact ((hadded.dependents b a).mp hab).imp id And.left
      · rcases (hadded.dependents phase.id a).mp ha with ha | ⟨-, hself, -⟩
        · exact hnew (h.counted.edge phase.id a ha).1
        · exact (hahead hnew phase.id hself).1 rfl

theorem clean_turn (h : Resting s late) (k : ℕ) :
    Clean (turn skipPolicy env s k) ↔ Clean s ∧ InjectsAhead skipPolicy env s k := by
  by_cases hready : s.ready = []
  · rw [turn_of_idle hready]
    exact (and_iff_left fun hne => absurd hready hne).symm
  · rw [turn, if_neg hready, supervise]
    have hwave : Clean (wave skipPolicy (env.outcome k) s) ↔ Clean s := clean_wave h
    split
    · rename_i hidle
      rw [hwave]
      exact (and_iff_left fun _ hne => absurd hidle hne).symm
    · rename_i hbusy
      have hiff : InjectsAhead skipPolicy env s k ↔
          Trace.Along addPhase InjectedAhead (wave skipPolicy (env.outcome k) s)
            (env.injected k) :=
        ⟨fun hahead => hahead hready hbusy, fun halong _ _ => halong⟩
      rw [hiff, ← hwave]
      refine Trace.holds_iff_along Clean (fun s _ => ∃ late, Resting s late) ?_ ?_
        ⟨late, h.wave⟩
      · rintro s event rest ⟨late, h⟩
        obtain ⟨late', h', -⟩ := resting_addPhase h event
        exact ⟨late', h'⟩
      · rintro s event rest ⟨late, h⟩
        exact clean_addPhase h event

theorem resting_turn (h : ∃ late, Resting s late) (k : ℕ) :
    ∃ late, Resting (turn skipPolicy env s k) late := by
  obtain ⟨late, h⟩ := h
  have hadds : ∀ (injected : List PhaseIR) {s : Run}, (∃ late, Resting s late) →
      ∃ late, Resting (injected.foldl addPhase s) late := by
    intro injected
    induction injected with
    | nil => exact fun h => h
    | cons first injected ih =>
        rintro s ⟨late, h⟩
        obtain ⟨late', h', -⟩ := resting_addPhase h first
        exact ih ⟨late', h'⟩
  rw [turn]
  split
  · exact ⟨late, h⟩
  · rw [supervise]
    split
    · exact ⟨late, h.wave⟩
    · exact hadds _ ⟨late, h.wave⟩

theorem resting_after (hdistinct : (phases.map PhaseIR.id).Nodup) (n : ℕ) :
    ∃ late, Resting (after skipPolicy env phases n) late := by
  induction n with
  | zero => exact ⟨_, resting_start hdistinct⟩
  | succ n ih =>
      rw [after_succ]
      exact resting_turn ih n

theorem clean_start (hdistinct : (phases.map PhaseIR.id).Nodup) :
    Clean (start phases) ↔ Acyclic (Needs phases) := by
  have hedges : (fun x d => x ∈ (start phases).dependents d) = Needs phases := by
    funext x d
    exact propext (mem_dependents_start hdistinct)
  constructor
  · rintro ⟨-, hacyclic⟩
    rwa [hedges] at hacyclic
  · intro hacyclic
    refine ⟨resting_start hdistinct, ?_⟩
    rwa [hedges]

theorem clean_after (hdistinct : (phases.map PhaseIR.id).Nodup) (n : ℕ) :
    Clean (after skipPolicy env phases n) ↔ Acyclic (Needs phases) ∧
      Trace.Along (turn skipPolicy env) (InjectsAhead skipPolicy env) (start phases)
        (List.range n) := by
  rw [← clean_start hdistinct]
  exact Trace.holds_iff_along Clean (fun s _ => ∃ late, Resting s late)
    (fun s k _ h => resting_turn h k) (fun s k _ ⟨_, h⟩ => clean_turn h k)
    ⟨_, resting_start hdistinct⟩

/-! ### Injected phases -/

structure Grown (phases : List PhaseIR) (s : Run) : Prop where
  initial : phases ⊆ s.phases
  pending : ∀ phase ∈ s.phases, phase ∉ phases → phase.status = .pending
  waits : ∀ phase ∈ s.phases, phase ∉ phases → ∀ e ∈ phase.dependencies,
    e ∈ phases.map PhaseIR.id → phase.id ∈ s.dependents e

theorem Grown.of_graph (h : Grown phases s) (hgraph : SameGraph s s') : Grown phases s' := by
  refine ⟨?_, ?_, ?_⟩
  · rw [hgraph.phases]; exact h.initial
  · rw [hgraph.phases]; exact h.pending
  · rw [hgraph.phases, hgraph.dependents]; exact h.waits

theorem Grown.addPhase (h : Grown phases s) (hpending : phase.status = .pending) :
    Grown phases (addPhase s phase) := by
  rcases addPhase_cases s phase with ⟨-, hsame⟩ | ⟨-, hadded⟩
  · rwa [hsame]
  · refine ⟨?_, fun q hq hnot => ?_, fun q hq hnot e he hid => ?_⟩
    · rw [hadded.phases]
      exact fun p hp => List.mem_append_left _ (h.initial hp)
    · rw [hadded.phases, List.mem_append, List.mem_singleton] at hq
      rcases hq with hq | rfl
      · exact h.pending q hq hnot
      · exact hpending
    · rw [hadded.phases, List.mem_append, List.mem_singleton] at hq
      rw [hadded.dependents]
      rcases hq with hq | rfl
      · exact .inl (h.waits q hq hnot e he hid)
      · obtain ⟨p, hp, hpid⟩ := List.mem_map.mp hid
        exact .inr ⟨rfl, he, .inr (mem_ids.mpr ⟨p, h.initial hp, hpid⟩)⟩

theorem Grown.turn (h : Grown phases s) {k : ℕ}
    (hpending : ∀ phase ∈ env.injected k, phase.status = .pending) :
    Grown phases (turn skipPolicy env s k) := by
  have hadds : ∀ (injected : List PhaseIR) {s : Run}, Grown phases s →
      (∀ phase ∈ injected, phase.status = .pending) →
        Grown phases (injected.foldl Execution.addPhase s) := by
    intro injected
    induction injected with
    | nil => exact fun h _ => h
    | cons first injected ih =>
        intro s h hall
        exact ih (h.addPhase (hall first List.mem_cons_self))
          fun phase hphase => hall phase (List.mem_cons_of_mem first hphase)
  rw [Execution.turn]
  split
  · exact h
  · rw [supervise]
    split
    · exact h.of_graph sameGraph_wave
    · exact hadds _ (h.of_graph sameGraph_wave) hpending

theorem grown_after (hdistinct : (phases.map PhaseIR.id).Nodup)
    (hpending : ∀ k, ∀ phase ∈ env.injected k, phase.status = .pending) (n : ℕ) :
    Grown phases (after skipPolicy env phases n) := by
  induction n with
  | zero =>
      have hstart : (after skipPolicy env phases 0).phases = phases := phases_start hdistinct
      refine ⟨?_, ?_, ?_⟩
      · rw [hstart]
        exact List.Subset.refl _
      · rw [hstart]
        exact fun _ hphase hnot => absurd hphase hnot
      · rw [hstart]
        exact fun _ hphase hnot => absurd hphase hnot
  | succ n ih =>
      rw [after_succ]
      exact ih.turn (hpending n)

/-! ### The order of the phases -/

theorem holds_after {holds : Run → Prop} (hstart : holds (start phases))
    (hwave : ∀ {s k}, holds s → holds (wave skipPolicy (env.outcome k) s))
    (hadd : ∀ {s phase}, holds s → holds (addPhase s phase)) (n : ℕ) :
    holds (after skipPolicy env phases n) := by
  induction n with
  | zero => exact hstart
  | succ n ih =>
      rw [after_succ, turn]
      split
      · exact ih
      · rw [supervise]
        split
        · exact hwave ih
        · exact List.foldlRecOn _ _ (hwave ih) fun _ h _ _ => hadd h

/-- Every phase waits for those of its dependencies that the task started with. -/
structure Waits (phases : List PhaseIR) (s : Run) : Prop where
  initial : phases ⊆ s.phases
  edge : ∀ phase ∈ s.phases, ∀ d ∈ phase.dependencies, d ∈ phases.map PhaseIR.id →
    phase.id ∈ s.dependents d

theorem Waits.addPhase (h : Waits phases s) : Waits phases (addPhase s phase) := by
  rcases addPhase_cases s phase with ⟨-, hsame⟩ | ⟨-, hadded⟩
  · rwa [hsame]
  · refine ⟨?_, fun q hq d hd hid => (hadded.dependents d q.id).mpr ?_⟩
    · rw [hadded.phases]
      exact fun p hp => List.mem_append_left _ (h.initial hp)
    · rw [hadded.phases, List.mem_append, List.mem_singleton] at hq
      rcases hq with hq | rfl
      · exact .inl (h.edge q hq d hd hid)
      · obtain ⟨p, hp, hpid⟩ := List.mem_map.mp hid
        exact .inr ⟨rfl, hd, .inr (mem_ids.mpr ⟨p, h.initial hp, hpid⟩)⟩

theorem waits_after (hdistinct : (phases.map PhaseIR.id).Nodup) (n : ℕ) :
    Waits phases (after skipPolicy env phases n) := by
  refine holds_after ?_ (fun {s k} h => ?_) Waits.addPhase n
  · refine ⟨by rw [phases_start hdistinct]; exact List.Subset.refl _, ?_⟩
    rw [phases_start hdistinct]
    exact fun phase hphase d hd hid =>
      (mem_dependents_start hdistinct).mpr ⟨phase, hphase, rfl, hd, hid⟩
  · have hgraph : SameGraph s (wave skipPolicy (env.outcome k) s) := sameGraph_wave
    refine ⟨?_, ?_⟩
    · rw [hgraph.phases]; exact h.initial
    · rw [hgraph.phases, hgraph.dependents]; exact h.edge

/-- Whatever is injected and however the dispatches end, a phase is dispatched once at most, it
finishes by a dispatch or as skipped for a dependency, and both come after the end of every
dependency that the task started with. -/
theorem phases_in_order (hdistinct : (phases.map PhaseIR.id).Nodup) (n : ℕ) :
    let s := after skipPolicy env phases n
    (∀ x, s.history.count (.dispatched x) ≤ 1) ∧
      (∀ x ∈ s.finished, .dispatched x ∈ s.history ∨ SkippedUpstream s x) ∧
      ∀ phase ∈ s.phases, ∀ d ∈ phase.dependencies, d ∈ phases.map PhaseIR.id →
        ∀ before event rest, s.history = before ++ event :: rest →
          (event = .dispatched phase.id ∨ ∃ status, event = .finished phase.id status) →
            ∃ status, .finished d status ∈ before := by
  obtain ⟨late, hresting⟩ : ∃ late, Resting (after skipPolicy env phases n) late :=
    resting_after hdistinct n
  have hrecorded := hresting.recorded
  refine ⟨hrecorded.once, hrecorded.ended, ?_⟩
  intro phase hphase d hd hid before event rest hhistory hevent
  have hedge := (waits_after hdistinct n).edge phase hphase d hd hid
  rcases hevent with rfl | ⟨status, rfl⟩
  · exact hrecorded.ordered before rest phase.id d hhistory hedge
  · exact hrecorded.finished_ordered before rest status phase.id d hhistory hedge

/-! ### The counts -/

theorem inOneSet (h : Recorded s []) (hx : x ∈ s.finished) : InOneSet s x := by
  obtain ⟨status, hstatus⟩ := mem_finished.mp hx
  have hstate := h.status status x hstatus
  have hother : ∀ other, other ≠ status → x ∉ members s other := by
    intro other hne hmem
    exact hne ((h.status other x hmem).symm.trans hstate)
  cases status with
  | completed => exact .inl ⟨hstatus, hother .failed nofun, hother .skipped nofun⟩
  | failed =>
      exact .inr (.inl ⟨hother .completed nofun, hstatus,
        hother .skipped nofun⟩)
  | skipped =>
      exact .inr (.inr ⟨hother .completed nofun, hother .failed nofun,
        hstatus⟩)
  | pending => exact absurd hstatus (Finset.notMem_empty x)
  | running => exact absurd hstatus (Finset.notMem_empty x)

theorem InOneSet.finished (h : InOneSet s x) : x ∈ s.finished := by
  rw [Run.finished, Finset.mem_union, Finset.mem_union]
  rcases h with ⟨h, -⟩ | ⟨-, h, -⟩ | ⟨-, -, h⟩
  · exact .inl (.inl h)
  · exact .inl (.inr h)
  · exact .inr h

theorem card_finished (h : Recorded s []) :
    s.finished.card =
      s.completedPhases.card + s.failedPhases.card + s.skippedPhases.card := by
  have hdisjoint : ∀ status other, status ≠ other →
      Disjoint (members s status) (members s other) := by
    intro status other hne
    refine Finset.disjoint_left.mpr fun x hx hx' => hne ?_
    exact (h.status status x hx).symm.trans (h.status other x hx')
  have hfirst : Disjoint s.completedPhases s.failedPhases :=
    hdisjoint .completed .failed nofun
  have hsecond : Disjoint (s.completedPhases ∪ s.failedPhases) s.skippedPhases :=
    Finset.disjoint_union_left.mpr
      ⟨hdisjoint .completed .skipped nofun,
        hdisjoint .failed .skipped nofun⟩
  rw [Run.finished, Finset.card_union_of_disjoint hsecond, Finset.card_union_of_disjoint hfirst]

theorem ids_eq_finished (h : Linked s late) (hall : ∀ x ∈ s.ids, x ∈ s.finished) :
    s.ids = s.finished :=
  Finset.Subset.antisymm hall h.finished

theorem aggStatus_eq_ok {succeeded failed skipped : ℕ} :
    aggStatus succeeded failed skipped = "ok" ↔ failed = 0 ∧ skipped = 0 := by
  rw [aggStatus]
  split
  · rename_i hzero
    exact iff_of_true rfl hzero
  · rename_i hzero
    refine iff_of_false ?_ hzero
    split
    · decide
    · decide

theorem accounts_iff_finished (h : Resting s late) (hgrown : Grown phases s) :
    AccountsForPhases phases s (summarize s) ↔ ∀ x ∈ s.ids, x ∈ s.finished := by
  constructor
  · intro haccounts x hx
    obtain ⟨phase, hphase, rfl⟩ := mem_ids.mp hx
    exact (haccounts.one_set phase hphase).finished
  · intro hall
    have hid : ∀ {phase}, phase ∈ s.phases → phase.id ∈ s.finished :=
      fun hphase => hall _ (mem_ids.mpr ⟨_, hphase, rfl⟩)
    have hcard : s.ids.card = s.phases.length := by
      rw [Run.ids, List.toFinset_card_of_nodup h.counted.distinct, List.length_map]
    refine ⟨fun phase hphase => inOneSet h.recorded (hid hphase), ?_, ?_,
      fun phase _ => h.recorded.once phase.id, fun phase hphase hnot hcompleted => ?_⟩
    · show s.completedPhases.card + s.failedPhases.card + s.skippedPhases.card = s.phases.length
      rw [← card_finished h.recorded, ← ids_eq_finished h.counted.toLinked hall, hcard]
    · show aggStatus _ _ _ = "ok" ↔ _
      rw [aggStatus_eq_ok, Finset.card_eq_zero, Finset.card_eq_zero]
      constructor
      · rintro ⟨hfailed, hskipped⟩ phase hphase
        have hfinished := hid hphase
        rw [Run.finished, hfailed, hskipped, Finset.union_empty, Finset.union_empty] at hfinished
        exact hfinished
      · intro hcompleted
        have hnone : ∀ status, status ≠ .completed → members s status = ∅ := by
          intro status hne
          refine Finset.eq_empty_of_forall_notMem fun x hx => hne ?_
          obtain ⟨phase, hphase, rfl⟩ :=
            mem_ids.mp (h.counted.finished x (mem_finished.mpr ⟨status, hx⟩))
          exact (h.recorded.status status _ hx).symm.trans
            (h.recorded.status .completed _ (hcompleted phase hphase))
        exact ⟨hnone .failed (by decide), hnone .skipped (by decide)⟩
    · rcases h.recorded.ended phase.id (hid hphase) with hdisp | hskipped
      · exact hdisp
      · obtain ⟨q, hq, hqid, -, dep, hdep, hdepid, hblamed⟩ := hskipped.blamed
        obtain rfl := List.inj_on_of_nodup_map h.counted.distinct hq hphase hqid
        have hmem : dep ∈ members s .completed := hcompleted dep hdep hdepid
        rcases hblamed with ⟨status, hbad, hstatus⟩ | ⟨hfree, p, hp, rfl, hbad⟩
        · have hs := (h.recorded.status status dep hstatus).symm.trans
            (h.recorded.status .completed dep hmem)
          subst hs
          exact absurd hbad (by rintro (h | h) <;> cases h)
        · by_cases hpnew : p ∈ phases
          · exact absurd (hgrown.waits q hq hnot p.id hdep (List.mem_map_of_mem hpnew)) hfree
          · rw [hgrown.pending p hp hpnew] at hbad
            exact absurd hbad (by rintro (h | h) <;> cases h)

theorem finished_iff_clean (h : Resting s late) (hidle : s.ready = []) :
    (∀ x ∈ s.ids, x ∈ s.finished) ↔ Clean s := by
  constructor
  · intro hall
    have hlate : late = fun _ => [] := by
      funext d
      refine List.eq_nil_iff_forall_not_mem.mpr fun x hx => ?_
      have hd : d ∈ s.finished := by
        by_contra hd
        rw [h.counted.unfinished_late d hd] at hx
        exact List.not_mem_nil hx
      obtain ⟨hid, -, hopen⟩ := h.counted.waiting hd hx
      exact hopen (hall x hid)
    refine ⟨hlate ▸ h, fun x hx => ?_⟩
    obtain ⟨y, hedge, -⟩ := Relation.TransGen.head'_iff.mp hx
    exact not_finished_of_trapped h.recorded trapped_cycles hx
      (hall x (h.counted.edge y x hedge).2)
  · intro hclean
    exact all_finished hclean.resting hidle hclean.acyclic

/-- The summary of a walk accounts for its phases exactly when there is a phase, the
listed phases have no cyclic dependencies, and every injected phase depends on other
phases that are not finished yet. -/
theorem summary_accounts_iff (hdistinct : (phases.map PhaseIR.id).Nodup)
    (hpending : ∀ k, ∀ phase ∈ env.injected k, phase.status = .pending)
    (h : executeTaskIr skipPolicy env phases n = some summary) :
    AccountsForPhases phases (after skipPolicy env phases n) summary ↔
      phases ≠ [] ∧ Acyclic (Needs phases) ∧
        Trace.Along (turn skipPolicy env) (InjectsAhead skipPolicy env) (start phases)
          (List.range n) := by
  rw [executeTaskIr] at h
  split at h
  · rename_i hempty
    obtain rfl := Option.some.inj h
    refine iff_of_false (fun haccounts => ?_) fun hne => hne.1 hempty
    subst hempty
    have hready : ∀ n, (after skipPolicy env [] n).phases = [] ∧
        (after skipPolicy env [] n).ready = [] := by
      intro n
      induction n with
      | zero => exact ⟨rfl, rfl⟩
      | succ n ih =>
          rw [after_succ, turn_of_idle ih.2]
          exact ih
    have hok := haccounts.ok.mpr (by rw [(hready n).1]; exact nofun)
    exact absurd hok (by decide)
  · rename_i hne
    split at h
    · rename_i hidle
      obtain rfl := Option.some.inj h
      obtain ⟨late, hresting⟩ : ∃ late, Resting (after skipPolicy env phases n) late :=
        resting_after hdistinct n
      rw [accounts_iff_finished hresting (grown_after hdistinct hpending n),
        finished_iff_clean hresting hidle, clean_after hdistinct, and_iff_right hne]
    · exact absurd h nofun

/-! ### Two phases and an injected one -/

def pair : List PhaseIR := [pendingPhase "a" [], pendingPhase "b" ["a"]]

def injecting (phase : PhaseIR) : Surroundings :=
  { outcome := fun _ _ => ended "completed"
    injected := fun k => if k = 0 then [phase] else [] }

theorem pending_injecting {id : String} {deps : List String} (k : ℕ) :
    ∀ phase ∈ (injecting (pendingPhase id deps)).injected k, phase.status = .pending := by
  intro phase hphase
  rw [injecting] at hphase
  simp only at hphase
  split at hphase
  · rw [List.mem_singleton.mp hphase]
    rfl
  · exact absurd hphase List.not_mem_nil

theorem summary_accounts_iff_pair :
    AccountsForPhases pair
        (after "skip_on_dep_failure" (injecting (pendingPhase "c" ["b"])) pair 3)
        ⟨"ok", 3, 3, 0, 0, [("a", "completed"), ("b", "completed"), ("c", "completed")]⟩ ↔
      pair ≠ [] ∧ Acyclic (Needs pair) ∧
        Trace.Along (turn "skip_on_dep_failure" (injecting (pendingPhase "c" ["b"])))
          (InjectsAhead "skip_on_dep_failure" (injecting (pendingPhase "c" ["b"])))
          (start pair) (List.range 3) :=
  summary_accounts_iff (by decide) pending_injecting (by decide)

theorem phases_in_order_pair :
    let s := after "skip_on_dep_failure" (injecting (pendingPhase "c" ["b"])) pair 3
    s.history.count (.dispatched "c") ≤ 1 ∧ .dispatched "c" ∈ s.history :=
  ⟨(phases_in_order (by decide) 3).1 "c", by decide⟩

/-- The third phase waits for the first one, which is finished: it is never dispatched,
and the status is `ok` all the same. -/
theorem late_phase_unaccounted :
    (pair.map PhaseIR.id).Nodup ∧
      ∃ summary, executeTaskIr "skip_on_dep_failure" (injecting (pendingPhase "c" ["a"])) pair 2 =
          some summary ∧
        summary.status = "ok" ∧
        ¬ AccountsForPhases pair
          (after "skip_on_dep_failure" (injecting (pendingPhase "c" ["a"])) pair 2) summary := by
  refine ⟨by decide, ⟨"ok", 3, 2, 0, 0, [("a", "completed"), ("b", "completed"),
    ("c", "skipped")]⟩, by decide, rfl, fun haccounts => ?_⟩
  exact absurd haccounts.total (by decide)

end MindscapeLocalCore.DispatchOrchestrator.PhaseCounts
