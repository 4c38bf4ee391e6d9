import MindscapeLocalCore.DispatchOrchestrator.Accounts

/-!
The graph of the walk as it is built: before the first wave from the listed phases, and
later from the phases that the supervisor injects.
-/

namespace MindscapeLocalCore.DispatchOrchestrator.Registration

open Library Library.Dependencies Execution Accounts

variable {s s' : Run} {late : String → List String} {d x y : String}
variable {phases : List PhaseIR} {phase : PhaseIR}

/-! ### The edges of a phase -/

theorem phaseMap_isSome : (s.phaseMap x).isSome ↔ x ∈ s.ids := by
  rw [Run.phaseMap, Table.lookup, List.find?_isSome, Run.ids, List.mem_toFinset, List.mem_map]
  simp only [decide_eq_true_eq]

structure Registered (x : String) (s s' : Run) : Prop where
  phases : s'.phases = s.phases
  phaseStatus : s'.phaseStatus = s.phaseStatus
  ready : s'.ready = s.ready
  nextReady : s'.nextReady = s.nextReady
  completed : s'.completedPhases = s.completedPhases
  failed : s'.failedPhases = s.failedPhases
  skipped : s'.skippedPhases = s.skippedPhases
  attempts : s'.attempts = s.attempts
  history : s'.history = s.history
  inDegree : ∀ y, y ≠ x → s'.inDegree y = s.inDegree y

theorem Registered.finished (h : Registered x s s') : s'.finished = s.finished := by
  rw [Run.finished, h.completed, h.failed, h.skipped, Run.finished]

theorem Registered.ids (h : Registered x s s') : s'.ids = s.ids := by
  rw [Run.ids, h.phases, Run.ids]

theorem registered_register : Registered x s (register x s d) := by
  rw [register]
  split
  · exact ⟨rfl, rfl, rfl, rfl, rfl, rfl, rfl, rfl, rfl, fun y hy => Function.update_of_ne hy ..⟩
  · exact ⟨rfl, rfl, rfl, rfl, rfl, rfl, rfl, rfl, rfl, fun _ _ => rfl⟩

theorem registered_registers (deps : List String) (s : Run) :
    Registered x s (deps.foldl (register x) s) := by
  induction deps generalizing s with
  | nil => exact ⟨rfl, rfl, rfl, rfl, rfl, rfl, rfl, rfl, rfl, fun _ _ => rfl⟩
  | cons dep deps ih =>
      have hfirst := registered_register (x := x) (s := s) (d := dep)
      have h := ih (register x s dep)
      exact ⟨h.phases.trans hfirst.phases, h.phaseStatus.trans hfirst.phaseStatus,
        h.ready.trans hfirst.ready, h.nextReady.trans hfirst.nextReady,
        h.completed.trans hfirst.completed, h.failed.trans hfirst.failed,
        h.skipped.trans hfirst.skipped, h.attempts.trans hfirst.attempts,
        h.history.trans hfirst.history,
        fun y hy => (h.inDegree y hy).trans (hfirst.inDegree y hy)⟩

theorem mem_dependents_register {e : String} :
    y ∈ (register x s d).dependents e ↔ y ∈ s.dependents e ∨ (y = x ∧ e = d ∧ d ∈ s.ids) := by
  rw [register]
  split
  · rename_i hd
    rw [phaseMap_isSome] at hd
    show y ∈ Function.update s.dependents d (s.dependents d ++ [x]) e ↔ _
    by_cases he : e = d
    · subst he
      rw [Function.update_self, List.mem_append, List.mem_singleton]
      simp only [hd, and_true]
    · rw [Function.update_of_ne he]
      simp only [he, false_and, and_false, or_false]
  · rename_i hd
    rw [phaseMap_isSome] at hd
    simp only [hd, and_false, or_false]

theorem mem_dependents_registers (deps : List String) {e : String} :
    ∀ s : Run, y ∈ (deps.foldl (register x) s).dependents e ↔
      y ∈ s.dependents e ∨ (y = x ∧ e ∈ deps ∧ e ∈ s.ids) := by
  induction deps with
  | nil => simp
  | cons dep deps ih =>
      intro s
      rw [List.foldl_cons, ih, mem_dependents_register, registered_register.ids, List.mem_cons]
      constructor
      · rintro ((h | ⟨hy, rfl, he⟩) | ⟨hy, he, hid⟩)
        · exact .inl h
        · exact .inr ⟨hy, .inl rfl, he⟩
        · exact .inr ⟨hy, .inr he, hid⟩
      · rintro (h | ⟨hy, rfl | he, hid⟩)
        · exact .inl (.inl h)
        · exact .inl (.inr ⟨hy, rfl, hid⟩)
        · exact .inr ⟨hy, he, hid⟩

/-- The edges from finished phases that a registration adds. -/
def lateAfter (s : Run) (x : String) (late : String → List String) (dep : String) :
    String → List String :=
  if dep ∈ s.finished then Function.update late dep (late dep ++ [x]) else late

theorem left_register (hd : d ∈ s.ids) :
    left (register x s d) (lateAfter s x late d) =
      Function.update (left s late) d (left s late d ++ [x]) := by
  have hfinished := (registered_register (x := x) (s := s) (d := d)).finished
  have hdependents : (register x s d).dependents =
      Function.update s.dependents d (s.dependents d ++ [x]) := by
    rw [register, if_pos (phaseMap_isSome.mpr hd)]
  funext e
  rw [left, hfinished, hdependents, lateAfter]
  by_cases he : e = d
  · subst he
    rw [Function.update_self, Function.update_self, left]
    split
    · rw [Function.update_self]
    · rfl
  · rw [Function.update_of_ne he, Function.update_of_ne he, left]
    refine if_congr Iff.rfl ?_ rfl
    split
    · rw [Function.update_of_ne he]
    · rfl

theorem linked_register (h : Linked s late) (hx : x ∈ s.ids) :
    ∃ late', Linked (register x s d) late' ∧
      ∀ e y, y ∈ late' e ↔ y ∈ late e ∨ (y = x ∧ e = d ∧ d ∈ s.finished) := by
  have hregister := registered_register (x := x) (s := s) (d := d)
  by_cases hd : d ∈ s.ids
  · refine ⟨lateAfter s x late d, ?_, ?_⟩
    · refine ⟨?_, ?_, ?_, ?_, ?_, ?_⟩
      · rw [hregister.phases]
        exact h.distinct
      · intro e y hy
        rw [hregister.ids]
        rcases mem_dependents_register.mp hy with hy | ⟨rfl, rfl, hid⟩
        · exact h.edge e y hy
        · exact ⟨hid, hx⟩
      · intro y hy
        rw [hregister.ids] at hy ⊢
        rw [left_register hd, incoming_append hd]
        by_cases hyx : y = x
        · subst hyx
          have hself : (Execution.register y s d).inDegree y = s.inDegree y + 1 := by
            rw [Execution.register, if_pos (phaseMap_isSome.mpr hd)]
            exact Function.update_self ..
          rw [hself, h.degree y hy, if_pos rfl]
          rfl
        · rw [hregister.inDegree y hyx, h.degree y hy, if_neg (Ne.symm hyx), Nat.add_zero]
      · intro e he
        rw [hregister.finished] at he
        rw [lateAfter]
        split
        · rename_i hfinished
          have hne : e ≠ d := fun heq => he (heq ▸ hfinished)
          rw [Function.update_of_ne hne]
          exact h.unfinished_late e he
        · exact h.unfinished_late e he
      · intro e y hy
        rw [mem_dependents_register]
        rw [lateAfter] at hy
        split at hy
        · by_cases he : e = d
          · subst he
            rw [Function.update_self, List.mem_append, List.mem_singleton] at hy
            rcases hy with hy | rfl
            · exact .inl (h.late_edge e y hy)
            · exact .inr ⟨rfl, rfl, hd⟩
          · rw [Function.update_of_ne he] at hy
            exact .inl (h.late_edge e y hy)
        · exact .inl (h.late_edge e y hy)
      · intro y hy
        rw [hregister.finished] at hy
        rw [hregister.ids]
        exact h.finished y hy
    · intro e y
      rw [lateAfter]
      split
      · rename_i hfinished
        by_cases he : e = d
        · subst he
          rw [Function.update_self, List.mem_append, List.mem_singleton]
          simp only [hfinished, and_true]
        · rw [Function.update_of_ne he]
          simp only [he, false_and, and_false, or_false]
      · rename_i hfinished
        simp only [hfinished, and_false, or_false]
  · have hsame : Execution.register x s d = s := by
      rw [Execution.register, if_neg (mt phaseMap_isSome.mp hd)]
    rw [hsame]
    refine ⟨late, h, fun e y => ?_⟩
    simp only [mt (h.finished d) hd, and_false, or_false]

theorem linked_registers (deps : List String) :
    ∀ {s : Run} {late : String → List String}, Linked s late → x ∈ s.ids →
      ∃ late', Linked (deps.foldl (Execution.register x) s) late' ∧
        ∀ e y, y ∈ late' e ↔ y ∈ late e ∨ (y = x ∧ e ∈ deps ∧ e ∈ s.finished) := by
  induction deps with
  | nil =>
      intro s late h _
      exact ⟨late, h, by simp⟩
  | cons dep deps ih =>
      intro s late h hx
      obtain ⟨late', hlinked, hlate⟩ := linked_register (d := dep) h hx
      have hx' : x ∈ (Execution.register x s dep).ids := by
        rw [registered_register.ids]
        exact hx
      obtain ⟨late'', hlinked', hlate'⟩ := ih hlinked hx'
      refine ⟨late'', hlinked', fun e y => ?_⟩
      rw [hlate', hlate, registered_register.finished, List.mem_cons]
      constructor
      · rintro ((h | ⟨hy, rfl, he⟩) | ⟨hy, he, hid⟩)
        · exact .inl h
        · exact .inr ⟨hy, .inl rfl, he⟩
        · exact .inr ⟨hy, .inr he, hid⟩
      · rintro (h | ⟨hy, rfl | he, hid⟩)
        · exact .inl (.inl h)
        · exact .inl (.inr ⟨hy, rfl, hid⟩)
        · exact .inr ⟨hy, he, hid⟩

/-! ### Before the first wave -/

theorem linked_registerPhases (listed : List PhaseIR) :
    ∀ {s : Run}, s.finished = ∅ → (∀ phase ∈ listed, phase.id ∈ s.ids) →
      Linked s (fun _ => []) →
      Linked (listed.foldl registerPhase s) (fun _ => []) ∧
        (listed.foldl registerPhase s).finished = ∅ ∧
        (listed.foldl registerPhase s).phases = s.phases ∧
        (∀ e y, y ∈ (listed.foldl registerPhase s).dependents e ↔ y ∈ s.dependents e ∨
          ∃ phase ∈ listed, phase.id = y ∧ e ∈ phase.dependencies ∧ e ∈ s.ids) := by
  induction listed with
  | nil =>
      intro s hnone _ h
      exact ⟨h, hnone, rfl, by simp⟩
  | cons first listed ih =>
      intro s hnone hids h
      have hfirst := registered_registers (x := first.id) first.dependencies s
      obtain ⟨late, hlinked, hlate⟩ := linked_registers first.dependencies h
        (hids first List.mem_cons_self)
      have hlate : late = fun _ => [] := by
        funext e
        refine List.eq_nil_iff_forall_not_mem.mpr fun y hy => ?_
        rcases (hlate e y).mp hy with hy | ⟨-, -, hy⟩
        · exact List.not_mem_nil hy
        · rw [hnone] at hy
          exact absurd hy (Finset.notMem_empty e)
      subst hlate
      have hids' : ∀ phase ∈ listed, phase.id ∈ (registerPhase s first).ids := by
        intro phase hphase
        rw [registerPhase, hfirst.ids]
        exact hids phase (List.mem_cons_of_mem first hphase)
      obtain ⟨hlinked', hnone', hphases, hedges⟩ :=
        ih (hfirst.finished.trans hnone) hids' hlinked
      refine ⟨hlinked', hnone', hphases.trans hfirst.phases, fun e y => ?_⟩
      have hedge := hedges e y
      rw [mem_dependents_registers, hfirst.ids] at hedge
      refine hedge.trans ?_
      simp only [List.mem_cons, exists_eq_or_imp]
      rw [or_assoc]
      refine or_congr_right (or_congr_left ?_)
      rw [eq_comm]

theorem unlinked_linked (hdistinct : (phases.map PhaseIR.id).Nodup) :
    Linked (unlinked phases) (fun _ => []) where
  distinct := hdistinct
  edge := fun _ _ h => absurd h List.not_mem_nil
  degree := by
    intro x _
    have hzero : incoming (unlinked phases).ids (left (unlinked phases) fun _ => []) x = 0 := by
      refine incoming_eq_zero.mpr fun d _ => ?_
      rw [left]
      split
      · exact List.not_mem_nil
      · exact List.not_mem_nil
    rw [hzero]
    rfl
  unfinished_late := fun _ _ => rfl
  late_edge := fun _ _ h => absurd h List.not_mem_nil
  finished := fun x h => absurd h (Finset.notMem_empty x)

theorem mem_ids : x ∈ s.ids ↔ ∃ phase ∈ s.phases, phase.id = x := by
  rw [Run.ids, List.mem_toFinset, List.mem_map]

theorem linked_spec (hdistinct : (phases.map PhaseIR.id).Nodup) :
    Linked (linked phases) (fun _ => []) ∧ (linked phases).finished = ∅ ∧
      (linked phases).phases = phases ∧
      (∀ e y, y ∈ (linked phases).dependents e ↔
        ∃ phase ∈ phases, phase.id = y ∧ e ∈ phase.dependencies ∧ e ∈ phases.map PhaseIR.id) := by
  have hids : ∀ phase ∈ phases, phase.id ∈ (unlinked phases).ids :=
    fun phase hphase => mem_ids.mpr ⟨phase, hphase, rfl⟩
  obtain ⟨hlinked, hfinished, hphases, hedges⟩ :=
    linked_registerPhases phases rfl hids (unlinked_linked hdistinct)
  refine ⟨hlinked, hfinished, hphases, fun e y => (hedges e y).trans ?_⟩
  have hmem : e ∈ (unlinked phases).ids ↔ e ∈ phases.map PhaseIR.id := List.mem_toFinset
  have hnone : y ∉ (unlinked phases).dependents e := List.not_mem_nil
  rw [or_iff_right hnone]
  simp only [hmem]

theorem counted_start (hdistinct : (phases.map PhaseIR.id).Nodup) :
    Counted (start phases) (start phases).ready (fun _ => []) := by
  obtain ⟨hlinked, hfinished, hphases, -⟩ := linked_spec hdistinct
  have hnone : ∀ x, x ∉ (start phases).finished := by
    intro x hx
    rw [show (start phases).finished = (linked phases).finished from rfl, hfinished] at hx
    exact Finset.notMem_empty x hx
  have hids : ∀ x, x ∈ (start phases).ids ↔ x ∈ phases.map PhaseIR.id := by
    intro x
    rw [show (start phases).ids = (linked phases).ids from rfl, Run.ids, hphases,
      List.mem_toFinset]
  have hready : ∀ x, x ∈ (start phases).ready ↔
      x ∈ phases.map PhaseIR.id ∧ (start phases).inDegree x = 0 := by
    intro x
    rw [start, List.mem_filter, decide_eq_true_eq]
  refine
    { hlinked with
      once := hdistinct.filter _
      listed := fun x hx => ⟨(hids x).mpr ((hready x).mp hx).1, hnone x⟩
      free := fun x hx => ?_ }
  rw [or_iff_left (hnone x), hready, and_iff_right ((hids x).mp hx)]

theorem books_registerPhases (listed : List PhaseIR) (s : Run) :
    (listed.foldl registerPhase s).phaseStatus = s.phaseStatus ∧
      (listed.foldl registerPhase s).attempts = s.attempts ∧
      (listed.foldl registerPhase s).history = s.history := by
  induction listed generalizing s with
  | nil => exact ⟨rfl, rfl, rfl⟩
  | cons first listed ih =>
      have h := registered_registers (x := first.id) first.dependencies s
      obtain ⟨hstatus, hattempts, hhistory⟩ := ih (registerPhase s first)
      exact ⟨hstatus.trans h.phaseStatus, hattempts.trans h.attempts, hhistory.trans h.history⟩

theorem finished_start (hdistinct : (phases.map PhaseIR.id).Nodup) :
    (start phases).finished = ∅ :=
  (linked_spec hdistinct).2.1

theorem phases_start (hdistinct : (phases.map PhaseIR.id).Nodup) :
    (start phases).phases = phases :=
  (linked_spec hdistinct).2.2.1

theorem mem_dependents_start (hdistinct : (phases.map PhaseIR.id).Nodup) :
    y ∈ (start phases).dependents d ↔
      ∃ phase ∈ phases, phase.id = y ∧ d ∈ phase.dependencies ∧ d ∈ phases.map PhaseIR.id :=
  (linked_spec hdistinct).2.2.2 d y

/-! ### Injected phases -/

theorem ids_appendPhase : (appendPhase s phase).ids = insert phase.id s.ids := by
  rw [Run.ids, appendPhase, List.map_append, List.toFinset_append, Finset.union_comm]
  rfl

theorem linked_appendPhase (h : Linked s late) (hnew : phase.id ∉ s.ids) :
    Linked (appendPhase s phase) late := by
  have hnone : s.dependents phase.id = [] :=
    List.eq_nil_iff_forall_not_mem.mpr fun y hy => hnew (h.edge phase.id y hy).1
  have hunfinished : phase.id ∉ s.finished := fun hf => hnew (h.finished phase.id hf)
  have hleft : left s late phase.id = [] := by rw [left, if_neg hunfinished, hnone]
  refine ⟨?_, ?_, ?_, h.unfinished_late, h.late_edge, ?_⟩
  · show ((s.phases ++ [phase]).map PhaseIR.id).Nodup
    rw [List.map_append]
    refine h.distinct.append (List.nodup_singleton _) fun x hx hx' => hnew ?_
    rw [List.mem_singleton.mp hx'] at hx
    exact List.mem_toFinset.mpr hx
  · intro e y hy
    rw [ids_appendPhase]
    exact ⟨Finset.mem_insert_of_mem (h.edge e y hy).1, Finset.mem_insert_of_mem (h.edge e y hy).2⟩
  · intro y hy
    rw [ids_appendPhase] at hy ⊢
    show Function.update s.inDegree phase.id 0 y = incoming _ (left s late) y
    rw [incoming_insert hnew hleft]
    by_cases hne : y = phase.id
    · subst hne
      have hzero : incoming s.ids (left s late) phase.id = 0 := by
        refine incoming_eq_zero.mpr fun d _ hd => hnew ?_
        rw [left] at hd
        split at hd
        · exact (h.edge d _ (h.late_edge d _ hd)).2
        · exact (h.edge d _ hd).2
      rw [Function.update_self, hzero]
      rfl
    · rw [Function.update_of_ne hne]
      exact h.degree y (Finset.mem_of_mem_insert_of_ne hy hne)
  · intro y hy
    rw [ids_appendPhase]
    exact Finset.mem_insert_of_mem (h.finished y hy)

theorem addPhase_of_mem (h : phase.id ∈ s.ids) : addPhase s phase = s := by
  rw [addPhase, if_pos (phaseMap_isSome.mpr h)]

structure Added (phase : PhaseIR) (s s' : Run) : Prop where
  phases : s'.phases = s.phases ++ [phase]
  phaseStatus : s'.phaseStatus = Function.update s.phaseStatus phase.id phase.status
  completed : s'.completedPhases = s.completedPhases
  failed : s'.failedPhases = s.failedPhases
  skipped : s'.skippedPhases = s.skippedPhases
  attempts : s'.attempts = s.attempts
  history : s'.history = s.history
  nextReady : s'.nextReady = s.nextReady
  dependents : ∀ e y, y ∈ s'.dependents e ↔ y ∈ s.dependents e ∨
    (y = phase.id ∧ e ∈ phase.dependencies ∧ (e = phase.id ∨ e ∈ s.ids))
  ready : ∀ y, y ≠ phase.id → (y ∈ s'.ready ↔ y ∈ s.ready)

theorem Added.finished (h : Added phase s s') : s'.finished = s.finished := by
  rw [Run.finished, h.completed, h.failed, h.skipped, Run.finished]

theorem addPhase_cases (s : Run) (phase : PhaseIR) :
    (phase.id ∈ s.ids ∧ addPhase s phase = s) ∨
      (phase.id ∉ s.ids ∧ Added phase s (addPhase s phase)) := by
  by_cases hid : phase.id ∈ s.ids
  · exact .inl ⟨hid, addPhase_of_mem hid⟩
  · refine .inr ⟨hid, ?_⟩
    have h := registered_registers (x := phase.id) phase.dependencies (appendPhase s phase)
    have hedges : ∀ e y, y ∈ (registerPhase (appendPhase s phase) phase).dependents e ↔
        y ∈ s.dependents e ∨
          (y = phase.id ∧ e ∈ phase.dependencies ∧ (e = phase.id ∨ e ∈ s.ids)) := by
      intro e y
      rw [registerPhase, mem_dependents_registers, ids_appendPhase, Finset.mem_insert]
      rfl
    rw [addPhase, if_neg (mt phaseMap_isSome.mp hid)]
    simp only
    split
    · refine ⟨h.phases, h.phaseStatus, h.completed, h.failed, h.skipped, h.attempts, h.history,
        h.nextReady, hedges, fun y hy => ?_⟩
      rw [List.mem_append, List.mem_singleton, or_iff_left hy, registerPhase, h.ready]
      rfl
    · refine ⟨h.phases, h.phaseStatus, h.completed, h.failed, h.skipped, h.attempts, h.history,
        h.nextReady, hedges, fun y _ => ?_⟩
      rw [registerPhase, h.ready]
      rfl

theorem counted_addPhase (h : Counted s s.ready late) (phase : PhaseIR) :
    ∃ late', Counted (addPhase s phase) (addPhase s phase).ready late' ∧
      ∀ e y, y ∈ late' e ↔ y ∈ late e ∨
        (phase.id ∉ s.ids ∧ y = phase.id ∧ e ∈ phase.dependencies ∧ e ∈ s.finished) := by
  by_cases hid : phase.id ∈ s.ids
  · rw [addPhase_of_mem hid]
    exact ⟨late, h, fun e y => by simp only [hid, not_true, false_and, or_false]⟩
  · have hregistered := registered_registers (x := phase.id) phase.dependencies
      (appendPhase s phase)
    have hmem : phase.id ∈ (appendPhase s phase).ids := by
      rw [ids_appendPhase]
      exact Finset.mem_insert_self _ _
    obtain ⟨late', hlinked, hlate⟩ := linked_registers phase.dependencies
      (linked_appendPhase h.toLinked hid) hmem
    refine ⟨late', ?_, fun e y => ?_⟩
    · have hready : phase.id ∉ s.ready := fun hr => hid (h.listed _ hr).1
      have hunfinished : phase.id ∉ s.finished := fun hf => hid (h.finished _ hf)
      have hids : (registerPhase (appendPhase s phase) phase).ids = insert phase.id s.ids := by
        rw [registerPhase, hregistered.ids, ids_appendPhase]
      have hfinished : (registerPhase (appendPhase s phase) phase).finished = s.finished :=
        hregistered.finished
      have hreadys : (registerPhase (appendPhase s phase) phase).ready = s.ready :=
        hregistered.ready
      have hdegree : ∀ y, y ≠ phase.id →
          (registerPhase (appendPhase s phase) phase).inDegree y = s.inDegree y := by
        intro y hy
        exact (hregistered.inDegree y hy).trans (Function.update_of_ne hy ..)
      have hlisted : ∀ y ∈ s.ready, y ∈ insert phase.id s.ids ∧ y ∉ s.finished :=
        fun y hy => ⟨Finset.mem_insert_of_mem (h.listed y hy).1, (h.listed y hy).2⟩
      rw [addPhase, if_neg (mt phaseMap_isSome.mp hid)]
      simp only
      split
      · rename_i hzero
        have hlinked' : Linked { registerPhase (appendPhase s phase) phase with
            ready := (registerPhase (appendPhase s phase) phase).ready ++ [phase.id] } late' :=
          ⟨hlinked.distinct, hlinked.edge, hlinked.degree, hlinked.unfinished_late,
            hlinked.late_edge, hlinked.finished⟩
        refine { hlinked' with once := ?_, listed := fun y hy => ?_, free := fun y hy => ?_ }
        · rw [hreadys]
          exact h.once.append (List.nodup_singleton _) fun y hy hy' =>
            hready (List.mem_singleton.mp hy' ▸ hy)
        · show y ∈ (registerPhase (appendPhase s phase) phase).ids ∧
            y ∉ (registerPhase (appendPhase s phase) phase).finished
          rw [hids, hfinished]
          rw [hreadys] at hy
          rcases List.mem_append.mp hy with hy | hy
          · exact hlisted y hy
          · rw [List.mem_singleton.mp hy]
            exact ⟨Finset.mem_insert_self _ _, hunfinished⟩
        · show (registerPhase (appendPhase s phase) phase).inDegree y = 0 ↔
            _ ∨ y ∈ (registerPhase (appendPhase s phase) phase).finished
          rw [hreadys, hfinished, List.mem_append, List.mem_singleton]
          by_cases hne : y = phase.id
          · subst hne
            exact iff_of_true hzero (.inl (.inr rfl))
          · have hold : y ∈ s.ids := by
              have hy' : y ∈ (registerPhase (appendPhase s phase) phase).ids := hy
              rw [hids] at hy'
              exact Finset.mem_of_mem_insert_of_ne hy' hne
            rw [hdegree y hne, h.free y hold, or_iff_left hne]
      · rename_i hzero
        refine { hlinked with once := ?_, listed := fun y hy => ?_, free := fun y hy => ?_ }
        · rw [hreadys]
          exact h.once
        · rw [hids, hfinished]
          rw [hreadys] at hy
          exact hlisted y hy
        · rw [hreadys, hfinished]
          by_cases hne : y = phase.id
          · subst hne
            exact iff_of_false hzero (not_or.mpr ⟨hready, hunfinished⟩)
          · rw [hids] at hy
            rw [hdegree y hne, h.free y (Finset.mem_of_mem_insert_of_ne hy hne)]
    · rw [hlate]
      simp only [hid, not_false_eq_true, true_and]
      rfl

end MindscapeLocalCore.DispatchOrchestrator.Registration
