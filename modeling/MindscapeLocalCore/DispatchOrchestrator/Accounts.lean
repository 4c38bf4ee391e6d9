import MindscapeLocalCore.DispatchOrchestrator.Execution
import MindscapeLocalCore.Library.Dependencies

/-!
The in-degrees of the walk count the edges that are left. A phase is waiting while an
edge into it is left, and every other phase is queued once or finished.
-/

namespace MindscapeLocalCore.DispatchOrchestrator.Accounts

open Library.Dependencies Execution

variable {s s' : Run} {pending pending' todo : List String} {late : String → List String}
variable {d x y : String} {rest : List String} {skipPolicy : String}
variable {outcome : String → Dispatched} {phases : List PhaseIR}

/-- The edges out of `d` that no release has consumed: all of them until `d` is
finished, and `late d` from then on. -/
def left (s : Run) (late : String → List String) (d : String) : List String :=
  if d ∈ s.finished then late d else s.dependents d

/-- Every phase is counted with the edges into it that are left. -/
structure Linked (s : Run) (late : String → List String) : Prop where
  distinct : (s.phases.map PhaseIR.id).Nodup
  edge : ∀ d x, x ∈ s.dependents d → d ∈ s.ids ∧ x ∈ s.ids
  degree : ∀ x ∈ s.ids, s.inDegree x = incoming s.ids (left s late) x
  unfinished_late : ∀ d, d ∉ s.finished → late d = []
  late_edge : ∀ d x, x ∈ late d → x ∈ s.dependents d
  finished : ∀ x ∈ s.finished, x ∈ s.ids

/-- `pending` lists the phases that are to be dispatched or whose results are not read. -/
structure Counted (s : Run) (pending : List String) (late : String → List String) : Prop
    extends Linked s late where
  once : pending.Nodup
  listed : ∀ x ∈ pending, x ∈ s.ids ∧ x ∉ s.finished
  free : ∀ x ∈ s.ids, s.inDegree x = 0 ↔ x ∈ pending ∨ x ∈ s.finished

theorem Counted.of_fields (h : Counted s pending late) (hphases : s'.phases = s.phases)
    (hdependents : s'.dependents = s.dependents) (hdegree : s'.inDegree = s.inDegree)
    (hfinished : s'.finished = s.finished) : Counted s' pending late := by
  have hids : s'.ids = s.ids := congrArg (fun p => (p.map PhaseIR.id).toFinset) hphases
  have hleft : left s' late = left s late := by
    funext d
    rw [left, left, hfinished, hdependents]
  refine ⟨⟨?_, ?_, ?_, ?_, ?_, ?_⟩, h.once, ?_, ?_⟩
  · rw [hphases]; exact h.distinct
  · rw [hdependents, hids]; exact h.edge
  · rw [hids, hdegree, hleft]; exact h.degree
  · rw [hfinished]; exact h.unfinished_late
  · rw [hdependents]; exact h.late_edge
  · rw [hids, hfinished]; exact h.finished
  · rw [hids, hfinished]; exact h.listed
  · rw [hids, hfinished, hdegree]; exact h.free

theorem Counted.of_perm (h : Counted s pending late) (hperm : pending.Perm pending') :
    Counted s pending' late where
  __ := h
  once := hperm.nodup_iff.mp h.once
  listed := fun x hx => h.listed x (hperm.mem_iff.mpr hx)
  free := fun x hx => (h.free x hx).trans (or_congr_left hperm.mem_iff)

theorem Counted.notMem_left (h : Counted s pending late)
    (hx : x ∈ pending ∨ x ∈ s.finished) : x ∉ left s late d := by
  have hid : x ∈ s.ids := hx.elim (fun hx => (h.listed x hx).1) (h.finished x)
  have hzero : incoming s.ids (left s late) x = 0 := by
    have hdegree := h.degree x hid
    rw [(h.free x hid).mpr hx] at hdegree
    exact_mod_cast hdegree.symm
  intro hleft
  have hedge : x ∈ s.dependents d := by
    rw [left] at hleft
    split at hleft
    · exact h.late_edge d x hleft
    · exact hleft
  exact incoming_eq_zero.mp hzero d (h.edge d x hedge).1 hleft

theorem Counted.finished_of_edge (h : Counted s pending late)
    (hx : x ∈ pending ∨ x ∈ s.finished) (hedge : x ∈ s.dependents d) :
    d ∈ s.finished := by
  by_contra hd
  refine h.notMem_left (d := d) hx ?_
  rwa [left, if_neg hd]

theorem Counted.exists_left (h : Counted s pending late) (hid : x ∈ s.ids)
    (hx : ¬ (x ∈ pending ∨ x ∈ s.finished)) : ∃ d ∈ s.ids, x ∈ left s late d := by
  by_contra hnone
  push Not at hnone
  refine hx ((h.free x hid).mp ?_)
  rw [h.degree x hid, incoming_eq_zero.mpr hnone]
  rfl

theorem Counted.waiting (h : Counted s pending late) (hd : d ∈ s.finished)
    (hlate : x ∈ late d) : x ∈ s.ids ∧ x ∉ pending ∧ x ∉ s.finished := by
  have hleft : x ∈ left s late d := by rwa [left, if_pos hd]
  refine ⟨(h.edge d x (h.late_edge d x hlate)).2, fun hx => ?_, fun hx => ?_⟩
  · exact h.notMem_left (.inl hx) hleft
  · exact h.notMem_left (.inr hx) hleft

/-! ### Finishing a phase -/

theorem left_of_finish (hfinished : s'.finished = insert x s.finished)
    (hdependents : s'.dependents = s.dependents) (hx : x ∉ s.finished) :
    left s' (Function.update late x (s.dependents x)) = left s late := by
  funext e
  rw [left, left, hfinished, hdependents]
  by_cases he : e = x
  · subst he
    rw [if_pos (Finset.mem_insert_self e _), if_neg hx, Function.update_self]
  · rw [Function.update_of_ne he]
    exact if_congr (by rw [Finset.mem_insert, or_iff_right he]) rfl rfl

theorem Counted.of_finish (h : Counted s (x :: pending) late)
    (hphases : s'.phases = s.phases) (hdependents : s'.dependents = s.dependents)
    (hdegree : s'.inDegree = s.inDegree) (hfinished : s'.finished = insert x s.finished) :
    Counted s' pending (Function.update late x (s.dependents x)) := by
  have hids : s'.ids = s.ids := congrArg (fun p => (p.map PhaseIR.id).toFinset) hphases
  have hx := h.listed x List.mem_cons_self
  have honce := List.nodup_cons.mp h.once
  refine ⟨⟨?_, ?_, ?_, ?_, ?_, ?_⟩, honce.2, ?_, ?_⟩
  · rw [hphases]; exact h.distinct
  · rw [hdependents, hids]; exact h.edge
  · rw [hids, hdegree, left_of_finish hfinished hdependents hx.2]; exact h.degree
  · intro d hd
    rw [hfinished, Finset.mem_insert, not_or] at hd
    rw [Function.update_of_ne hd.1]
    exact h.unfinished_late d hd.2
  · intro d y hy
    rw [hdependents]
    by_cases hdx : d = x
    · subst hdx
      rwa [Function.update_self] at hy
    · rw [Function.update_of_ne hdx] at hy
      exact h.late_edge d y hy
  · intro y hy
    rw [hfinished, Finset.mem_insert] at hy
    rw [hids]
    rcases hy with rfl | hy
    · exact hx.1
    · exact h.finished y hy
  · intro y hy
    have hlisted := h.listed y (List.mem_cons_of_mem x hy)
    rw [hids, hfinished, Finset.mem_insert, not_or]
    exact ⟨hlisted.1, fun heq => honce.1 (heq ▸ hy), hlisted.2⟩
  · intro y hy
    rw [hids] at hy
    rw [hdegree, hfinished, Finset.mem_insert, h.free y hy, List.mem_cons]
    tauto

/-! ### Consuming an edge -/

theorem left_update_of_finished (hd : d ∈ s.finished) (edges : List String) :
    left s (Function.update late d edges) = Function.update (left s late) d edges := by
  funext e
  by_cases he : e = d
  · subst he
    rw [left, if_pos hd, Function.update_self, Function.update_self]
  · rw [left, Function.update_of_ne he, Function.update_of_ne he, left]

theorem inDegree_decrement_self : (decrement s x).inDegree x = s.inDegree x - 1 :=
  Function.update_self ..

theorem inDegree_decrement_of_ne (h : y ≠ x) : (decrement s x).inDegree y = s.inDegree y :=
  Function.update_of_ne h ..

theorem Counted.degree_decrement (h : Counted s pending late) (hd : d ∈ s.finished)
    (hlate : late d = x :: rest) (hy : y ∈ s.ids) :
    (decrement s x).inDegree y =
      incoming s.ids (left s (Function.update late d rest)) y := by
  have hleft : left s late d = x :: rest := by rw [left, if_pos hd, hlate]
  have hcount := incoming_consume (h.finished d hd) hleft y
  have hdegree := h.degree y hy
  rw [left_update_of_finished hd]
  by_cases hyx : y = x
  · subst hyx
    rw [if_pos rfl] at hcount
    rw [inDegree_decrement_self, hdegree, hcount]
    omega
  · rw [if_neg (Ne.symm hyx), Nat.add_zero] at hcount
    rw [inDegree_decrement_of_ne hyx, hdegree, hcount]

/-- An edge of a finished phase is consumed. The phase that it led to is listed when
it was the last one. -/
theorem Counted.of_decrement (h : Counted s pending late) (hd : d ∈ s.finished)
    (hlate : late d = x :: rest) :
    Counted (decrement s x)
      (if (decrement s x).inDegree x = 0 then x :: pending else pending)
      (Function.update late d rest) := by
  have hwaiting := h.waiting hd (hlate ▸ List.mem_cons_self)
  refine
    { distinct := h.distinct
      edge := h.edge
      degree := fun y hy => h.degree_decrement hd hlate hy
      unfinished_late := fun e he => ?_
      late_edge := fun e y hy => ?_
      once := ?_
      listed := fun y hy => ?_
      finished := h.finished
      free := fun y hy => ?_ }
  · have hne : e ≠ d := fun hed => he (hed ▸ hd)
    rw [Function.update_of_ne hne]
    exact h.unfinished_late e he
  · by_cases he : e = d
    · subst he
      rw [Function.update_self] at hy
      exact h.late_edge e y (hlate ▸ List.mem_cons_of_mem x hy)
    · rw [Function.update_of_ne he] at hy
      exact h.late_edge e y hy
  · split
    · exact List.nodup_cons.mpr ⟨hwaiting.2.1, h.once⟩
    · exact h.once
  · split at hy
    · rcases List.mem_cons.mp hy with rfl | hy
      · exact ⟨hwaiting.1, hwaiting.2.2⟩
      · exact h.listed y hy
    · exact h.listed y hy
  · by_cases hyx : y = x
    · subst hyx
      split
      · rename_i hzero
        exact iff_of_true hzero (.inl List.mem_cons_self)
      · rename_i hzero
        exact iff_of_false hzero (not_or.mpr hwaiting.2)
    · rw [inDegree_decrement_of_ne hyx, h.free y hy]
      refine or_congr_left ?_
      split
      · rw [List.mem_cons, or_iff_right hyx]
      · rfl

/-! ### One wave -/

theorem Counted.releaseSub (h : Counted s (todo ++ s.nextReady) late) (hd : d ∈ s.finished)
    (hlate : late d = x :: rest) :
    Counted (releaseSub s x) (todo ++ (releaseSub s x).nextReady)
      (Function.update late d rest) := by
  have hcounted := h.of_decrement hd hlate
  rw [Execution.releaseSub]
  split
  · rename_i hzero
    rw [if_pos hzero] at hcounted
    have hperm : (x :: (todo ++ s.nextReady)).Perm (todo ++ (s.nextReady ++ [x])) := by
      rw [← List.append_assoc]
      exact (List.perm_append_singleton x _).symm
    exact (hcounted.of_perm hperm).of_fields rfl rfl rfl rfl
  · rename_i hzero
    rw [if_neg hzero] at hcounted
    exact hcounted

structure SameBooks (s s' : Run) : Prop where
  phases : s'.phases = s.phases
  phaseStatus : s'.phaseStatus = s.phaseStatus
  dependents : s'.dependents = s.dependents
  ready : s'.ready = s.ready
  completed : s'.completedPhases = s.completedPhases
  failed : s'.failedPhases = s.failedPhases
  skipped : s'.skippedPhases = s.skippedPhases
  attempts : s'.attempts = s.attempts
  history : s'.history = s.history

theorem SameBooks.refl (s : Run) : SameBooks s s := ⟨rfl, rfl, rfl, rfl, rfl, rfl, rfl, rfl, rfl⟩

theorem SameBooks.trans {s'' : Run} (h : SameBooks s s') (h' : SameBooks s' s'') :
    SameBooks s s'' where
  phases := h'.phases.trans h.phases
  phaseStatus := h'.phaseStatus.trans h.phaseStatus
  dependents := h'.dependents.trans h.dependents
  ready := h'.ready.trans h.ready
  completed := h'.completed.trans h.completed
  failed := h'.failed.trans h.failed
  skipped := h'.skipped.trans h.skipped
  attempts := h'.attempts.trans h.attempts
  history := h'.history.trans h.history

theorem SameBooks.finished (h : SameBooks s s') : s'.finished = s.finished := by
  rw [Run.finished, h.completed, h.failed, h.skipped, Run.finished]

theorem sameBooks_decrement : SameBooks s (decrement s x) :=
  ⟨rfl, rfl, rfl, rfl, rfl, rfl, rfl, rfl, rfl⟩

theorem sameBooks_releaseSub : SameBooks s (releaseSub s x) := by
  rw [releaseSub]
  split
  · exact ⟨rfl, rfl, rfl, rfl, rfl, rfl, rfl, rfl, rfl⟩
  · exact sameBooks_decrement

theorem sameBooks_releaseSubs (subs : List String) (s : Run) :
    SameBooks s (subs.foldl releaseSub s) := by
  induction subs generalizing s with
  | nil => exact SameBooks.refl s
  | cons sub subs ih => exact sameBooks_releaseSub.trans (ih (releaseSub s sub))

theorem Counted.releaseSubs (subs : List String) :
    ∀ {s : Run} {late : String → List String}, Counted s (todo ++ s.nextReady) late →
      d ∈ s.finished → late d = subs →
      Counted (subs.foldl Execution.releaseSub s)
        (todo ++ (subs.foldl Execution.releaseSub s).nextReady) (Function.update late d []) := by
  induction subs with
  | nil =>
      intro s late h _ hlate
      have hsame : Function.update late d [] = late := by rw [← hlate, Function.update_eq_self]
      rw [hsame]
      exact h
  | cons sub subs ih =>
      intro s late h hd hlate
      have hd' : d ∈ (Execution.releaseSub s sub).finished := by
        rw [sameBooks_releaseSub.finished]
        exact hd
      have hnext := ih (h.releaseSub hd hlate) hd' (Function.update_self ..)
      rwa [Function.update_idem] at hnext

theorem releaseDependent_cases (skipPolicy : String) (s : Run) (x : String) :
    (s.inDegree x ≠ 1 ∧ releaseDependent skipPolicy s x = decrement s x) ∨
    (s.inDegree x = 1 ∧ shouldSkip skipPolicy s x = false ∧
      releaseDependent skipPolicy s x = pushReady (decrement s x) x) ∨
    (s.inDegree x = 1 ∧ shouldSkip skipPolicy s x = true ∧
      releaseDependent skipPolicy s x =
        (s.dependents x).foldl releaseSub (skipUpstream (decrement s x) x)) := by
  have hskip : shouldSkip skipPolicy (decrement s x) x = shouldSkip skipPolicy s x := rfl
  rw [releaseDependent, inDegree_decrement_self, hskip]
  by_cases hone : s.inDegree x = 1
  · rw [if_pos (by omega)]
    cases hs : shouldSkip skipPolicy s x with
    | true => exact .inr (.inr ⟨hone, rfl, if_pos rfl⟩)
    | false => exact .inr (.inl ⟨hone, rfl, if_neg Bool.false_ne_true⟩)
  · exact .inl ⟨hone, if_neg (by omega)⟩

theorem finished_skip : (skip s x).finished = insert x s.finished := by
  rw [Run.finished, skip, Finset.union_insert, Run.finished]

theorem finished_skipUpstream : (skipUpstream s x).finished = insert x s.finished :=
  finished_skip

theorem finished_recordResult (result : DispatchResult) :
    (recordResult s x result).finished = insert x s.finished := by
  have hfail : (fail s x).finished = insert x s.finished := by
    rw [Run.finished, fail, Finset.union_insert, Finset.insert_union, Run.finished]
  have hcomplete : (complete s x).finished = insert x s.finished := by
    rw [Run.finished, complete, Finset.insert_union, Finset.insert_union, Run.finished]
  cases result with
  | raised => exact hfail
  | returned status =>
      rw [recordResult]
      split
      · exact hcomplete
      · split
        · exact finished_skip
        · exact hfail

theorem phases_recordResult (result : DispatchResult) :
    (recordResult s x result).phases = s.phases ∧
      (recordResult s x result).dependents = s.dependents ∧
      (recordResult s x result).inDegree = s.inDegree ∧
      (recordResult s x result).nextReady = s.nextReady ∧
      (recordResult s x result).ready = s.ready := by
  cases result with
  | raised => exact ⟨rfl, rfl, rfl, rfl, rfl⟩
  | returned status =>
      rw [recordResult]
      split
      · exact ⟨rfl, rfl, rfl, rfl, rfl⟩
      · split
        · exact ⟨rfl, rfl, rfl, rfl, rfl⟩
        · exact ⟨rfl, rfl, rfl, rfl, rfl⟩

theorem Counted.releaseDependent (h : Counted s (todo ++ s.nextReady) late)
    (hd : d ∈ s.finished) (hlate : late d = x :: rest) :
    Counted (releaseDependent skipPolicy s x)
      (todo ++ (releaseDependent skipPolicy s x).nextReady) (Function.update late d rest) := by
  have hcounted := h.of_decrement hd hlate
  have hwaiting := h.waiting hd (hlate ▸ List.mem_cons_self)
  rw [inDegree_decrement_self] at hcounted
  rcases releaseDependent_cases skipPolicy s x with
    ⟨hone, hrelease⟩ | ⟨hone, -, hrelease⟩ | ⟨hone, -, hrelease⟩
  · rw [if_neg (by omega)] at hcounted
    rw [hrelease]
    exact hcounted
  · rw [if_pos (by omega)] at hcounted
    rw [hrelease]
    have hperm : (x :: (todo ++ s.nextReady)).Perm (todo ++ (s.nextReady ++ [x])) := by
      rw [← List.append_assoc]
      exact (List.perm_append_singleton x _).symm
    exact (hcounted.of_perm hperm).of_fields rfl rfl rfl rfl
  · rw [if_pos (by omega)] at hcounted
    rw [hrelease]
    have hskipped : Counted (skipUpstream (decrement s x) x) (todo ++ s.nextReady)
        (Function.update (Function.update late d rest) x (s.dependents x)) :=
      hcounted.of_finish rfl rfl rfl finished_skipUpstream
    have hx : x ∈ (skipUpstream (decrement s x) x).finished := by
      rw [finished_skipUpstream]
      exact Finset.mem_insert_self x _
    have hsubs := Counted.releaseSubs (s.dependents x) hskipped hx (Function.update_self ..)
    have hxd : x ≠ d := fun heq => hwaiting.2.2 (heq ▸ hd)
    have hnone : late x = [] := h.unfinished_late x hwaiting.2.2
    rw [Function.update_idem] at hsubs
    have hsame : Function.update (Function.update late d rest) x [] =
        Function.update late d rest := by
      rw [← hnone, ← Function.update_of_ne hxd rest late, Function.update_eq_self]
    rwa [hsame] at hsubs

structure SameGraph (s s' : Run) : Prop where
  phases : s'.phases = s.phases
  dependents : s'.dependents = s.dependents
  finished : s.finished ⊆ s'.finished

theorem SameGraph.refl (s : Run) : SameGraph s s := ⟨rfl, rfl, Finset.Subset.refl _⟩

theorem SameGraph.trans {s'' : Run} (h : SameGraph s s') (h' : SameGraph s' s'') :
    SameGraph s s'' where
  phases := h'.phases.trans h.phases
  dependents := h'.dependents.trans h.dependents
  finished := h.finished.trans h'.finished

theorem SameBooks.graph (h : SameBooks s s') : SameGraph s s' where
  phases := h.phases
  dependents := h.dependents
  finished := by rw [h.finished]

theorem sameGraph_releaseDependent : SameGraph s (releaseDependent skipPolicy s x) := by
  rcases releaseDependent_cases skipPolicy s x with
    ⟨-, hrelease⟩ | ⟨-, -, hrelease⟩ | ⟨-, -, hrelease⟩
  · rw [hrelease]
    exact sameBooks_decrement.graph
  · rw [hrelease]
    exact ⟨rfl, rfl, Finset.Subset.refl _⟩
  · rw [hrelease]
    have hskipped : SameGraph s (skipUpstream (decrement s x) x) := by
      refine ⟨rfl, rfl, ?_⟩
      rw [finished_skipUpstream]
      exact Finset.subset_insert x _
    exact hskipped.trans (sameBooks_releaseSubs _ _).graph

theorem sameGraph_recordResult (result : DispatchResult) :
    SameGraph s (recordResult s x result) := by
  have hfields := phases_recordResult (s := s) (x := x) result
  refine ⟨hfields.1, hfields.2.1, ?_⟩
  rw [finished_recordResult]
  exact Finset.subset_insert x _

theorem sameGraph_releaseDependents (released : List String) (s : Run) :
    SameGraph s (released.foldl (releaseDependent skipPolicy) s) := by
  induction released generalizing s with
  | nil => exact SameGraph.refl s
  | cons first released ih =>
      exact sameGraph_releaseDependent.trans (ih (releaseDependent skipPolicy s first))

theorem sameGraph_settle : SameGraph s (settle skipPolicy outcome s x) :=
  (sameGraph_recordResult _).trans (sameGraph_releaseDependents _ _)

theorem sameGraph_settles (pids : List String) (s : Run) :
    SameGraph s (pids.foldl (settle skipPolicy outcome) s) := by
  induction pids generalizing s with
  | nil => exact SameGraph.refl s
  | cons pid pids ih => exact sameGraph_settle.trans (ih (settle skipPolicy outcome s pid))

/-- What the start of the dispatches leaves as it is. -/
structure Launched (s s' : Run) : Prop where
  phases : s'.phases = s.phases
  phaseStatus : s'.phaseStatus = s.phaseStatus
  dependents : s'.dependents = s.dependents
  inDegree : s'.inDegree = s.inDegree
  ready : s'.ready = s.ready
  nextReady : s'.nextReady = s.nextReady
  completed : s'.completedPhases = s.completedPhases
  failed : s'.failedPhases = s.failedPhases
  skipped : s'.skippedPhases = s.skippedPhases

theorem Launched.finished (h : Launched s s') : s'.finished = s.finished := by
  rw [Run.finished, h.completed, h.failed, h.skipped, Run.finished]

theorem launched_dispatches (outcome : String → Dispatched) (pids : List String) (s : Run) :
    Launched s (pids.foldl (dispatch outcome) s) := by
  induction pids generalizing s with
  | nil => exact ⟨rfl, rfl, rfl, rfl, rfl, rfl, rfl, rfl, rfl⟩
  | cons pid pids ih =>
      have h := ih (dispatch outcome s pid)
      exact ⟨h.phases, h.phaseStatus, h.dependents, h.inDegree, h.ready, h.nextReady,
        h.completed, h.failed, h.skipped⟩

theorem launched_launch (outcome : String → Dispatched) (s : Run) :
    Launched { s with nextReady := [] } (launch outcome s) :=
  launched_dispatches outcome s.ready { s with nextReady := [] }

theorem sameGraph_wave : SameGraph s (wave skipPolicy outcome s) := by
  have hlaunch := launched_launch outcome s
  have hlaunched : SameGraph s (launch outcome s) := by
    refine ⟨hlaunch.phases, hlaunch.dependents, ?_⟩
    rw [hlaunch.finished]
    exact Finset.Subset.refl _
  have hsettled : SameGraph (launch outcome s)
      (s.ready.foldl (settle skipPolicy outcome) (launch outcome s)) :=
    sameGraph_settles s.ready (launch outcome s)
  exact ⟨(hlaunched.trans hsettled).phases, (hlaunched.trans hsettled).dependents,
    (hlaunched.trans hsettled).finished⟩

end MindscapeLocalCore.DispatchOrchestrator.Accounts
