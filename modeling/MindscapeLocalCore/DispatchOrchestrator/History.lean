import MindscapeLocalCore.DispatchOrchestrator.Registration

/-!
What the walk records of a phase: one status, the attempts, and when it was dispatched
and finished.
-/

namespace MindscapeLocalCore.DispatchOrchestrator.History

open Library Execution Accounts Registration

variable {s s' : Run} {todo pending : List String} {late : String → List String}
variable {d x y : String} {rest : List String} {status : PhaseStatus} {skipPolicy : String}
variable {outcome : String → Dispatched} {phases : List PhaseIR}
variable {phase : PhaseIR}

def members (s : Run) : PhaseStatus → Finset String
  | .completed => s.completedPhases
  | .failed => s.failedPhases
  | .skipped => s.skippedPhases
  | .pending => ∅
  | .running => ∅

theorem mem_finished : x ∈ s.finished ↔ ∃ status, x ∈ members s status := by
  rw [Run.finished, Finset.mem_union, Finset.mem_union]
  constructor
  · rintro ((h | h) | h)
    · exact ⟨.completed, h⟩
    · exact ⟨.failed, h⟩
    · exact ⟨.skipped, h⟩
  · rintro ⟨status, h⟩
    cases status with
    | completed => exact .inl (.inl h)
    | failed => exact .inl (.inr h)
    | skipped => exact .inr h
    | pending => exact absurd h (Finset.notMem_empty x)
    | running => exact absurd h (Finset.notMem_empty x)

/-- `x` is finished with `status`, in the three sets, on the phase and in the history. -/
structure Finish (x : String) (status : PhaseStatus) (s s' : Run) : Prop where
  phases : s'.phases = s.phases
  dependents : s'.dependents = s.dependents
  phaseStatus : s'.phaseStatus = Function.update s.phaseStatus x status
  history : s'.history = s.history ++ [.finished x status]
  members_self : members s' status = insert x (members s status)
  members_other : ∀ other, other ≠ status → members s' other = members s other

theorem finish_complete : Finish x .completed s (complete s x) where
  phases := rfl
  dependents := rfl
  phaseStatus := rfl
  history := rfl
  members_self := rfl
  members_other := by
    intro other h
    cases other <;> first | rfl | exact absurd rfl h

theorem finish_fail : Finish x .failed s (fail s x) where
  phases := rfl
  dependents := rfl
  phaseStatus := rfl
  history := rfl
  members_self := rfl
  members_other := by
    intro other h
    cases other <;> first | rfl | exact absurd rfl h

theorem finish_skip : Finish x .skipped s (skip s x) where
  phases := rfl
  dependents := rfl
  phaseStatus := rfl
  history := rfl
  members_self := rfl
  members_other := by
    intro other h
    cases other <;> first | rfl | exact absurd rfl h

theorem finish_recordResult (result : DispatchResult) :
    ∃ status, Finish x status s (recordResult s x result) ∧
      (recordResult s x result).attempts = s.attempts := by
  cases result with
  | raised => exact ⟨.failed, finish_fail, rfl⟩
  | returned text =>
      rw [recordResult]
      split
      · exact ⟨.completed, finish_complete, rfl⟩
      · split
        · exact ⟨.skipped, finish_skip, rfl⟩
        · exact ⟨.failed, finish_fail, rfl⟩

theorem finish_skipUpstream : Finish x .skipped s (skipUpstream (decrement s x) x) where
  phases := rfl
  dependents := rfl
  phaseStatus := rfl
  history := rfl
  members_self := rfl
  members_other := by
    intro other h
    cases other <;> first | rfl | exact absurd rfl h

theorem Finish.mem_members (h : Finish x status s s') {other : PhaseStatus} :
    y ∈ members s' other ↔ y ∈ members s other ∨ (y = x ∧ other = status) := by
  by_cases hother : other = status
  · subst hother
    rw [h.members_self, Finset.mem_insert, or_comm]
    simp only [and_true]
  · rw [h.members_other other hother]
    simp only [hother, and_false, or_false]

theorem Finish.mem_finished (h : Finish x status s s') :
    y ∈ s'.finished ↔ y ∈ s.finished ∨ y = x := by
  rw [History.mem_finished, History.mem_finished]
  simp only [h.mem_members, exists_or, exists_and_left, exists_eq, and_true]

def upstreamAttempt (phaseId : String) : PhaseAttempt :=
  { phaseId := phaseId
    attemptNumber := 1
    status := .skipped
    error := some "upstream_dependency_failed" }

def attemptsOf (s : Run) (phaseId : String) : List PhaseAttempt :=
  s.attempts.filter (·.phaseId = phaseId)

def Unsuccessful (status : PhaseStatus) : Prop := status = .failed ∨ status = .skipped

/-- A dependency for which `x` is skipped: one that has not completed, or one that came
after `x` with a status that says so. -/
def Blamed (s : Run) (x dep : String) : Prop :=
  (∃ status, Unsuccessful status ∧ dep ∈ members s status) ∨
    (x ∉ s.dependents dep ∧ ∃ phase ∈ s.phases, phase.id = dep ∧ Unsuccessful phase.status)

/-- `x` is skipped for its dependencies and not dispatched. -/
structure SkippedUpstream (s : Run) (x : String) : Prop where
  skipped : x ∈ s.skippedPhases
  undispatched : .dispatched x ∉ s.history
  attempts : attemptsOf s x = [upstreamAttempt x]
  blamed : ∃ phase ∈ s.phases, phase.id = x ∧ phase.strategy ≠ "retry" ∧
    ∃ dep ∈ phase.dependencies, dep ∈ s.ids ∧ Blamed s x dep

theorem SkippedUpstream.mono (h : SkippedUpstream s x)
    (hmembers : ∀ status, members s status ⊆ members s' status)
    (hphases : s.phases ⊆ s'.phases) (hdispatched : .dispatched x ∉ s'.history)
    (hattempts : attemptsOf s' x = attemptsOf s x)
    (hedges : ∀ e, x ∈ s'.dependents e → x ∈ s.dependents e) : SkippedUpstream s' x where
  skipped := hmembers .skipped h.skipped
  undispatched := hdispatched
  attempts := hattempts.trans h.attempts
  blamed := by
    obtain ⟨phase, hphase, hid, hstrategy, dep, hdep, hdepid, hblamed⟩ := h.blamed
    refine ⟨phase, hphases hphase, hid, hstrategy, dep, hdep, ?_, ?_⟩
    · obtain ⟨q, hq, hqid⟩ := mem_ids.mp hdepid
      exact mem_ids.mpr ⟨q, hphases hq, hqid⟩
    · rcases hblamed with ⟨status, hstatus, hmem⟩ | ⟨hnone, q, hq, hqid⟩
      · exact .inl ⟨status, hstatus, hmembers status hmem⟩
      · exact .inr ⟨fun he => hnone (hedges dep he), q, hphases hq, hqid⟩

/-- `todo` lists the phases whose dispatch is started and whose result is not read. -/
structure Recorded (s : Run) (todo : List String) : Prop where
  status : ∀ status x, x ∈ members s status → s.phaseStatus x = status
  preset : ∀ phase ∈ s.phases, phase.id ∉ s.finished → s.phaseStatus phase.id = phase.status
  event : ∀ status x, .finished x status ∈ s.history → x ∈ members s status
  logged : ∀ status x, x ∈ members s status → .finished x status ∈ s.history
  launched : ∀ x ∈ todo, .dispatched x ∈ s.history
  once : ∀ x, s.history.count (.dispatched x) ≤ 1
  unlaunched : ∀ x, x ∉ s.finished → x ∉ todo →
    .dispatched x ∉ s.history ∧ attemptsOf s x = []
  ended : ∀ x ∈ s.finished, .dispatched x ∈ s.history ∨ SkippedUpstream s x
  ordered : ∀ before rest x d, s.history = before ++ .dispatched x :: rest →
    x ∈ s.dependents d → ∃ status, .finished d status ∈ before
  finished_ordered : ∀ before rest status x d,
    s.history = before ++ .finished x status :: rest →
      x ∈ s.dependents d → ∃ status, .finished d status ∈ before

theorem Recorded.of_books (h : Recorded s todo) (hbooks : SameBooks s s') :
    Recorded s' todo := by
  have hmembers : members s' = members s := by
    funext status
    cases status with
    | completed => exact hbooks.completed
    | failed => exact hbooks.failed
    | skipped => exact hbooks.skipped
    | pending => rfl
    | running => rfl
  have hattempts : attemptsOf s' = attemptsOf s := by
    funext x
    rw [attemptsOf, hbooks.attempts, attemptsOf]
  refine ⟨?_, ?_, ?_, ?_, ?_, ?_, ?_, ?_, ?_, ?_⟩
  · rw [hmembers, hbooks.phaseStatus]; exact h.status
  · rw [hbooks.phases, hbooks.finished, hbooks.phaseStatus]; exact h.preset
  · rw [hmembers, hbooks.history]; exact h.event
  · rw [hmembers, hbooks.history]; exact h.logged
  · rw [hbooks.history]; exact h.launched
  · rw [hbooks.history]; exact h.once
  · rw [hbooks.finished, hbooks.history, hattempts]; exact h.unlaunched
  · rw [hbooks.finished]
    intro x hx
    refine (h.ended x hx).imp (fun hd => by rwa [hbooks.history]) fun hu => ?_
    refine hu.mono (fun status => by rw [hmembers]) (fun _ hp => by rwa [hbooks.phases]) ?_
      (by rw [hattempts]) (fun e he => by rwa [hbooks.dependents] at he)
    rw [hbooks.history]
    exact hu.undispatched
  · rw [hbooks.history, hbooks.dependents]; exact h.ordered
  · rw [hbooks.history, hbooks.dependents]; exact h.finished_ordered

theorem split_snoc {α : Type} {l before rest : List α} {a b : α}
    (h : l ++ [a] = before ++ b :: rest) :
    (l = before ∧ a = b) ∨ ∃ rest', l = before ++ b :: rest' := by
  rcases List.eq_nil_or_concat rest with rfl | ⟨rest', last, rfl⟩
  · obtain ⟨hl, ha⟩ := List.append_inj' h rfl
    exact .inl ⟨hl, (List.cons.inj ha).1⟩
  · rw [List.concat_eq_append, ← List.cons_append, ← List.append_assoc] at h
    exact .inr ⟨rest', (List.append_inj' h rfl).1⟩

/-- `todo'` is `todo` with or without the phase that is finished. -/
theorem Recorded.of_finish {todo' : List String} (h : Recorded s todo')
    (hfinish : Finish x status s s') (hx : x ∉ s.finished)
    (htodo : ∀ y, y ∈ todo → y ∈ todo') (htodo' : ∀ y, y ∈ todo' → y = x ∨ y ∈ todo)
    (hattempts : ∀ y, y ≠ x → attemptsOf s' y = attemptsOf s y)
    (hdeps : ∀ d, x ∈ s.dependents d → d ∈ s.finished)
    (hended : .dispatched x ∈ s.history ∨ SkippedUpstream s' x) : Recorded s' todo := by
  have hmono : ∀ {y}, .dispatched y ∈ s.history → .dispatched y ∈ s'.history := by
    intro y hy
    rw [hfinish.history]
    exact List.mem_append_left _ hy
  have hdispatched : ∀ {y}, .dispatched y ∈ s'.history ↔ .dispatched y ∈ s.history := by
    intro y
    rw [hfinish.history, List.mem_append, List.mem_singleton]
    exact or_iff_left nofun
  refine ⟨?_, ?_, ?_, ?_, ?_, ?_, ?_, ?_, ?_, ?_⟩
  · intro other y hy
    rw [hfinish.phaseStatus]
    rcases hfinish.mem_members.mp hy with hy | ⟨rfl, rfl⟩
    · have hne : y ≠ x := by
        rintro rfl
        exact hx (mem_finished.mpr ⟨other, hy⟩)
      rw [Function.update_of_ne hne]
      exact h.status other y hy
    · exact Function.update_self ..
  · intro phase hphase hid
    rw [hfinish.phases] at hphase
    rw [hfinish.mem_finished, not_or] at hid
    rw [hfinish.phaseStatus, Function.update_of_ne hid.2]
    exact h.preset phase hphase hid.1
  · intro other y hy
    rw [hfinish.history, List.mem_append, List.mem_singleton] at hy
    rcases hy with hy | hy
    · exact hfinish.mem_members.mpr (.inl (h.event other y hy))
    · obtain ⟨rfl, rfl⟩ := Event.finished.inj hy
      exact hfinish.mem_members.mpr (.inr ⟨rfl, rfl⟩)
  · intro other y hy
    rw [hfinish.history, List.mem_append, List.mem_singleton]
    rcases hfinish.mem_members.mp hy with hy | ⟨rfl, rfl⟩
    · exact .inl (h.logged other y hy)
    · exact .inr rfl
  · exact fun y hy => hmono (h.launched y (htodo y hy))
  · intro y
    rw [hfinish.history, List.count_append, List.count_singleton,
      if_neg (by exact Bool.false_ne_true), Nat.add_zero]
    exact h.once y
  · intro y hy hytodo
    rw [hfinish.mem_finished, not_or] at hy
    obtain ⟨hnone, hattempt⟩ := h.unlaunched y hy.1
      fun hy' => (htodo' y hy').elim hy.2 hytodo
    exact ⟨mt hdispatched.mp hnone, (hattempts y hy.2).trans hattempt⟩
  · intro y hy
    rcases hfinish.mem_finished.mp hy with hy | rfl
    · have hne : y ≠ x := fun heq => hx (heq ▸ hy)
      refine (h.ended y hy).imp hmono fun hu => ?_
      refine hu.mono (fun other z hz => hfinish.mem_members.mpr (.inl hz)) ?_ ?_
        (hattempts y hne) ?_
      · rw [hfinish.phases]
        exact List.Subset.refl _
      · exact mt hdispatched.mp hu.undispatched
      · intro e he
        rwa [hfinish.dependents] at he
    · exact hended.imp_left hmono
  · intro before rest y e hsplit hedge
    rw [hfinish.dependents] at hedge
    rw [hfinish.history] at hsplit
    rcases split_snoc hsplit with ⟨-, hevent⟩ | ⟨rest', hrest⟩
    · exact absurd hevent nofun
    · exact h.ordered before rest' y e hrest hedge
  · intro before rest other y e hsplit hedge
    rw [hfinish.dependents] at hedge
    rw [hfinish.history] at hsplit
    rcases split_snoc hsplit with ⟨rfl, hevent⟩ | ⟨rest', hrest⟩
    · obtain ⟨rfl, -⟩ := Event.finished.inj hevent
      obtain ⟨status, hstatus⟩ := mem_finished.mp (hdeps e hedge)
      exact ⟨status, h.logged status e hstatus⟩
    · exact h.finished_ordered before rest' other y e hrest hedge

theorem Recorded.of_dispatch (h : Recorded s todo) (hx : x ∉ s.finished) (htodo : x ∉ todo)
    (hdeps : ∀ d, x ∈ s.dependents d → d ∈ s.finished) :
    Recorded (dispatch outcome s x) (todo ++ [x]) := by
  have hnew := h.unlaunched x hx htodo
  have hattempts : ∀ y, y ≠ x → attemptsOf (dispatch outcome s x) y = attemptsOf s y := by
    intro y hy
    rw [attemptsOf, dispatch, List.filter_cons_of_neg, attemptsOf]
    rw [decide_eq_true_eq]
    exact fun heq => hy heq.symm
  have hhistory : (dispatch outcome s x).history = s.history ++ [.dispatched x] := rfl
  refine ⟨h.status, h.preset, ?_, ?_, ?_, ?_, ?_, ?_, ?_, ?_⟩
  · intro status y hy
    rw [hhistory, List.mem_append, List.mem_singleton] at hy
    exact h.event status y (hy.resolve_right nofun)
  · exact fun status y hy => List.mem_append_left _ (h.logged status y hy)
  · intro y hy
    rw [hhistory, List.mem_append, List.mem_singleton]
    rcases List.mem_append.mp hy with hy | hy
    · exact .inl (h.launched y hy)
    · exact .inr (congrArg Event.dispatched (List.mem_singleton.mp hy))
  · intro y
    rw [hhistory, List.count_append, List.count_singleton]
    by_cases hy : y = x
    · subst hy
      rw [List.count_eq_zero.mpr hnew.1]
      split <;> omega
    · rw [if_neg, Nat.add_zero]
      · exact h.once y
      · rw [beq_iff_eq, Event.dispatched.injEq]
        exact fun heq => hy heq.symm
  · intro y hy hytodo
    rw [List.mem_append, List.mem_singleton, not_or] at hytodo
    obtain ⟨hnone, hattempt⟩ := h.unlaunched y hy hytodo.1
    refine ⟨?_, (hattempts y hytodo.2).trans hattempt⟩
    rw [hhistory, List.mem_append, List.mem_singleton, not_or, Event.dispatched.injEq]
    exact ⟨hnone, hytodo.2⟩
  · intro y hy
    have hne : y ≠ x := fun heq => hx (heq ▸ hy)
    refine (h.ended y hy).imp (List.mem_append_left _) fun hu => ?_
    refine hu.mono (fun _ => Finset.Subset.refl _) (List.Subset.refl _) ?_ (hattempts y hne)
      fun _ he => he
    rw [hhistory, List.mem_append, List.mem_singleton, not_or, Event.dispatched.injEq]
    exact ⟨hu.undispatched, hne⟩
  · intro before rest y e hsplit hedge
    rw [hhistory] at hsplit
    rcases split_snoc hsplit with ⟨rfl, hevent⟩ | ⟨rest', hrest⟩
    · obtain rfl := Event.dispatched.inj hevent
      obtain ⟨status, hstatus⟩ := mem_finished.mp (hdeps e hedge)
      exact ⟨status, h.logged status e hstatus⟩
    · exact h.ordered before rest' y e hrest hedge
  · intro before rest status y e hsplit hedge
    rw [hhistory] at hsplit
    rcases split_snoc hsplit with ⟨-, hevent⟩ | ⟨rest', hrest⟩
    · exact absurd hevent nofun
    · exact h.finished_ordered before rest' status y e hrest hedge

/-! ### The release of a dependent -/

theorem mem_of_phaseMap (h : s.phaseMap x = some phase) : phase ∈ s.phases ∧ phase.id = x :=
  ⟨Table.mem_of_lookup h, Table.key_of_lookup h⟩

theorem phaseMap_of_mem (hdistinct : (s.phases.map PhaseIR.id).Nodup) (h : phase ∈ s.phases) :
    s.phaseMap phase.id = some phase :=
  Table.lookup_eq_some_of_mem hdistinct h

theorem upstreamFailed_iff :
    s.upstreamFailed d = true ↔ d ∈ s.ids ∧ Unsuccessful (s.phaseStatus d) := by
  rw [Run.upstreamFailed, Bool.and_eq_true, phaseMap_isSome, Bool.or_eq_true, decide_eq_true_eq,
    decide_eq_true_eq, Unsuccessful]

theorem shouldSkip_iff (hpolicy : skipPolicy ≠ "continue_on_dep_failure")
    (hphase : s.phaseMap x = some phase) :
    shouldSkip skipPolicy s x = true ↔ phase.strategy ≠ "retry" ∧
      ∃ dep ∈ phase.dependencies, dep ∈ s.ids ∧ Unsuccessful (s.phaseStatus dep) := by
  rw [shouldSkip, if_neg hpolicy, hphase]
  simp only
  cases hfind : phase.dependencies.find? s.upstreamFailed with
  | none =>
      refine iff_of_false Bool.false_ne_true ?_
      rintro ⟨-, dep, hdep, hfailed⟩
      exact List.find?_eq_none.mp hfind dep hdep (upstreamFailed_iff.mpr hfailed)
  | some dep =>
      rw [decide_eq_true_eq]
      refine (and_iff_left ⟨dep, List.mem_of_find?_eq_some hfind, ?_⟩).symm
      exact upstreamFailed_iff.mp (List.find?_some hfind)

theorem exists_blamed (h : shouldSkip skipPolicy s x = true) :
    ∃ phase ∈ s.phases, phase.id = x ∧ phase.strategy ≠ "retry" ∧
      ∃ dep ∈ phase.dependencies, dep ∈ s.ids ∧ Unsuccessful (s.phaseStatus dep) := by
  have hpolicy : skipPolicy ≠ "continue_on_dep_failure" := by
    intro hpolicy
    rw [shouldSkip, if_pos hpolicy] at h
    exact Bool.false_ne_true h
  cases hphase : s.phaseMap x with
  | none =>
      rw [shouldSkip, if_neg hpolicy, hphase] at h
      exact absurd h Bool.false_ne_true
  | some phase =>
      obtain ⟨hstrategy, hdep⟩ := (shouldSkip_iff hpolicy hphase).mp h
      exact ⟨phase, (mem_of_phaseMap hphase).1, (mem_of_phaseMap hphase).2, hstrategy, hdep⟩

/-- An unsuccessful dependency is to blame when it is finished, or when `x` never waited
for it. -/
theorem Recorded.blamed (h : Recorded s todo) (hdep : d ∈ s.ids)
    (hstatus : Unsuccessful (s.phaseStatus d))
    (hedge : x ∈ s.dependents d → d ∈ s.finished) : Blamed s x d := by
  by_cases hfinished : d ∈ s.finished
  · obtain ⟨status, hmem⟩ := mem_finished.mp hfinished
    rw [h.status status d hmem] at hstatus
    exact .inl ⟨status, hstatus, hmem⟩
  · obtain ⟨q, hq, rfl⟩ := mem_ids.mp hdep
    rw [h.preset q hq hfinished] at hstatus
    exact .inr ⟨fun he => hfinished (hedge he), q, hq, rfl, hstatus⟩

theorem skippedUpstream_skipUpstream (h : Recorded s todo) (hx : x ∉ s.finished)
    (htodo : x ∉ todo) (hskip : shouldSkip skipPolicy s x = true)
    (hedges : ∀ d, x ∈ s.dependents d → d ∈ s.finished) :
    SkippedUpstream (skipUpstream (decrement s x) x) x := by
  obtain ⟨hdispatched, hattempts⟩ := h.unlaunched x hx htodo
  refine ⟨Finset.mem_insert_self x _, ?_, ?_, ?_⟩
  · intro hmem
    have hmem' : Event.dispatched x ∈ s.history ++ [.finished x .skipped] := hmem
    rw [List.mem_append, List.mem_singleton] at hmem'
    exact hdispatched (hmem'.resolve_right nofun)
  · have hfind : s.attempts.find? (·.phaseId = x) = none := by
      rw [List.find?_eq_none]
      exact List.filter_eq_nil_iff.mp hattempts
    have hattempt : (createAttempt (decrement s x) x).markSkipped "upstream_dependency_failed" =
        upstreamAttempt x := by
      rw [createAttempt, show (decrement s x).attempts = s.attempts from rfl, hfind]
      rfl
    have hcons : (skipUpstream (decrement s x) x).attempts = upstreamAttempt x :: s.attempts := by
      rw [skipUpstream, hattempt]
      rfl
    rw [attemptsOf, hcons, List.filter_cons_of_pos]
    · exact congrArg _ hattempts
    · exact decide_eq_true rfl
  · obtain ⟨q, hq, hid, hstrategy, dep, hdep, hdepid, hstatus⟩ := exists_blamed hskip
    refine ⟨q, hq, hid, hstrategy, dep, hdep, hdepid, ?_⟩
    rcases h.blamed hdepid hstatus (hedges dep) with ⟨status, hst, hmem⟩ | hpreset
    · exact .inl ⟨status, hst, finish_skipUpstream.mem_members.mpr (.inl hmem)⟩
    · exact .inr hpreset

/-- The release of the dependents of `d`, of which `released` are left. -/
structure Releasing (s : Run) (d : String) (released todo : List String)
    (late : String → List String) : Prop where
  counted : Counted s (todo ++ s.nextReady) (Function.update late d released)
  recorded : Recorded s todo
  finished : d ∈ s.finished

theorem Releasing.finished_of_edge (h : Releasing s d (x :: rest) todo late)
    (hone : s.inDegree x = 1) (hedge : x ∈ s.dependents y) : y ∈ s.finished := by
  have hcounted := h.counted.of_decrement h.finished (Function.update_self ..)
  rw [inDegree_decrement_self, if_pos (by omega)] at hcounted
  exact hcounted.finished_of_edge (.inl List.mem_cons_self) hedge

theorem Releasing.waiting (h : Releasing s d (x :: rest) todo late) :
    x ∈ s.ids ∧ x ∉ todo ∧ x ∉ s.nextReady ∧ x ∉ s.finished := by
  have hlate : x ∈ Function.update late d (x :: rest) d := by
    rw [Function.update_self]
    exact List.mem_cons_self
  obtain ⟨hid, hpending, hfinished⟩ := h.counted.waiting h.finished hlate
  rw [List.mem_append, not_or] at hpending
  exact ⟨hid, hpending.1, hpending.2, hfinished⟩

theorem Releasing.next (h : Releasing s d (x :: rest) todo late) :
    Releasing (releaseDependent skipPolicy s x) d rest todo late := by
  obtain ⟨-, htodo, -, hx⟩ := h.waiting
  refine ⟨?_, ?_, sameGraph_releaseDependent.finished h.finished⟩
  · have hcounted : Counted (releaseDependent skipPolicy s x) _ _ :=
      h.counted.releaseDependent h.finished (Function.update_self ..)
    rwa [Function.update_idem] at hcounted
  · rcases releaseDependent_cases skipPolicy s x with
      ⟨-, hrelease⟩ | ⟨-, -, hrelease⟩ | ⟨hone, hskip, hrelease⟩
    · rw [hrelease]
      exact h.recorded.of_books sameBooks_decrement
    · rw [hrelease]
      exact h.recorded.of_books ⟨rfl, rfl, rfl, rfl, rfl, rfl, rfl, rfl, rfl⟩
    · rw [hrelease]
      have hskipped : Recorded (skipUpstream (decrement s x) x) todo := by
        refine h.recorded.of_finish finish_skipUpstream hx (fun _ hy => hy) (fun _ hy => .inr hy)
          (fun y hy => ?_) (fun e he => h.finished_of_edge hone he) (.inr ?_)
        · rw [attemptsOf, skipUpstream, List.filter_cons_of_neg]
          · rfl
          · rw [decide_eq_true_eq]
            exact fun heq => hy heq.symm
        · exact skippedUpstream_skipUpstream h.recorded hx htodo hskip
            fun e he => h.finished_of_edge hone he
      exact hskipped.of_books (sameBooks_releaseSubs _ _)

/-! ### The results of a wave -/

/-- The results of a wave are read, those of `todo` excepted. -/
structure Settling (s : Run) (todo : List String) (late : String → List String) : Prop where
  counted : Counted s (todo ++ s.nextReady) late
  recorded : Recorded s todo

theorem Settling.record (h : Settling s (x :: todo) late) (result : DispatchResult) :
    Releasing (recordResult s x result) x (s.dependents x) todo late := by
  obtain ⟨hphases, hdependents, hdegree, hnext, -⟩ :=
    phases_recordResult (s := s) (x := x) result
  have hfinished := finished_recordResult (s := s) (x := x) result
  have hx := h.counted.listed x List.mem_cons_self
  have htodo : x ∉ todo := fun hx =>
    (List.nodup_cons.mp h.counted.once).1 (List.mem_append_left _ hx)
  refine ⟨?_, ?_, ?_⟩
  · rw [hnext]
    exact h.counted.of_finish hphases hdependents hdegree hfinished
  · obtain ⟨status, hfinish, hattempts⟩ := finish_recordResult (s := s) (x := x) result
    refine h.recorded.of_finish hfinish hx.2 (fun y hy => List.mem_cons_of_mem x hy)
      (fun y hy => List.mem_cons.mp hy) (fun y _ => ?_)
      (fun e he => h.counted.finished_of_edge (.inl List.mem_cons_self) he)
      (.inl (h.recorded.launched x List.mem_cons_self))
    rw [attemptsOf, hattempts, attemptsOf]
  · rw [hfinished]
    exact Finset.mem_insert_self x _

theorem Releasing.settled (h : Releasing s d [] todo late) (hlate : late d = []) :
    Settling s todo late := by
  refine ⟨?_, h.recorded⟩
  have hcounted := h.counted
  rwa [← hlate, Function.update_eq_self] at hcounted

theorem Releasing.all (released : List String) :
    ∀ {s : Run}, Releasing s d released todo late →
      Releasing (released.foldl (releaseDependent skipPolicy) s) d [] todo late := by
  induction released with
  | nil => exact fun h => h
  | cons first released ih => exact fun h => ih h.next

theorem Settling.next (h : Settling s (x :: todo) late) :
    Settling (settle skipPolicy outcome s x) todo late :=
  (Releasing.all _ (h.record (outcome x).result)).settled
    (h.counted.unfinished_late x (h.counted.listed x List.mem_cons_self).2)

theorem Settling.all (pids : List String) :
    ∀ {s : Run}, Settling s pids late →
      Settling (pids.foldl (settle skipPolicy outcome) s) [] late := by
  induction pids with
  | nil => exact fun h => h
  | cons pid pids ih => exact fun h => ih h.next

/-! ### Waves and turns -/

structure Resting (s : Run) (late : String → List String) : Prop where
  counted : Counted s s.ready late
  recorded : Recorded s []

theorem recorded_dispatches (pids : List String) :
    ∀ {s : Run} {todo : List String}, Counted s (todo ++ pids) late → Recorded s todo →
      Recorded (pids.foldl (dispatch outcome) s) (todo ++ pids) := by
  induction pids with
  | nil =>
      intro s todo _ h
      rwa [List.append_nil]
  | cons pid pids ih =>
      intro s todo hcounted h
      have hpid : pid ∈ todo ++ pid :: pids := List.mem_append_right _ List.mem_cons_self
      have htodo : pid ∉ todo := fun hmem =>
        List.disjoint_of_nodup_append hcounted.once hmem List.mem_cons_self
      have hnext : Recorded (dispatch outcome s pid) (todo ++ [pid]) :=
        h.of_dispatch (hcounted.listed pid hpid).2 htodo
          fun e he => hcounted.finished_of_edge (.inl hpid) he
      have hcounted' : Counted (dispatch outcome s pid) ((todo ++ [pid]) ++ pids) late := by
        rw [List.append_assoc]
        exact hcounted.of_fields rfl rfl rfl rfl
      have hall := ih hcounted' hnext
      rwa [List.append_assoc] at hall

theorem Resting.launch (h : Resting s late) : Settling (launch outcome s) s.ready late := by
  have hlaunch := launched_launch outcome s
  refine ⟨?_, ?_⟩
  · rw [hlaunch.nextReady, List.append_nil]
    exact h.counted.of_fields hlaunch.phases hlaunch.dependents hlaunch.inDegree
      hlaunch.finished
  · have hcleared : Recorded { s with nextReady := [] } [] :=
      h.recorded.of_books ⟨rfl, rfl, rfl, rfl, rfl, rfl, rfl, rfl, rfl⟩
    have hcounted : Counted { s with nextReady := [] } ([] ++ s.ready) late :=
      h.counted.of_fields rfl rfl rfl rfl
    exact recorded_dispatches s.ready hcounted hcleared

theorem Resting.wave (h : Resting s late) : Resting (wave skipPolicy outcome s) late := by
  have hsettled : Settling
      (s.ready.foldl (settle skipPolicy outcome) (Execution.launch outcome s)) [] late :=
    Settling.all s.ready h.launch
  refine ⟨hsettled.counted.of_fields rfl rfl rfl rfl, ?_⟩
  have hr := hsettled.recorded
  exact ⟨hr.status, hr.preset, hr.event, hr.logged, hr.launched, hr.once, hr.unlaunched,
    fun x hx => (hr.ended x hx).imp_right
      fun hu => ⟨hu.skipped, hu.undispatched, hu.attempts, hu.blamed⟩, hr.ordered,
    hr.finished_ordered⟩

theorem recorded_start (hdistinct : (phases.map PhaseIR.id).Nodup) :
    Recorded (start phases) [] := by
  obtain ⟨hstatus, hattempts, hhistory⟩ := books_registerPhases phases (unlinked phases)
  have hnone : ∀ {x}, x ∉ (start phases).finished := by
    intro x
    rw [finished_start hdistinct]
    exact Finset.notMem_empty x
  have hmembers : ∀ {status x}, x ∉ members (start phases) status :=
    fun hmem => hnone (mem_finished.mpr ⟨_, hmem⟩)
  have hhistory : (start phases).history = [] := hhistory
  refine ⟨fun _ _ h => absurd h hmembers, ?_, ?_, fun _ _ h => absurd h hmembers, nofun, ?_, ?_,
    fun _ h => absurd h hnone, ?_, ?_⟩
  · intro phase hphase _
    rw [phases_start hdistinct] at hphase
    have hstart : (start phases).phaseStatus = (unlinked phases).phaseStatus := hstatus
    rw [hstart]
    show ((Table.lookup PhaseIR.id phase.id phases).map PhaseIR.status).getD .pending = _
    rw [Table.lookup_eq_some_of_mem hdistinct hphase]
    rfl
  · intro status x hx
    rw [hhistory] at hx
    exact absurd hx List.not_mem_nil
  · intro x
    rw [hhistory]
    exact Nat.zero_le 1
  · intro x _ _
    refine ⟨?_, ?_⟩
    · rw [hhistory]
      exact List.not_mem_nil
    · rw [attemptsOf, show (start phases).attempts = [] from hattempts]
      rfl
  · intro before rest x d hsplit
    rw [hhistory] at hsplit
    exact absurd hsplit (List.append_ne_nil_of_right_ne_nil _ (List.cons_ne_nil _ _)).symm
  · intro before rest status x d hsplit
    rw [hhistory] at hsplit
    exact absurd hsplit (List.append_ne_nil_of_right_ne_nil _ (List.cons_ne_nil _ _)).symm

theorem resting_start (hdistinct : (phases.map PhaseIR.id).Nodup) :
    Resting (start phases) (fun _ => []) :=
  ⟨counted_start hdistinct, recorded_start hdistinct⟩

theorem finished_settle : x ∈ (settle skipPolicy outcome s x).finished := by
  have hrecorded : x ∈ (recordResult s x (outcome x).result).finished := by
    rw [finished_recordResult]
    exact Finset.mem_insert_self x _
  exact (sameGraph_releaseDependents _ _).finished hrecorded

theorem finished_settles (pids : List String) :
    ∀ {s : Run}, x ∈ pids → x ∈ (pids.foldl (settle skipPolicy outcome) s).finished := by
  induction pids with
  | nil => exact fun h => absurd h List.not_mem_nil
  | cons pid pids ih =>
      intro s hx
      rcases List.mem_cons.mp hx with rfl | hx
      · exact (sameGraph_settles pids _).finished finished_settle
      · exact ih hx

theorem finished_wave (hx : x ∈ s.ready) : x ∈ (wave skipPolicy outcome s).finished :=
  finished_settles s.ready hx

theorem not_finished_of_trapped {c : Set String} (h : Recorded s todo)
    (htrapped : Dependencies.Trapped (fun x d => x ∈ s.dependents d) c) (hx : x ∈ c) :
    x ∉ s.finished := by
  intro hfinished
  obtain ⟨status, hstatus⟩ := mem_finished.mp hfinished
  have horder : ∀ x before event after, s.history = before ++ event :: after →
      (∃ status, event = .finished x status) → ∀ y, x ∈ s.dependents y →
      ∃ earlier ∈ before, ∃ status, earlier = .finished y status := by
    rintro x before event after hsplit ⟨status, rfl⟩ y hedge
    obtain ⟨status', hmem⟩ := h.finished_ordered before after status x y hsplit hedge
    exact ⟨_, hmem, status', rfl⟩
  exact Dependencies.not_marked_of_trapped horder htrapped hx _ (h.logged status x hstatus)
    ⟨status, rfl⟩

theorem all_finished (h : Resting s (fun _ => [])) (hidle : s.ready = [])
    (hacyclic : Dependencies.Acyclic fun x d => x ∈ s.dependents d) :
    ∀ x ∈ s.ids, x ∈ s.finished := by
  by_contra hopen
  push Not at hopen
  obtain ⟨start, hstart, hunfinished⟩ := hopen
  obtain ⟨x, hx, hfree⟩ := Dependencies.exists_free hacyclic (s.ids \ s.finished)
    ⟨start, Finset.mem_sdiff.mpr ⟨hstart, hunfinished⟩⟩
  rw [Finset.mem_sdiff] at hx
  have hwaits : ¬ (x ∈ s.ready ∨ x ∈ s.finished) := by
    rw [hidle]
    exact not_or.mpr ⟨List.not_mem_nil, hx.2⟩
  obtain ⟨d, hd, hleft⟩ := h.counted.exists_left hx.1 hwaits
  rw [left] at hleft
  split at hleft
  · exact List.not_mem_nil hleft
  · rename_i hd'
    exact hfree d (Finset.mem_sdiff.mpr ⟨hd, hd'⟩) hleft

end MindscapeLocalCore.DispatchOrchestrator.History
